/-
  Reading the written strings and numbers of JSON.

  * `unescape?_of_escape`: an escape stands for the character for which it was written;
  * `bare_stringOnto`: a written string is read back;
  * `bare_numberValue`: so is a natural number of 64 bits, where no number goes on behind it.
-/
import FederatedQuery.Json.Reader

namespace FederatedQuery.Json

open CharReader (bare)

/-! ## Escapes -/

theorem hexValue_hexDigit {d : Nat} (h : d < 16) : Hex.value? (hexDigit d) = some d := by
  revert d
  decide

theorem unit?_hexDigits {n : Nat} (h : n < 32) :
    unit? '0' '0' (hexDigit (n / 16)) (hexDigit (n % 16)) = some n := by
  have hzero : Hex.value? '0' = some 0 := by decide
  have hhigh : Hex.value? (hexDigit (n / 16)) = some (n / 16) := hexValue_hexDigit (by omega)
  have hlow : Hex.value? (hexDigit (n % 16)) = some (n % 16) := hexValue_hexDigit (by omega)
  simp only [unit?, hzero, hhigh, hlow, Option.bind_eq_bind, Option.bind_some, Option.some.injEq]
  omega

/-- The characters with an escape of one letter. -/
def lettered : List Char := ['"', '\\', '\x08', '\t', '\n', '\x0c', '\r']

/-- A character stands for itself, or it is escaped and its escape stands for it. -/
theorem unescape?_of_escape (c : Char) :
    (escape c = [c] ∧ c ≠ '"' ∧ c ≠ '\\' ∧ 32 ≤ c.toNat) ∨
      ∃ cs, escape c = '\\' :: cs ∧ ∀ care rest, unescape? care (cs ++ rest) = some (c, rest) := by
  by_cases hletter : c ∈ lettered
  · right
    simp only [lettered, List.mem_cons, List.not_mem_nil, or_false] at hletter
    rcases hletter with rfl | rfl | rfl | rfl | rfl | rfl | rfl <;> exact ⟨_, rfl, fun _ _ => rfl⟩
  · simp only [lettered, List.mem_cons, List.not_mem_nil, or_false, not_or] at hletter
    by_cases hcontrol : c.toNat < 32
    · refine Or.inr ⟨['u', '0', '0', hexDigit (c.toNat / 16), hexDigit (c.toNat % 16)],
        by simp [escape, hletter, hcontrol], fun care rest => ?_⟩
      have hunit := unit?_hexDigits hcontrol
      have hwhole : c.toNat < 0xd800 ∨ 0xdfff < c.toNat := Or.inl (by omega)
      cases care with
      | used => simp [unescape?, hunit, ofUnit?, hwhole, Char.ofNat_toNat]
      | skipped => simp [unescape?, hunit, Char.ofNat_toNat]
    · exact Or.inl ⟨by simp [escape, hletter, hcontrol], hletter.1, hletter.2.1, Nat.not_lt.1 hcontrol⟩

/-! ## Strings -/

theorem bare_stringOnto_plain {care : Care} {done rest : List Char} {c : Char}
    (hquote : c ≠ '"') (hbackslash : c ≠ '\\') (hcontrol : 32 ≤ c.toNat) {bound : Nat}
    (h : (c :: rest).length ≤ bound) (h' : rest.length ≤ bound) :
    bare (stringOnto care done (c :: rest) bound h) =
      bare (stringOnto care (c :: done) rest bound h') := by
  rw [stringOnto]
  · rw [if_neg (Nat.not_lt.2 hcontrol)]
  · exact hquote
  · exact hbackslash

theorem bare_stringOnto_escape {care : Care} {done input rest : List Char} {c : Char}
    (hc : unescape? care input = some (c, rest)) {bound : Nat}
    (h : ('\\' :: input).length ≤ bound) (h' : rest.length ≤ bound) :
    bare (stringOnto care done ('\\' :: input) bound h) =
      bare (stringOnto care (c :: done) rest bound h') := by
  rw [stringOnto]
  split
  · next h' => rw [hc] at h'; cases h'
  · next h' => rw [hc] at h'; cases h'; rfl

/-- **Strings**: a written string is read back. -/
theorem bare_stringOnto (care : Care) (done cs rest : List Char) {bound : Nat}
    (h : (cs.flatMap escape ++ '"' :: rest).length ≤ bound) :
    bare (stringOnto care done (cs.flatMap escape ++ '"' :: rest) bound h) =
      some (String.ofList (done.reverse ++ cs), rest) := by
  induction cs generalizing done with
  | nil => simp [stringOnto]
  | cons c cs ih =>
    have hle : (cs.flatMap escape ++ '"' :: rest).length ≤ bound := by
      simp only [List.flatMap_cons, List.append_assoc, List.length_append] at h ⊢
      omega
    have hnext := ih (c :: done) hle
    rcases unescape?_of_escape c with ⟨he, hquote, hbackslash, hcontrol⟩ | ⟨es, he, hread⟩
    · simp only [List.flatMap_cons, he, List.cons_append, List.nil_append] at h ⊢
      rw [bare_stringOnto_plain hquote hbackslash hcontrol h hle, hnext]
      simp
    · simp only [List.flatMap_cons, he, List.cons_append, List.append_assoc] at h ⊢
      rw [bare_stringOnto_escape (hread care _) h hle, hnext]
      simp

/-! ## Numbers -/

/-- What may follow a value. -/
def Ends (rest : List Char) : Prop := ∀ c ∈ rest.head?, c = ',' ∨ c = ']' ∨ c = '\x7d'

namespace Number

theorem isDigit_toDigits {n : Nat} {d : Char} (h : d ∈ Nat.toDigits 10 n) : d.isDigit = true :=
  Nat.isDigit_of_mem_toDigits (by decide) (by decide) h

/-- The digits of a number begin with a zero only if it is zero. -/
theorem head?_toDigits {n : Nat} (h : n ≠ 0) : (Nat.toDigits 10 n).head? ≠ some '0' := by
  induction n using Nat.strongRecOn with
  | ind n ih =>
    by_cases hsmall : n < 10
    · have hdigit : ∀ d < 10, d ≠ 0 → Nat.digitChar d ≠ '0' := by decide
      simpa [Nat.toDigits_of_lt_base hsmall] using hdigit n hsmall h
    · have hhead := ih (n / 10) (by omega) (by omega)
      rw [Nat.toDigits_of_base_le (by decide) (Nat.not_lt.1 hsmall), List.head?_append]
      cases hd : (Nat.toDigits 10 (n / 10)).head? with
      | none => exact absurd (List.head?_eq_none_iff.1 hd) Nat.toDigits_ne_nil
      | some c => rwa [hd] at hhead

theorem digits?_of_digits {ds rest : List Char} (hne : ds ≠ []) (hds : ∀ d ∈ ds, d.isDigit = true)
    (hr : ∀ c ∈ rest.head?, c.isDigit = false) : digits? (ds ++ rest) = some (ds, rest) := by
  obtain ⟨htake, hdrop⟩ := CharReader.takeWhile_append_of_head hds hr
  rw [digits?, htake, hdrop]
  cases ds with
  | nil => exact absurd rfl hne
  | cons d ds => rfl

/-- The digits of a natural number are an integer without needless zeros. -/
theorem whole?_toDigits (n : Nat) {rest : List Char} (hr : ∀ c ∈ rest.head?, c.isDigit = false) :
    whole? (Nat.toDigits 10 n ++ rest) = some (Nat.toDigits 10 n, rest) := by
  by_cases hn : n = 0
  · subst hn
    rfl
  · have hhead := head?_toDigits hn
    rw [whole?]
    · exact digits?_of_digits Nat.toDigits_ne_nil (fun _ => isDigit_toDigits) hr
    · intro after he
      cases hd : Nat.toDigits 10 n with
      | nil => exact Nat.toDigits_ne_nil hd
      | cons d ds =>
        rw [hd, List.cons_append, List.cons.injEq] at he
        exact hhead (by rw [hd, he.1]; rfl)

theorem read?_toDigits (n : Nat) {rest : List Char} (hr : Ends rest) :
    read? (Nat.toDigits 10 n ++ rest) = some (⟨[], Nat.toDigits 10 n, [], [], []⟩, rest) := by
  have hdigit : ∀ c ∈ rest.head?, c.isDigit = false := fun c hc => by
    rcases hr c hc with rfl | rfl | rfl <;> rfl
  have hwhole := whole?_toDigits n hdigit
  have hsign : splitSign (Nat.toDigits 10 n ++ rest) = ([], Nat.toDigits 10 n ++ rest) := by
    cases hd : Nat.toDigits 10 n with
    | nil => exact absurd hd Nat.toDigits_ne_nil
    | cons d ds =>
      have hdigit : d.isDigit = true := isDigit_toDigits (hd ▸ List.mem_cons_self)
      unfold splitSign
      split
      · next he => cases he; cases hdigit
      · rfl
  have hfraction : fraction? rest = some ([], rest) := by
    unfold fraction?
    split
    · next after => simp [Ends] at hr
    · rfl
  have hexponent : exponent? rest = some (([], []), rest) := by
    have hmark : splitMark rest = ([], rest) := by
      unfold splitMark
      split <;> first | rfl | simp [Ends] at hr
    rw [exponent?, hmark]
  simp only [read?, hsign, hwhole, hfraction, hexponent, Option.bind_eq_bind, Option.bind_some]

theorem gather_of_lt {ds : List Char} {m : Nat} (h : Nat.ofDigitChars 10 ds m < Nat.pow 2 64) :
    gather m ds = (Nat.ofDigitChars 10 ds m, []) := by
  induction ds generalizing m with
  | nil => rfl
  | cons d ds ih =>
    have hle := Decimal.le_ofDigitChars (10 * m + (d.toNat - '0'.toNat)) ds
    rw [Nat.ofDigitChars_cons] at h ⊢
    rw [gather, if_pos (Nat.lt_of_le_of_lt hle h), ih h]

theorem round53_le {n : Nat} (h : n < Nat.pow 2 64) : round53 n ≤ Nat.pow 2 65 := by
  have hunit : Nat.pow 2 (n.log2 + 1 - 53) ≤ Nat.pow 2 64 := by
    refine Nat.pow_le_pow_right (by decide) ?_
    have hlog : n.log2 < 64 ∨ n = 0 := by
      by_cases hn : n = 0
      · exact Or.inr hn
      · exact Or.inl ((Nat.log2_lt hn).2 h)
    rcases hlog with hlog | rfl
    · omega
    · decide
  have hkept : n / Nat.pow 2 (n.log2 + 1 - 53) * Nat.pow 2 (n.log2 + 1 - 53) ≤ n :=
    Nat.div_mul_le_self ..
  have hdouble : Nat.pow 2 65 = 2 * Nat.pow 2 64 := rfl
  unfold round53
  simp only
  split
  · rw [Nat.succ_mul]
    omega
  · omega

/-- A natural number of 64 bits is in range. -/
theorem fits_toDigits {n : Nat} (h : n < Nat.pow 2 64) :
    fits ⟨[], Nat.toDigits 10 n, [], [], []⟩ = true := by
  have hgather : gather 0 (Nat.toDigits 10 n) = (n, []) := by
    rw [gather_of_lt] <;> rw [Nat.ofDigitChars_ten_toDigits]
    exact h
  have hrange : inRange n 0 = true := by
    have hone : round53 (Nat.pow 10 (0 : Int).toNat) = 1 := by decide
    have hlarge : Nat.pow 2 65 < Nat.pow 2 1024 - Nat.pow 2 970 := by decide +kernel
    have hlt := Nat.lt_of_le_of_lt (round53_le h) hlarge
    simp only [inRange, hone, Nat.mul_one, decide_eq_true hlt]
    simp
  have hexponent : Decimal.read? (Nat.pow 2 31 - 1) [] = some 0 := rfl
  simp only [fits, hgather, gather, hexponent]
  simpa using hrange

end Number

/-- **Numbers**: a natural number of 64 bits is read back. -/
theorem bare_numberValue (care : Care) {n : Nat} (hn : n < Nat.pow 2 64) {rest : List Char}
    (hr : Ends rest) :
    bare (numberValue care (n.repr.toList ++ rest)) = some (.ofNat n, rest) := by
  have hread := Number.read?_toDigits n hr
  rw [← Nat.toList_repr] at hread
  unfold numberValue
  split
  · next h => rw [hread] at h; cases h
  · next h =>
    rw [hread] at h
    cases h
    have hfits := Number.fits_toDigits hn
    rw [← Nat.toList_repr] at hfits
    simp only [hfits, Bool.not_true, Bool.and_false, Bool.false_eq_true, if_false, CharReader.bare_some]
    simp [Number.text, ofNat, Nat.repr_eq_ofList_toDigits]

end FederatedQuery.Json
