/-
  The case of ASCII letters.

  * `SameLetters`, `Alike`: two texts that differ in nothing but the case of ASCII letters;
  * `IgnoresCase f`: `f` says the same of an ASCII letter in either case, which holds of blanks,
    letters, digits, lower-case forms and case variants;
  * `SameLetters.takeWhile`, `SameLetters.dropWhile`, `SameLetters.map_eq`: what such functions make
    of two such texts;
  * `SameLetters.lowerFrom_eq`: such texts have the same lower-case form, final sigmas included;
  * `IsAscii`: texts of ASCII characters alone; `lowerCase_eq_iff_of_isAscii`: two of them have the same
    lower-case form when they are made of case variants.
-/
import FederatedQuery.Text.Alphanumeric
import FederatedQuery.Text.Blank
import FederatedQuery.Text.CaseFold
import FederatedQuery.Text.LowerCase

namespace FederatedQuery.Text

/-! ## Functions of a character -/

variable {β : Type}

/-- The function does not tell an ASCII letter from the same letter in the other case. -/
def IgnoresCase (f : Char → β) : Prop := ∀ c : Char, f c.toUpper = f c

/-- The small letters of ASCII. -/
def smallLetters : List Char := (List.range 26).map fun n => Char.ofNat ('a'.toNat + n)

theorem isLower_iff_toNat {c : Char} :
    c.isLower = true ↔ 'a'.toNat ≤ c.toNat ∧ c.toNat ≤ 'z'.toNat := by
  change (decide ('a'.val ≤ c.val) && decide (c.val ≤ 'z'.val)) = true ↔ _
  rw [Bool.and_eq_true, decide_eq_true_iff, decide_eq_true_iff]
  rfl

theorem isUpper_iff_toNat {c : Char} :
    c.isUpper = true ↔ 'A'.toNat ≤ c.toNat ∧ c.toNat ≤ 'Z'.toNat := by
  change decide ('A'.val ≤ c.val ∧ c.val ≤ 'Z'.val) = true ↔ _
  rw [decide_eq_true_iff]
  rfl

theorem isAlpha_eq_false_iff {c : Char} :
    c.isAlpha = false ↔ c.isUpper = false ∧ c.isLower = false := Bool.or_eq_false_iff

theorem isAlpha_of_isDigit {c : Char} (h : c.isDigit = true) : c.isAlpha = false := by
  have hbounds := Char.isDigit_iff_toNat.1 h
  rw [isAlpha_eq_false_iff, ← Bool.not_eq_true, ← Bool.not_eq_true, isUpper_iff_toNat,
    isLower_iff_toNat]
  simp only [Char.reduceToNat] at hbounds ⊢
  omega

theorem mem_smallLetters {c : Char} (h : c.isLower = true) : c ∈ smallLetters := by
  obtain ⟨hfirst, hlast⟩ := isLower_iff_toNat.1 h
  have hlast' : c.toNat ≤ 'a'.toNat + 25 := hlast
  refine List.mem_map.2 ⟨c.toNat - 'a'.toNat, List.mem_range.2 (by omega), ?_⟩
  rw [Nat.add_sub_cancel' hfirst, Char.ofNat_toNat]

theorem toUpper_of_not_isLower {c : Char} (h : ¬ c.isLower = true) : c.toUpper = c :=
  dif_neg (mt isLower_iff_toNat.2 h)

/-- It is enough to look at the small letters. -/
theorem ignoresCase_of_smallLetters [DecidableEq β] {f : Char → β}
    (h : smallLetters.all (fun c => f c.toUpper = f c) = true) : IgnoresCase f := by
  intro c
  by_cases hc : c.isLower = true
  · exact of_decide_eq_true (List.all_eq_true.1 h c (mem_smallLetters hc))
  · rw [toUpper_of_not_isLower hc]

theorem IgnoresCase.eq {f : Char → β} (hf : IgnoresCase f) {c d : Char}
    (h : c.toUpper = d.toUpper) : f c = f d := by
  rw [← hf c, h, hf d]

theorem IgnoresCase.comp {γ : Type} {f : Char → β} (hf : IgnoresCase f) (g : β → γ) :
    IgnoresCase fun c => g (f c) := fun c => congrArg g (hf c)

theorem ignoresCase_toUpper : IgnoresCase Char.toUpper :=
  ignoresCase_of_smallLetters (by decide)

theorem ignoresCase_isAlpha : IgnoresCase Char.isAlpha :=
  ignoresCase_of_smallLetters (by decide)

/-- A character that is no letter has only one case. -/
theorem eq_of_toUpper_eq {c d : Char} (hc : c.isAlpha = false) (h : c.toUpper = d.toUpper) :
    c = d := by
  have hlower {x : Char} (hx : x.isAlpha = false) : ¬ x.isLower = true :=
    Bool.eq_false_iff.1 (isAlpha_eq_false_iff.1 hx).2
  have hd : d.isAlpha = false := by rw [← ignoresCase_isAlpha.eq h, hc]
  rwa [toUpper_of_not_isLower (hlower hc), toUpper_of_not_isLower (hlower hd)] at h

theorem ignoresCase_isBlank : IgnoresCase isBlank :=
  ignoresCase_of_smallLetters (by decide)

theorem ignoresCase_isDigit : IgnoresCase Char.isDigit :=
  ignoresCase_of_smallLetters (by decide)

theorem ignoresCase_isAlphabetic : IgnoresCase isAlphabetic :=
  ignoresCase_of_smallLetters (by decide)

theorem ignoresCase_lowerChar : IgnoresCase lowerChar :=
  ignoresCase_of_smallLetters (by decide)

theorem ignoresCase_cased : IgnoresCase cased.contains :=
  ignoresCase_of_smallLetters (by decide)

theorem ignoresCase_caseIgnorable : IgnoresCase caseIgnorable.contains :=
  ignoresCase_of_smallLetters (by decide)

theorem ignoresCase_fold : IgnoresCase fold :=
  ignoresCase_of_smallLetters (by decide)

/-- Only letters have two cases. -/
theorem eq_iff_of_not_alpha {c c' d : Char} (hd : d.isAlpha = false)
    (h : c.toUpper = c'.toUpper) : c = d ↔ c' = d := by
  constructor
  · rintro rfl
    exact (eq_of_toUpper_eq hd h).symm
  · rintro rfl
    exact (eq_of_toUpper_eq hd h.symm).symm

/-! ## Texts -/

/-- Two texts that differ in nothing but the case of ASCII letters. -/
def SameLetters (s t : List Char) : Prop := s.map Char.toUpper = t.map Char.toUpper

/-- The same of strings. -/
abbrev Alike (s t : String) : Prop := SameLetters s.toList t.toList

namespace SameLetters

theorem refl (s : List Char) : SameLetters s s := rfl

theorem symm {s t : List Char} (h : SameLetters s t) : SameLetters t s := Eq.symm h

@[simp] theorem nil_iff {t : List Char} : SameLetters [] t ↔ t = [] := by
  rw [SameLetters, List.map_nil, eq_comm, List.map_eq_nil_iff]

@[simp] theorem cons_cons {c d : Char} {s t : List Char} :
    SameLetters (c :: s) (d :: t) ↔ c.toUpper = d.toUpper ∧ SameLetters s t := by
  simp [SameLetters]

theorem cons_iff {c : Char} {s t : List Char} :
    SameLetters (c :: s) t ↔ ∃ d t', t = d :: t' ∧ c.toUpper = d.toUpper ∧ SameLetters s t' := by
  constructor
  · intro h
    cases t with
    | nil => cases h
    | cons d t => exact ⟨d, t, rfl, cons_cons.1 h⟩
  · rintro ⟨d, t', rfl, h⟩
    exact cons_cons.2 h

theorem append {s s' t t' : List Char} (h : SameLetters s t) (h' : SameLetters s' t') :
    SameLetters (s ++ s') (t ++ t') := by
  rw [SameLetters, List.map_append, List.map_append, h, h']

/-- What follows a text in the one is what follows it in the other. -/
theorem append_iff {s s' t : List Char} :
    SameLetters (s ++ s') t ↔ ∃ u u', t = u ++ u' ∧ SameLetters s u ∧ SameLetters s' u' := by
  constructor
  · intro h
    rw [SameLetters, List.map_append, eq_comm, List.map_eq_append_iff] at h
    obtain ⟨u, u', ht, hu, hu'⟩ := h
    exact ⟨u, u', ht, hu.symm, hu'.symm⟩
  · rintro ⟨u, u', rfl, hu, hu'⟩
    exact hu.append hu'

/-- Texts without letters are the same. -/
theorem eq_of_not_alpha {s t : List Char} (h : SameLetters s t) (hs : ∀ c ∈ s, c.isAlpha = false) :
    s = t := by
  induction s generalizing t with
  | nil => rw [nil_iff.1 h]
  | cons c s ih =>
    obtain ⟨d, t, rfl, hc, ht⟩ := cons_iff.1 h
    obtain ⟨hd, hs⟩ := List.forall_mem_cons.1 hs
    rw [eq_of_toUpper_eq hd hc, ih ht hs]

theorem map_eq {f : Char → β} (hf : IgnoresCase f) {s t : List Char} (h : SameLetters s t) :
    s.map f = t.map f := by
  have hupper (l : List Char) : l.map f = (l.map Char.toUpper).map f := by
    rw [List.map_map]
    exact List.map_congr_left fun c _ => (hf c).symm
  rw [hupper s, hupper t, h]

theorem all_eq {p : Char → Bool} (hp : IgnoresCase p) {s t : List Char} (h : SameLetters s t) :
    s.all p = t.all p := by
  have hmap := congrArg (List.all · id) (h.map_eq hp)
  simpa using hmap

theorem forall_mem_iff {P : Char → Prop} (hP : IgnoresCase P) {s t : List Char}
    (h : SameLetters s t) : (∀ c ∈ s, P c) ↔ ∀ c ∈ t, P c := by
  have hmap (l : List Char) : (∀ c ∈ l, P c) ↔ ∀ p ∈ l.map P, p :=
    (List.forall_mem_map (P := id)).symm
  rw [hmap s, hmap t, h.map_eq hP]

theorem forall_mem {p : Char → Bool} (hp : IgnoresCase p) {b : Bool} {s t : List Char}
    (h : SameLetters s t) (hs : ∀ c ∈ s, p c = b) : ∀ c ∈ t, p c = b :=
  (h.forall_mem_iff (hp.comp (· = b))).1 hs

/-- The first characters, if there are any, are the same letter. -/
theorem forall_head {p : Char → Bool} (hp : IgnoresCase p) {b : Bool} {s t : List Char}
    (h : SameLetters s t) (hs : ∀ c ∈ s.head?, p c = b) : ∀ c ∈ t.head?, p c = b := by
  cases t with
  | nil => simp
  | cons d t =>
    obtain ⟨c, s, rfl, hc, -⟩ := cons_iff.1 h.symm
    simpa [hp.eq hc] using hs

/-- A text begins with a character that is no letter when the other one does. -/
theorem head?_ne {d : Char} (hd : d.isAlpha = false) {s t : List Char} (h : SameLetters s t)
    (hs : s.head? ≠ some d) : t.head? ≠ some d := by
  intro ht
  obtain ⟨t, rfl⟩ := List.head?_eq_some_iff.1 ht
  obtain ⟨c, s, rfl, hc, -⟩ := cons_iff.1 h.symm
  obtain rfl := eq_of_toUpper_eq hd hc
  exact hs rfl

theorem takeWhile {p : Char → Bool} (hp : IgnoresCase p) {s t : List Char} (h : SameLetters s t) :
    SameLetters (s.takeWhile p) (t.takeWhile p) := by
  induction s generalizing t with
  | nil => rw [nil_iff.1 h]; exact refl _
  | cons c s ih =>
    obtain ⟨d, t, rfl, hc, ht⟩ := cons_iff.1 h
    rw [List.takeWhile_cons, List.takeWhile_cons, hp.eq hc]
    split
    · exact cons_cons.2 ⟨hc, ih ht⟩
    · exact refl _

theorem dropWhile {p : Char → Bool} (hp : IgnoresCase p) {s t : List Char} (h : SameLetters s t) :
    SameLetters (s.dropWhile p) (t.dropWhile p) := by
  induction s generalizing t with
  | nil => rw [nil_iff.1 h]; exact refl _
  | cons c s ih =>
    obtain ⟨d, t, rfl, hc, ht⟩ := cons_iff.1 h
    rw [List.dropWhile_cons, List.dropWhile_cons, hp.eq hc]
    split
    · exact ih ht
    · exact cons_cons.2 ⟨hc, ht⟩

/-! ## Lower-case forms -/

theorem meetsCased_eq {s t : List Char} (h : SameLetters s t) : meetsCased s = meetsCased t := by
  have hd := h.dropWhile ignoresCase_caseIgnorable
  unfold meetsCased
  generalize s.dropWhile caseIgnorable.contains = s' at hd
  generalize t.dropWhile caseIgnorable.contains = t' at hd
  cases s' with
  | nil => rw [nil_iff.1 hd]
  | cons c s' =>
    obtain ⟨d, t', rfl, hc, -⟩ := cons_iff.1 hd
    exact ignoresCase_cased.eq hc

theorem lowerBetween_eq {before before' after after' : List Char} {c d : Char}
    (hb : SameLetters before before') (hc : c.toUpper = d.toUpper) (ha : SameLetters after after') :
    lowerBetween before c after = lowerBetween before' d after' := by
  have hsigma : c = 'Σ' ↔ d = 'Σ' := eq_iff_of_not_alpha (by decide) hc
  unfold lowerBetween endsWord
  simp only [hsigma, hb.meetsCased_eq, ha.meetsCased_eq, ignoresCase_lowerChar.eq hc]

/-- **Lower-casing** makes the same of texts with the same letters, whatever stood before them. -/
theorem lowerFrom_eq {before before' s t : List Char} (hb : SameLetters before before')
    (h : SameLetters s t) : lowerFrom before s = lowerFrom before' t := by
  induction s generalizing before before' t with
  | nil => rw [nil_iff.1 h]; rfl
  | cons c s ih =>
    obtain ⟨d, t, rfl, hc, ht⟩ := cons_iff.1 h
    rw [lowerFrom, lowerFrom, lowerBetween_eq hb hc ht, ih (cons_cons.2 ⟨hc, hb⟩) ht]

theorem lowerCase_eq {s t : String} (h : Alike s t) :
    lowerCase s = lowerCase t := by
  rw [← String.toList_inj, toList_lowerCase, toList_lowerCase]
  exact lowerFrom_eq (refl []) h

end SameLetters

/-! ## ASCII texts -/

/-- All characters of the text are ASCII characters. -/
def IsAscii (text : String) : Prop := ∀ c ∈ text.toList, c.toNat < 128

instance (text : String) : Decidable (IsAscii text) :=
  List.decidableBAll (fun c : Char => c.toNat < 128) text.toList

/-- The lower-case form of an ASCII character is the representative of its case variants. -/
theorem lowerBetween_of_ascii {c : Char} (h : c.toNat < 128) (before after : List Char) :
    lowerBetween before c after = [fold c] := by
  have hall : ∀ n < 128, Char.ofNat n ≠ 'Σ' ∧ lowerChar (Char.ofNat n) = [fold (Char.ofNat n)] := by
    decide +kernel
  obtain ⟨hsigma, hlower⟩ := hall c.toNat h
  rw [Char.ofNat_toNat] at hsigma hlower
  rw [lowerBetween, if_neg hsigma, hlower]

theorem lowerFrom_of_ascii {text : List Char} (h : ∀ c ∈ text, c.toNat < 128)
    (before : List Char) : lowerFrom before text = text.map fold := by
  induction text generalizing before with
  | nil => rfl
  | cons c text ih =>
    obtain ⟨hc, htext⟩ := List.forall_mem_cons.1 h
    rw [lowerFrom, lowerBetween_of_ascii hc, ih htext, List.map_cons, List.singleton_append]

/-- **ASCII texts** have the same lower-case form when they are made of case variants. -/
theorem lowerCase_eq_iff_of_isAscii {s t : String} (hs : IsAscii s) (ht : IsAscii t) :
    lowerCase s = lowerCase t ↔ s.toList.map fold = t.toList.map fold := by
  rw [← String.toList_inj, toList_lowerCase, toList_lowerCase, lowerFrom_of_ascii hs,
    lowerFrom_of_ascii ht]

end FederatedQuery.Text
