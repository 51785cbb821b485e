/-
  How tokens are spelled.

  * `Scan.Lexeme spelled t rest`: the characters are read as the token `t` when `rest` follows them;
  * `token_eq_ok_iff`: scanning reads nothing else;
  * `spells_nil_iff`, `spells_cons_iff`: a text without errors is a sequence of such spellings, with
    blanks between them where there are any;
  * `Spells.number_lt`, `Spells.ident_ne`: the numbers of a text have 64 bits, and its names are not
    empty.
-/
import FederatedQuery.Proofs.Statement.Spelling
import FederatedQuery.Proofs.Text.LetterCase
import Mathlib.Data.List.Basic
import Mathlib.Data.List.TakeWhile

namespace FederatedQuery

namespace Scan

/-- The spellings of the operators and the punctuation. -/
def symbols : List (List Char × Token) :=
  [(['*'], .star), ([','], .comma), (['('], .openParen), ([')'], .closeParen), ([';'], .semicolon),
   (['='], .equals), (['<', '='], .lessEq), (['<', '>'], .notEquals), (['<'], .less),
   (['>', '='], .greaterEq), (['>'], .greater), (['!', '='], .notEquals)]

/-- Whether `c` makes a longer operator of the one before it. -/
def prolongs (c : Char) : Token → Bool
  | .less => c = '=' || c = '>'
  | .greater => c = '='
  | _ => false

/-- The digits of a number with its sign. -/
def signed (negative : Bool) (digits : List Char) : List Char :=
  if negative then '-' :: digits else digits

/-- The characters are read as the token when `rest` follows them. -/
inductive Lexeme : List Char → Token → List Char → Prop
  | symbol {spelled rest : List Char} {t : Token} (hs : (spelled, t) ∈ symbols)
      (hr : ∀ c ∈ rest.head?, prolongs c t = false) : Lexeme spelled t rest
  | literal (value : List Char) {rest : List Char} (hr : rest.head? ≠ some '\'') :
      Lexeme ('\'' :: (Text.doubleQuotes value ++ ['\''])) (.literal (String.ofList value)) rest
  | number {negative : Bool} {digits rest : List Char} {t : Token} (hne : digits ≠ [])
      (hd : ∀ c ∈ digits, c.isDigit = true) (hr : ∀ c ∈ rest.head?, c.isDigit = false)
      (hn : Scan.number negative digits = .ok t) : Lexeme (signed negative digits) t rest
  | orderBy {order blanks letters rest : List Char} (ho : spells "ORDER" order = true)
      (hne : blanks ≠ []) (hb : ∀ c ∈ blanks, Text.isBlank c = true)
      (hl : spells "BY" letters = true) (hr : ∀ c ∈ rest.head?, Text.isAlphabetic c = false) :
      Lexeme (order ++ (blanks ++ letters)) (.keyword .orderBy) rest
  /-- A word of its own: `ORDER` is one unless `BY` comes next. -/
  | word {w rest : List Char} (hw : isWord w = true) (hr : ∀ c ∈ rest.head?, inWord c = false)
      (hb : spells "ORDER" w = true → afterBy? rest = none) : Lexeme w (wordToken w) rest

/-! ## Operators -/

theorem symbol?_eq_some_iff {input rest : List Char} {t : Token} :
    symbol? input = some (t, rest) ↔ ∃ spelled, (spelled, t) ∈ symbols ∧ input = spelled ++ rest ∧
      ∀ c ∈ rest.head?, prolongs c t = false := by
  constructor
  · intro h
    revert h
    fun_cases symbol? input
    case case9 after hle hne =>
      -- a `<` that is neither `<=` nor `<>`
      intro h
      cases h
      refine ⟨['<'], by decide, rfl, fun c hc => ?_⟩
      obtain ⟨after', rfl⟩ := List.head?_eq_some_iff.1 hc
      have hle' : c ≠ '=' := by rintro rfl; exact hle _ rfl
      have hne' : c ≠ '>' := by rintro rfl; exact hne _ rfl
      simp [prolongs, hle', hne']
    case case11 after hge =>
      -- a `>` that is not `>=`
      intro h
      cases h
      refine ⟨['>'], by decide, rfl, fun c hc => ?_⟩
      obtain ⟨after', rfl⟩ := List.head?_eq_some_iff.1 hc
      have hge' : c ≠ '=' := by rintro rfl; exact hge _ rfl
      simp [prolongs, hge']
    case case13 =>
      intro h
      cases h
    -- the others are never the beginning of a longer one
    all_goals
      intro h
      cases h
      first
        | exact ⟨[_], by decide, rfl, fun _ _ => rfl⟩
        | exact ⟨[_, _], by decide, rfl, fun _ _ => rfl⟩
  · rintro ⟨spelled, hs, rfl, hr⟩
    simp only [symbols, List.mem_cons, Prod.mk.injEq, List.not_mem_nil, or_false] at hs
    rcases hs with ⟨rfl, rfl⟩ | ⟨rfl, rfl⟩ | ⟨rfl, rfl⟩ | ⟨rfl, rfl⟩ | ⟨rfl, rfl⟩ | ⟨rfl, rfl⟩ |
      ⟨rfl, rfl⟩ | ⟨rfl, rfl⟩ | ⟨rfl, rfl⟩ | ⟨rfl, rfl⟩ | ⟨rfl, rfl⟩ | ⟨rfl, rfl⟩
    all_goals try rfl
    all_goals
      cases rest with
      | nil => rfl
      | cons c rest =>
        have hc := hr c rfl
        simp only [prolongs, Bool.or_eq_false_iff, decide_eq_false_iff_not] at hc
        simp [symbol?, hc]

/-! ## Texts and numbers -/

theorem unquote_eq_some {done input value rest : List Char}
    (h : Text.unquote done input = some (value, rest)) :
    ∃ v, value = done.reverse ++ v ∧ input = Text.doubleQuotes v ++ '\'' :: rest ∧
      rest.head? ≠ some '\'' := by
  fun_induction Text.unquote done input with
  | case1 => cases h
  | case2 done after ih =>
    obtain ⟨v, rfl, rfl, hr⟩ := ih h
    exact ⟨'\'' :: v, by simp, by simp [Text.doubleQuotes], hr⟩
  | case3 done after hq =>
    cases h
    refine ⟨[], by simp, rfl, fun hr => ?_⟩
    obtain ⟨after', rfl⟩ := List.head?_eq_some_iff.1 hr
    exact hq _ rfl
  | case4 done c after _ hc ih =>
    obtain ⟨v, rfl, rfl, hr⟩ := ih h
    exact ⟨c :: v, by simp, by simp [Text.doubleQuotes, if_neg hc], hr⟩

theorem token_quote (after : List Char) :
    token '\'' after = match Text.unquote [] after with
      | some (value, rest) => (.ok (.literal (String.ofList value)), rest)
      | none => (.error .unterminatedText, []) := by
  have hs : symbol? ('\'' :: after) = none := symbol?_eq_none (by decide) after
  unfold token
  rw [hs]
  rfl

theorem token_minus {d : Char} (hd : d.isDigit = true) (after : List Char) :
    token '-' (d :: after) =
      (number true (d :: after.takeWhile Char.isDigit), after.dropWhile Char.isDigit) := by
  have hs : symbol? ('-' :: d :: after) = none := symbol?_eq_none (by decide) _
  have hq : '-' ≠ '\'' := by decide
  simp only [token, hs, if_neg hq]
  simp [hd]

/-- Digits, with a sign or not, are read all together. -/
theorem token_signed {negative : Bool} {digits rest : List Char} (hne : digits ≠ [])
    (hd : ∀ c ∈ digits, c.isDigit = true) (hr : ∀ c ∈ rest.head?, c.isDigit = false) :
    ∃ c after, signed negative digits ++ rest = c :: after ∧ Text.isBlank c = false ∧
      token c after = (number negative digits, rest) := by
  obtain ⟨d, ds, rfl⟩ := List.exists_cons_of_ne_nil hne
  obtain ⟨hd, hds⟩ := List.forall_mem_cons.1 hd
  obtain ⟨htake, hdrop⟩ := CharReader.takeWhile_append_of_head hds hr
  have hblank : Text.isBlank d = false :=
    Bool.eq_false_iff.2 fun e => by simp [isDigit_of_isBlank e] at hd
  cases negative with
  | false => exact ⟨d, ds ++ rest, rfl, hblank, by rw [token_of_isDigit hd, htake, hdrop]⟩
  | true => exact ⟨'-', d :: (ds ++ rest), rfl, by decide, by rw [token_minus hd, htake, hdrop]⟩

/-- What is left behind the characters of a kind does not begin with another one. -/
theorem dropWhile_stops (p : Char → Bool) (input : List Char) :
    ∀ c ∈ (input.dropWhile p).head?, p c = false := by
  intro c hc
  have hhead := List.head?_dropWhile_not p input
  rwa [Option.mem_def.1 hc] at hhead

theorem mem_takeWhile {p : Char → Bool} {input : List Char} :
    ∀ c ∈ input.takeWhile p, p c = true :=
  List.all_eq_true.1 List.all_takeWhile

/-- Characters of another kind end what stands before them. -/
theorem takeWhile_append_of_stops {p : Char → Bool} {rest : List Char}
    (hr : ∀ c ∈ rest.head?, p c = false) (text : List Char) :
    (text ++ rest).takeWhile p = text.takeWhile p := by
  induction text with
  | nil =>
    cases rest with
    | nil => rfl
    | cons c rest => simp [hr c rfl]
  | cons d text ih => simp only [List.cons_append, List.takeWhile_cons, ih]

theorem dropWhile_append_of_stops {p : Char → Bool} {rest : List Char}
    (hr : ∀ c ∈ rest.head?, p c = false) (text : List Char) :
    (text ++ rest).dropWhile p = text.dropWhile p ++ rest := by
  induction text with
  | nil =>
    cases rest with
    | nil => rfl
    | cons c rest => simp [hr c rfl]
  | cons d text ih =>
    simp only [List.cons_append, List.dropWhile_cons, ih]
    split <;> rfl

theorem isDigit_of_minus {c : Char} {rest : List Char}
    (h : (c = '-' && rest.head?.any Char.isDigit) = true) :
    c = '-' ∧ ∃ d after, rest = d :: after ∧ d.isDigit = true := by
  cases rest with
  | nil => simp at h
  | cons d after => simpa using h

/-- The largest number that digits may stand for, after a minus sign or without one. -/
def greatest (negative : Bool) : Nat := if negative then Nat.pow 2 63 else Nat.pow 2 63 - 1

/-- The number with the sign. -/
def signedValue (negative : Bool) (m : Nat) : Int := if negative then -m else m

theorem number_eq_ok {negative : Bool} {digits : List Char} {t : Token}
    (h : number negative digits = .ok t) :
    ∃ m ≤ greatest negative, t = .number (signedValue negative m) := by
  unfold number at h
  split at h
  · next m hm =>
    cases h
    exact ⟨m, (Decimal.read?_eq_some_iff.1 hm).2, rfl⟩
  · cases h

theorem signedValue_lt {negative : Bool} {m : Nat} (h : m ≤ greatest negative) :
    signedValue negative m < Nat.pow 2 63 := by
  have hpos : 0 < Nat.pow 2 63 := by decide
  cases negative with
  | false =>
    simp only [greatest, signedValue, Bool.false_eq_true, if_false] at h ⊢
    omega
  | true =>
    simp only [signedValue, if_true]
    omega

/-! ## Words -/

theorem spells_iff {text : String} {w : List Char}
    (ht : text.toList.map Char.toUpper = text.toList) :
    spells text w = true ↔ Text.SameLetters w text.toList := by
  rw [spells, beq_iff_eq, Text.SameLetters, ht]

/-- The characters of `w` are those of a text in capitals, in so far as the case does not count. -/
theorem forall_mem_of_spells {text : String} {w : List Char} {p : Char → Bool} {b : Bool}
    (hp : Text.IgnoresCase p) (ht : text.toList.map Char.toUpper = text.toList)
    (hb : text.toList.all (p · = b) = true) (h : spells text w = true) : ∀ c ∈ w, p c = b := by
  have hcapitals : ∀ c ∈ text.toList, p c = b := fun c hc =>
    of_decide_eq_true (List.all_eq_true.1 hb c hc)
  exact ((spells_iff ht).1 h).symm.forall_mem hp hcapitals

theorem toUpper_text (k : Keyword) : k.text.toList.map Char.toUpper = k.text.toList := by
  cases k <;> decide

theorem ignoresCase_beginsWord : Text.IgnoresCase beginsWord :=
  Text.ignoresCase_of_smallLetters (by decide)

theorem ignoresCase_inWord : Text.IgnoresCase inWord :=
  Text.ignoresCase_of_smallLetters (by decide)

theorem isWord_eq {v w : List Char} (h : Text.SameLetters v w) : isWord v = isWord w := by
  cases v with
  | nil => rw [Text.SameLetters.nil_iff.1 h]
  | cons c v =>
    obtain ⟨d, w, rfl, hc, hw⟩ := Text.SameLetters.cons_iff.1 h
    rw [isWord, isWord, ignoresCase_beginsWord.eq hc, hw.all_eq ignoresCase_inWord]

theorem inWord_of_beginsWord {c : Char} (h : beginsWord c = true) : inWord c = true := by
  obtain h | rfl : Text.isAlphabetic c = true ∨ c = '_' := by simpa [beginsWord] using h
  · simp [inWord, Text.isAlphanumeric, h]
  · simp [inWord]

theorem forall_mem_of_isWord {w : List Char} (h : isWord w = true) : ∀ c ∈ w, inWord c = true := by
  cases w with
  | nil => cases h
  | cons c w =>
    obtain ⟨hc, hw⟩ := Bool.and_eq_true_iff.1 h
    exact List.forall_mem_cons.2 ⟨inWord_of_beginsWord hc, List.all_eq_true.1 hw⟩

theorem isAlphabetic_of_spells_by {letters : List Char} (h : spells "BY" letters = true) :
    ∀ c ∈ letters, Text.isAlphabetic c = true :=
  forall_mem_of_spells Text.ignoresCase_isAlphabetic (by decide) (by decide) h

theorem isBlank_of_spells_by {letters : List Char} (h : spells "BY" letters = true) :
    ∀ c ∈ letters, Text.isBlank c = false :=
  forall_mem_of_spells Text.ignoresCase_isBlank (by decide) (by decide) h

theorem ne_nil_of_spells {text : String} {w : List Char} (ht : text.toList ≠ [])
    (h : spells text w = true) : w ≠ [] := by
  rintro rfl
  exact ht (beq_iff_eq.1 h).symm

theorem afterBy?_eq_some_iff {input rest : List Char} :
    afterBy? input = some rest ↔ ∃ blanks letters, input = blanks ++ (letters ++ rest) ∧
      (∀ c ∈ blanks, Text.isBlank c = true) ∧ spells "BY" letters = true ∧
      ∀ c ∈ rest.head?, Text.isAlphabetic c = false := by
  constructor
  · intro h
    simp only [afterBy?] at h
    split at h
    · next hl =>
      cases h
      refine ⟨input.takeWhile Text.isBlank, _, ?_, mem_takeWhile, hl, dropWhile_stops _ _⟩
      rw [List.takeWhile_append_dropWhile, List.takeWhile_append_dropWhile]
    · cases h
  · rintro ⟨blanks, letters, rfl, hb, hl, hr⟩
    have hstop : ∀ c ∈ (letters ++ rest).head?, Text.isBlank c = false := by
      intro c hc
      rw [List.head?_append_of_ne_nil _ (ne_nil_of_spells (by decide) hl)] at hc
      exact isBlank_of_spells_by hl c (List.mem_of_head? hc)
    have hblanks := (CharReader.takeWhile_append_of_head hb hstop).2
    obtain ⟨htake, hdrop⟩ :=
      CharReader.takeWhile_append_of_head (isAlphabetic_of_spells_by hl) hr
    simp only [afterBy?, hblanks, htake, hdrop, hl, if_true]

/-- A word of letters. -/
theorem isWord_of_alphabetic {w : List Char} (hne : w ≠ [])
    (h : ∀ c ∈ w, Text.isAlphabetic c = true) : isWord w = true := by
  obtain ⟨c, cs, rfl⟩ := List.exists_cons_of_ne_nil hne
  obtain ⟨hc, hcs⟩ := List.forall_mem_cons.1 h
  refine Bool.and_eq_true_iff.2 ⟨by simp [beginsWord, hc], List.all_eq_true.2 fun d hd => ?_⟩
  simp [inWord, Text.isAlphanumeric, hcs d hd]

theorem isWord_of_spells_order {w : List Char} (h : spells "ORDER" w = true) :
    isWord w = true :=
  isWord_of_alphabetic (ne_nil_of_spells (by decide) h)
    (forall_mem_of_spells Text.ignoresCase_isAlphabetic (by decide) (by decide) h)

theorem inWord_of_isBlank {c : Char} (h : Text.isBlank c = true) : inWord c = false := by
  have hnone : (blankPoints.all fun n =>
      !CodePoints.inside n Text.alphabetic.boundaries && !CodePoints.inside n Text.numeric.boundaries
        && n != '_'.toNat && n != '.'.toNat) = true := by decide +kernel
  have hc := List.all_eq_true.1 hnone _ (mem_blankPoints h)
  simp only [Bool.and_eq_true, Bool.not_eq_true', bne_iff_ne] at hc
  obtain ⟨⟨⟨ha, hn⟩, hu⟩, hd⟩ := hc
  have hu' : c ≠ '_' := fun e => hu (by rw [e])
  have hd' : c ≠ '.' := fun e => hd (by rw [e])
  simp [inWord, Text.isAlphanumeric, Text.isAlphabetic, Text.isNumeric, CodePoints.contains, ha, hn,
    hu', hd']

/-- Blanks end a word. -/
theorem blanks_stop {blanks rest : List Char} (hne : blanks ≠ [])
    (hb : ∀ c ∈ blanks, Text.isBlank c = true) :
    ∀ c ∈ (blanks ++ rest).head?, inWord c = false := by
  intro c hc
  rw [List.head?_append_of_ne_nil _ hne] at hc
  exact inWord_of_isBlank (hb c (List.mem_of_head? hc))

theorem token_of_isWord {w after : List Char} (hw : isWord w = true)
    (hr : ∀ c ∈ after.head?, inWord c = false) :
    ∃ c after', w ++ after = c :: after' ∧ Text.isBlank c = false ∧
      token c after' = (word w after).map .ok id := by
  cases w with
  | nil => cases hw
  | cons c cs =>
    obtain ⟨hc, hcs⟩ := Bool.and_eq_true_iff.1 hw
    obtain ⟨htake, hdrop⟩ := CharReader.takeWhile_append_of_head (List.all_eq_true.1 hcs) hr
    have hblank : Text.isBlank c = false :=
      Bool.eq_false_iff.2 fun e => by simp [beginsWord_of_isBlank e] at hc
    exact ⟨c, cs ++ after, rfl, hblank, by rw [token_of_beginsWord hc, htake, hdrop]⟩

theorem word_of_afterBy? {w after rest : List Char} (ho : spells "ORDER" w = true)
    (hb : afterBy? after = some rest) : word w after = (.keyword .orderBy, rest) := by
  simp only [word, ho, if_true, hb]

theorem lexeme_of_word {w after rest : List Char} {t : Token} (hw : isWord w = true)
    (hr : ∀ c ∈ after.head?, inWord c = false) (h : word w after = (t, rest)) :
    ∃ spelled, w ++ after = spelled ++ rest ∧ Lexeme spelled t rest := by
  by_cases hb : spells "ORDER" w = true → afterBy? after = none
  · rw [word_eq hb] at h
    cases h
    exact ⟨w, rfl, .word hw hr hb⟩
  · rw [Classical.not_imp] at hb
    obtain ⟨ho, hb⟩ := hb
    obtain ⟨rest', hb⟩ := Option.ne_none_iff_exists'.1 hb
    obtain ⟨blanks, letters, rfl, hblanks, hl, hstop⟩ := afterBy?_eq_some_iff.1 hb
    rw [word_of_afterBy? ho hb] at h
    cases h
    refine ⟨_, by simp, .orderBy ho ?_ hblanks hl hstop⟩
    -- the `B` would belong to the word if no blank came first
    rintro rfl
    obtain ⟨c, cs, rfl⟩ := List.exists_cons_of_ne_nil (ne_nil_of_spells (by decide) hl)
    have hc := isAlphabetic_of_spells_by hl c List.mem_cons_self
    have hstop := hr c rfl
    simp [inWord, Text.isAlphanumeric, hc] at hstop

/-! ## One token -/

theorem lexeme_of_token {c : Char} {after rest : List Char} {t : Token}
    (h : token c after = (.ok t, rest)) :
    ∃ spelled, c :: after = spelled ++ rest ∧ Lexeme spelled t rest := by
  unfold token at h
  split at h
  · next hs =>
    cases h
    obtain ⟨spelled, hmem, he, hr⟩ := symbol?_eq_some_iff.1 hs
    exact ⟨spelled, he, .symbol hmem hr⟩
  split at h
  · next hq =>
    subst hq
    split at h
    · next hv =>
      cases h
      obtain ⟨value, hvalue, rfl, hr⟩ := unquote_eq_some hv
      rw [hvalue]
      exact ⟨_, by simp, .literal value hr⟩
    · cases h
  split at h
  · next hm =>
    obtain ⟨rfl, d, after, rfl, hd⟩ := isDigit_of_minus hm
    obtain ⟨hn, rfl⟩ := Prod.mk.inj h
    refine ⟨_, ?_, .number ?_ mem_takeWhile (dropWhile_stops _ _) hn⟩
    · simp [signed, List.takeWhile_append_dropWhile]
    · simp [hd]
  split at h
  · next hd =>
    obtain ⟨hn, rfl⟩ := Prod.mk.inj h
    refine ⟨_, ?_, .number (List.cons_ne_nil _ _) ?_ (dropWhile_stops _ _) hn⟩
    · simp [signed, List.takeWhile_append_dropWhile]
    · exact List.forall_mem_cons.2 ⟨hd, mem_takeWhile⟩
  split at h
  · next hw =>
    have hword : isWord (c :: after.takeWhile inWord) = true :=
      Bool.and_eq_true_iff.2 ⟨hw, List.all_takeWhile⟩
    obtain ⟨ht, hrest⟩ := Prod.mk.inj h
    have h' : word (c :: after.takeWhile inWord) (after.dropWhile inWord) = (t, rest) :=
      Prod.ext (Except.ok.inj ht) hrest
    obtain ⟨spelled, he, hl⟩ := lexeme_of_word hword (dropWhile_stops _ _) h'
    rw [List.cons_append, List.takeWhile_append_dropWhile] at he
    exact ⟨spelled, he, hl⟩
  · cases h

theorem token_of_lexeme {spelled rest : List Char} {t : Token} (h : Lexeme spelled t rest) :
    ∃ c after, spelled ++ rest = c :: after ∧ Text.isBlank c = false ∧
      token c after = (.ok t, rest) := by
  cases h with
  | symbol hs hr =>
    have hsymbol := symbol?_eq_some_iff.2 ⟨spelled, hs, rfl, hr⟩
    cases hinput : spelled ++ rest with
    | nil => rw [hinput] at hsymbol; cases hsymbol
    | cons c after =>
      rw [hinput] at hsymbol
      exact ⟨c, after, rfl, not_blank_of_symbol? hsymbol, by simp only [token, hsymbol]⟩
  | literal value hr =>
    refine ⟨'\'', Text.doubleQuotes value ++ '\'' :: rest, by simp, by decide, ?_⟩
    rw [token_quote, unquote_doubleQuotes value [] hr]
    rfl
  | number hne hd hr hn =>
    obtain ⟨c, after, he, hblank, htoken⟩ := token_signed hne hd hr
    exact ⟨c, after, he, hblank, by rw [htoken, hn]⟩
  | @orderBy order blanks letters _ ho hne hb hl hr =>
    have hby := afterBy?_eq_some_iff.2 ⟨blanks, letters, rfl, hb, hl, hr⟩
    obtain ⟨c, after, he, hblank, htoken⟩ :=
      token_of_isWord (isWord_of_spells_order ho) (blanks_stop hne hb)
    refine ⟨c, after, by simpa using he, hblank, ?_⟩
    rw [htoken, word_of_afterBy? ho hby]
    rfl
  | word hw hr hb =>
    obtain ⟨c, after, he, hblank, htoken⟩ := token_of_isWord hw hr
    refine ⟨c, after, he, hblank, ?_⟩
    rw [htoken, word_eq hb]
    rfl

/-- **Tokens** are read as they are spelled, and nothing else is read. -/
theorem token_eq_ok_iff {c : Char} {after rest : List Char} {t : Token} :
    token c after = (.ok t, rest) ↔ ∃ spelled, c :: after = spelled ++ rest ∧ Lexeme spelled t rest := by
  constructor
  · exact lexeme_of_token
  · rintro ⟨spelled, he, hl⟩
    obtain ⟨c', after', he', -, htoken⟩ := token_of_lexeme hl
    obtain ⟨rfl, rfl⟩ := List.cons.inj (he.trans he')
    exact htoken

/-! ## Texts -/

theorem next_eq_none_iff {text : List Char} :
    next text = none ↔ ∀ c ∈ text, Text.isBlank c = true := by
  rw [← List.dropWhile_eq_nil_iff, next]
  cases text.dropWhile Text.isBlank <;> simp

theorem next_eq_some_iff {text rest : List Char} {t : Except ScanError Token} :
    next text = some (t, rest) ↔ ∃ blanks c after, text = blanks ++ c :: after ∧
      (∀ c ∈ blanks, Text.isBlank c = true) ∧ Text.isBlank c = false ∧
      token c after = (t, rest) := by
  constructor
  · intro h
    unfold next at h
    split at h
    · cases h
    · next c after hd =>
      refine ⟨text.takeWhile Text.isBlank, c, after, ?_, mem_takeWhile, ?_, Option.some.inj h⟩
      · rw [← hd, List.takeWhile_append_dropWhile]
      · exact dropWhile_stops _ _ c (by rw [hd]; rfl)
  · rintro ⟨blanks, c, after, rfl, hb, hc, h⟩
    have hstop : ∀ d ∈ (c :: after).head?, Text.isBlank d = false := by simpa using hc
    have hd := (CharReader.takeWhile_append_of_head hb hstop).2
    rw [next, hd]
    simp only [h]

theorem spells_nil_iff {text : List Char} :
    Spells text [] ↔ ∀ c ∈ text, Text.isBlank c = true := by
  rw [← next_eq_none_iff]
  constructor
  · intro h
    rcases hn : next text with _ | ⟨t, rest⟩
    · rfl
    · rw [Spells, all_of_next_eq_some hn] at h
      cases h
  · exact all_of_next_eq_none

/-- A token at the front of a text, after any blanks. -/
theorem all_lexeme {blanks spelled rest : List Char} {t : Token}
    (hb : ∀ c ∈ blanks, Text.isBlank c = true) (hl : Lexeme spelled t rest) :
    all (blanks ++ (spelled ++ rest)) = .ok t :: all rest := by
  obtain ⟨c, after, he, hblank, htoken⟩ := token_of_lexeme hl
  rw [he]
  exact all_of_next_eq_some (next_eq_some_iff.2 ⟨blanks, c, after, rfl, hb, hblank, htoken⟩)

/-- **A text** spells tokens when it is made of their spellings, with blanks in front of them. -/
theorem spells_cons_iff {text : List Char} {t : Token} {ts : List Token} :
    Spells text (t :: ts) ↔ ∃ blanks spelled rest, text = blanks ++ (spelled ++ rest) ∧
      (∀ c ∈ blanks, Text.isBlank c = true) ∧ Lexeme spelled t rest ∧ Spells rest ts := by
  constructor
  · intro h
    rcases hn : next text with _ | ⟨t', rest⟩
    · rw [Spells, all_of_next_eq_none hn] at h
      cases h
    · rw [Spells, all_of_next_eq_some hn] at h
      obtain ⟨rfl, hrest⟩ := List.cons.inj h
      obtain ⟨blanks, c, after, rfl, hb, -, htoken⟩ := next_eq_some_iff.1 hn
      obtain ⟨spelled, he, hl⟩ := token_eq_ok_iff.1 htoken
      exact ⟨blanks, spelled, rest, by rw [he], hb, hl, hrest⟩
  · rintro ⟨blanks, spelled, rest, rfl, hb, hl, h⟩
    rw [Spells, all_lexeme hb hl, h, List.map_cons]

theorem Lexeme.number_lt {spelled rest : List Char} {n : Int}
    (h : Lexeme spelled (.number n) rest) : n < Nat.pow 2 63 := by
  generalize ht : Token.number n = t at h
  cases h with
  | symbol hs =>
    subst ht
    simp [symbols] at hs
  | number _ _ _ hn =>
    obtain ⟨m, hm, rfl⟩ := number_eq_ok hn
    obtain rfl := Token.number.inj ht
    exact signedValue_lt hm
  | literal | orderBy => cases ht
  | word =>
    unfold wordToken at ht
    split at ht <;> cases ht

theorem Lexeme.ident_ne {spelled rest : List Char} {name : String}
    (h : Lexeme spelled (.ident name) rest) : name ≠ "" := by
  generalize ht : Token.ident name = t at h
  cases h with
  | symbol hs =>
    subst ht
    simp [symbols] at hs
  | number _ _ _ hn =>
    obtain ⟨m, -, rfl⟩ := number_eq_ok hn
    cases ht
  | literal | orderBy => cases ht
  | word hw =>
    unfold wordToken at ht
    split at ht
    · cases ht
    · obtain rfl := Token.ident.inj ht
      intro hempty
      rw [String.ofList_eq_empty_iff.1 hempty] at hw
      cases hw

/-- Every token of a text is spelled somewhere in it. -/
theorem Spells.exists_lexeme {text : List Char} {ts : List Token} (h : Spells text ts) {t : Token}
    (ht : t ∈ ts) : ∃ spelled rest, Lexeme spelled t rest := by
  induction ts generalizing text with
  | nil => cases ht
  | cons u ts ih =>
    obtain ⟨_, spelled, rest, -, -, hl, hrest⟩ := spells_cons_iff.1 h
    rcases List.mem_cons.1 ht with rfl | ht
    · exact ⟨spelled, rest, hl⟩
    · exact ih hrest ht

/-- A number of a text is one of 64 bits. -/
theorem Spells.number_lt {text : List Char} {ts : List Token} (h : Spells text ts) {n : Int}
    (hn : .number n ∈ ts) : n < Nat.pow 2 63 := by
  obtain ⟨_, _, hl⟩ := h.exists_lexeme hn
  exact hl.number_lt

/-- A name of a text is not empty. -/
theorem Spells.ident_ne {text : List Char} {ts : List Token} (h : Spells text ts) {name : String}
    (hname : .ident name ∈ ts) : name ≠ "" := by
  obtain ⟨_, _, hl⟩ := h.exists_lexeme hname
  exact hl.ident_ne

end Scan

end FederatedQuery
