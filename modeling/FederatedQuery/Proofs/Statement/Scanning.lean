/-
  Scanning a text call by call.

  A scanner may be called as often as one likes: after an error it goes on behind it, and at the end of
  the text it stays there.

  * `Scan.call`, `Scan.left`, `Scan.answer`, `Scan.taken`: one call, and what is left, answered and
    taken off the text over any number of them;
  * `Spelling t lexeme`: the characters spell the token;
  * `Fault lexeme e rest`: the characters are no token for the reason `e` when `rest` follows them;
  * `Call`: what a call makes of the text in front of it;
  * `calls_spell`: every call is one, their pieces make up the text, and it comes to its end.
-/
import FederatedQuery.Proofs.Statement.Lexeme

namespace FederatedQuery

namespace Scan

open Text (SameLetters)

/-! ## Calls -/

/-- One call: the token or the error at the front of the text, none at the end of it, and what is left
    of the text.  At the end nothing is left, not even the last blanks. -/
def call (input : List Char) : Option (Except ScanError Token) × List Char :=
  match next input with
  | some (answer, rest) => (some answer, rest)
  | none => (none, [])

/-- What is left of a text after some calls. -/
def left (text : List Char) : Nat → List Char
  | 0 => text
  | n + 1 => (call (left text n)).2

/-- The answer to the next call after some of them. -/
def answer (text : List Char) (n : Nat) : Option (Except ScanError Token) := (call (left text n)).1

/-- The characters that the next call takes off the text. -/
def taken (text : List Char) (n : Nat) : List Char :=
  (left text n).take ((left text n).length - (left text (n + 1)).length)

/-! ## Spellings -/

/-- The numbers of 64 bits. -/
def Fits (n : Int) : Prop := -(Nat.pow 2 63) ≤ n ∧ n < Nat.pow 2 63

/-- The characters spell the token. -/
inductive Spelling : Token → List Char → Prop
  /-- A name is any word but a keyword. -/
  | name {w : List Char} (hw : isWord w = true) (hk : ∀ k : Keyword, ¬ SameLetters w k.text.toList) :
      Spelling (.ident (.ofList w)) w
  | keyword {w : List Char} {k : Keyword} (hw : isWord w = true) (hk : SameLetters w k.text.toList) :
      Spelling (.keyword k) w
  | orderBy {order blanks letters : List Char} (ho : SameLetters order "ORDER".toList)
      (hne : blanks ≠ []) (hb : ∀ c ∈ blanks, Text.isBlank c = true)
      (hl : SameLetters letters "BY".toList) :
      Spelling (.keyword .orderBy) (order ++ (blanks ++ letters))
  | literal (value : List Char) :
      Spelling (.literal (.ofList value)) ('\'' :: (Text.doubleQuotes value ++ ['\'']))
  | number {negative : Bool} {digits : List Char} (hne : digits ≠ [])
      (hd : ∀ c ∈ digits, c.isDigit = true)
      (hn : Fits (signedValue negative (Decimal.value digits))) :
      Spelling (.number (signedValue negative (Decimal.value digits))) (signed negative digits)
  | symbol {spelled : List Char} {t : Token} (hs : (spelled, t) ∈ symbols) : Spelling t spelled

/-- The characters are no token, for the reason given, when `rest` follows them. -/
inductive Fault : List Char → ScanError → List Char → Prop
  /-- All of the digits together are too large a number. -/
  | number {negative : Bool} {digits rest : List Char} (hne : digits ≠ [])
      (hd : ∀ c ∈ digits, c.isDigit = true) (hr : ∀ c ∈ rest.head?, c.isDigit = false)
      (hn : ¬ Fits (signedValue negative (Decimal.value digits))) :
      Fault (signed negative digits) (.numberOutOfRange (.ofList (signed negative digits))) rest
  /-- Up to the end of the text every quote is written twice, so that none closes it. -/
  | unclosed (value : List Char) : Fault ('\'' :: Text.doubleQuotes value) .unterminatedText []
  /-- No token begins with the character here. -/
  | character {c : Char} {rest : List Char} (hb : Text.isBlank c = false)
      (hs : ∀ s ∈ symbols, ¬ s.1 <+: c :: rest) (hq : c ≠ '\'') (hd : c.isDigit = false)
      (hm : c = '-' → ∀ d ∈ rest.head?, d.isDigit = false) (hw : beginsWord c = false) :
      Fault [c] (.unexpectedCharacter c) rest

variable {spelled rest input after : List Char} {c : Char} {t : Token} {e : ScanError}

/-! ## Tokens -/

theorem fits_iff {negative : Bool} {m : Nat} :
    Fits (signedValue negative m) ↔ m ≤ greatest negative := by
  have hgreatest : Nat.pow 2 63 = 9223372036854775808 := by decide
  cases negative with
  | false =>
    simp only [Fits, signedValue, greatest, hgreatest, Bool.false_eq_true, if_false]
    omega
  | true =>
    simp only [Fits, signedValue, greatest, hgreatest, if_true]
    omega

/-- Digits are a number when it has 64 bits. -/
theorem number_eq (negative : Bool) (digits : List Char) :
    number negative digits =
      if Decimal.value digits ≤ greatest negative then
        .ok (.number (signedValue negative (Decimal.value digits)))
      else .error (.numberOutOfRange (.ofList (signed negative digits))) := by
  unfold number
  split
  · next m hm =>
    obtain ⟨rfl, hle⟩ := Decimal.read?_eq_some_iff.1 hm
    exact (if_pos hle).symm
  · next hm =>
    refine (if_neg fun hle => ?_).symm
    have hsome := (Decimal.read?_eq_some_iff.2 ⟨rfl, hle⟩).symm.trans hm
    cases hsome

/-- What was read as a token spells it. -/
theorem Lexeme.spelling (h : Lexeme spelled t rest) : Spelling t spelled := by
  cases h with
  | symbol hs _ => exact .symbol hs
  | literal value _ => exact .literal value
  | number hne hd _ hn =>
    rw [number_eq] at hn
    split at hn
    · next hle =>
      cases hn
      exact .number hne hd (fits_iff.2 hle)
    · cases hn
  | orderBy ho hne hb hl _ =>
    exact .orderBy ((spells_iff (by decide)).1 ho) hne hb ((spells_iff (by decide)).1 hl)
  | word hw _ _ =>
    unfold wordToken
    split
    · next k hk =>
      have hspells : spells k.text spelled = true := by simpa using List.find?_some hk
      exact .keyword hw ((spells_iff (toUpper_text k)).1 hspells)
    · next hk =>
      refine .name hw fun k hsame => ?_
      exact List.find?_eq_none.1 hk k (Keyword.mem_all k) ((spells_iff (toUpper_text k)).2 hsame)

theorem Spelling.ne_nil (h : Spelling t spelled) : spelled ≠ [] := by
  cases h with
  | symbol hs =>
    have hall : (symbols.all fun s => s.1 ≠ []) = true := by decide
    exact of_decide_eq_true (List.all_eq_true.1 hall _ hs)
  | literal value => exact List.cons_ne_nil _ _
  | @number negative digits hne _ _ =>
    cases negative with
    | false => exact hne
    | true => exact List.cons_ne_nil _ _
  | orderBy _ hne _ _ => simp [hne]
  | name hw _ | keyword hw _ =>
    rintro rfl
    cases hw

/-! ## Errors -/

theorem symbol?_eq_none_iff : symbol? input = none ↔ ∀ s ∈ symbols, ¬ s.1 <+: input := by
  constructor
  · rintro h ⟨spelled, t⟩ hs ⟨rest, rfl⟩
    simp only [symbols, List.mem_cons, Prod.mk.injEq, List.not_mem_nil, or_false] at hs
    rcases hs with ⟨rfl, -⟩ | ⟨rfl, -⟩ | ⟨rfl, -⟩ | ⟨rfl, -⟩ | ⟨rfl, -⟩ | ⟨rfl, -⟩ | ⟨rfl, -⟩ |
      ⟨rfl, -⟩ | ⟨rfl, -⟩ | ⟨rfl, -⟩ | ⟨rfl, -⟩ | ⟨rfl, -⟩
    all_goals try cases h
    -- behind `<` and `>` a longer symbol may be read, but one is
    all_goals
      unfold symbol? at h
      split at h <;> simp_all
  · intro h
    rcases hs : symbol? input with _ | ⟨t, rest⟩
    · rfl
    · obtain ⟨spelled, hmem, rfl, -⟩ := symbol?_eq_some_iff.1 hs
      exact absurd (List.prefix_append spelled rest) (h _ hmem)

theorem unquote_eq_none_iff {done : List Char} :
    Text.unquote done input = none ↔ ∃ value, input = Text.doubleQuotes value := by
  constructor
  · intro h
    fun_induction Text.unquote done input with
    | case1 => exact ⟨[], rfl⟩
    | case2 done after ih =>
      obtain ⟨value, rfl⟩ := ih h
      exact ⟨'\'' :: value, by simp [Text.doubleQuotes]⟩
    | case3 => cases h
    | case4 done c after _ hc ih =>
      obtain ⟨value, rfl⟩ := ih h
      exact ⟨c :: value, by simp [Text.doubleQuotes, if_neg hc]⟩
  · rintro ⟨value, rfl⟩
    induction value generalizing done with
    | nil => rfl
    | cons c value ih =>
      by_cases hc : c = '\''
      · subst hc
        exact ih
      · rw [Text.doubleQuotes_cons_of_ne hc]
        simpa [Text.unquote, hc] using ih

theorem number_eq_error {negative : Bool} {digits : List Char} (h : number negative digits = .error e) :
    e = .numberOutOfRange (.ofList (signed negative digits)) ∧
      ¬ Fits (signedValue negative (Decimal.value digits)) := by
  rw [number_eq] at h
  split at h
  · cases h
  · next hlt =>
    cases h
    exact ⟨rfl, fits_iff.not.2 hlt⟩

theorem fault_of_token (hb : Text.isBlank c = false) (h : token c after = (.error e, rest)) :
    ∃ spelled, c :: after = spelled ++ rest ∧ Fault spelled e rest := by
  unfold token at h
  split at h
  · cases h
  next hs =>
  split at h
  · next hq =>
    subst hq
    split at h
    · cases h
    · next hv =>
      cases h
      obtain ⟨value, rfl⟩ := unquote_eq_none_iff.1 hv
      exact ⟨_, (List.append_nil _).symm, .unclosed value⟩
  next hq =>
  split at h
  · next hm =>
    obtain ⟨rfl, d, after, rfl, hd⟩ := isDigit_of_minus hm
    obtain ⟨hn, rfl⟩ := Prod.mk.inj h
    obtain ⟨rfl, hfits⟩ := number_eq_error hn
    refine ⟨_, ?_, .number ?_ mem_takeWhile (dropWhile_stops _ _) hfits⟩
    · simp [signed, List.takeWhile_append_dropWhile]
    · simp [hd]
  next hm =>
  split at h
  · next hd =>
    obtain ⟨hn, rfl⟩ := Prod.mk.inj h
    obtain ⟨rfl, hfits⟩ := number_eq_error hn
    refine ⟨_, ?_, .number (List.cons_ne_nil _ _) ?_ (dropWhile_stops _ _) hfits⟩
    · simp [signed, List.takeWhile_append_dropWhile]
    · exact List.forall_mem_cons.2 ⟨hd, mem_takeWhile⟩
  next hd =>
  split at h
  · cases h
  next hw =>
  cases h
  refine ⟨[c], rfl, .character hb (symbol?_eq_none_iff.1 hs) hq (Bool.eq_false_iff.2 hd) ?_
    (Bool.eq_false_iff.2 hw)⟩
  rintro rfl d hd
  obtain ⟨after', rfl⟩ := List.head?_eq_some_iff.1 hd
  simpa using hm

theorem token_of_fault (h : Fault spelled e rest) :
    ∃ c after, spelled ++ rest = c :: after ∧ Text.isBlank c = false ∧
      token c after = (.error e, rest) := by
  cases h with
  | @number negative digits _ hne hd hr hn =>
    obtain ⟨c, after, he, hblank, htoken⟩ := @token_signed negative digits rest hne hd hr
    refine ⟨c, after, he, hblank, ?_⟩
    rw [htoken, number_eq, if_neg (fits_iff.not.1 hn)]
  | unclosed value =>
    refine ⟨'\'', Text.doubleQuotes value, List.append_nil _, by decide, ?_⟩
    rw [token_quote, unquote_eq_none_iff.2 ⟨value, rfl⟩]
  | @character c _ hb hs hq hd hm hw =>
    refine ⟨c, rest, rfl, hb, ?_⟩
    have hminus : (c = '-' && rest.head?.any Char.isDigit) = false := by
      refine Bool.eq_false_iff.2 fun hsign => ?_
      obtain ⟨rfl, d, after, rfl, hdigit⟩ := isDigit_of_minus hsign
      rw [hm rfl d rfl] at hdigit
      cases hdigit
    simp only [token, symbol?_eq_none_iff.2 hs, if_neg hq, hminus, hd, hw]
    rfl

/-! ## One call -/

theorem call_eq_some_iff {a : Except ScanError Token} :
    call input = (some a, rest) ↔ next input = some (a, rest) := by
  unfold call
  split
  · next h => simp [h]
  · next h => simp [h]

theorem call_eq_none_iff : (call input).1 = none ↔ ∀ c ∈ input, Text.isBlank c = true := by
  rw [← next_eq_none_iff, call]
  split
  · next h => simp [h]
  · next h => simp [h]

theorem call_token (h : call input = (some (.ok t), rest)) :
    ∃ blanks lexeme, input = blanks ++ (lexeme ++ rest) ∧ (∀ c ∈ blanks, Text.isBlank c = true) ∧
      Spelling t lexeme := by
  obtain ⟨blanks, c, after, rfl, hb, -, htoken⟩ := next_eq_some_iff.1 (call_eq_some_iff.1 h)
  obtain ⟨lexeme, he, hl⟩ := token_eq_ok_iff.1 htoken
  exact ⟨blanks, lexeme, by rw [he], hb, hl.spelling⟩

/-- **Errors** are found exactly where there are faults. -/
theorem call_error_iff : call input = (some (.error e), rest) ↔
    ∃ blanks lexeme, input = blanks ++ (lexeme ++ rest) ∧ (∀ c ∈ blanks, Text.isBlank c = true) ∧
      Fault lexeme e rest := by
  rw [call_eq_some_iff, next_eq_some_iff]
  constructor
  · rintro ⟨blanks, c, after, rfl, hb, hc, htoken⟩
    obtain ⟨lexeme, he, hf⟩ := fault_of_token hc htoken
    exact ⟨blanks, lexeme, by rw [he], hb, hf⟩
  · rintro ⟨blanks, lexeme, rfl, hb, hf⟩
    obtain ⟨c, after, he, hc, htoken⟩ := token_of_fault hf
    exact ⟨blanks, c, after, by rw [he], hb, hc, htoken⟩

theorem rest_of_call_eq_none (h : (call input).1 = none) : (call input).2 = [] := by
  unfold call at h ⊢
  split at h
  · cases h
  · rfl

/-- What a call leaves is the end of the text. -/
theorem call_suffix (input : List Char) : (call input).2 <:+ input := by
  rcases h : call input with ⟨_ | e | t, rest⟩
  · have hrest : (call input).2 = [] := rest_of_call_eq_none (by rw [h])
    rw [h] at hrest
    rw [hrest]
    exact List.nil_suffix
  · obtain ⟨blanks, lexeme, rfl, -, -⟩ := call_error_iff.1 h
    exact ⟨blanks ++ lexeme, List.append_assoc _ _ _⟩
  · obtain ⟨blanks, lexeme, rfl, -, -⟩ := call_token h
    exact ⟨blanks ++ lexeme, List.append_assoc _ _ _⟩

/-- What a call makes of the text in front of it: what it takes off, its answer, and what it leaves. -/
structure Call (input taken : List Char) (answer : Option (Except ScanError Token))
    (rest : List Char) : Prop where
  /-- No character is lost, and none comes from elsewhere. -/
  input_eq : input = taken ++ rest
  /-- Blanks and a spelling are taken for a token. -/
  token : ∀ t, answer = some (.ok t) → ∃ blanks lexeme, taken = blanks ++ lexeme ∧
    (∀ c ∈ blanks, Text.isBlank c = true) ∧ lexeme ≠ [] ∧ Spelling t lexeme
  /-- There is an error exactly when there is a fault behind the blanks, and this is what is taken. -/
  error : ∀ e r, answer = some (.error e) ∧ rest = r ↔ ∃ blanks lexeme,
    input = blanks ++ (lexeme ++ r) ∧ (∀ c ∈ blanks, Text.isBlank c = true) ∧ Fault lexeme e r
  /-- Every token and every error takes a character. -/
  taken_ne : answer ≠ none → taken ≠ []
  /-- The end comes when only blanks are left, and these are taken. -/
  end_ : answer = none ↔ ∀ c ∈ input, Text.isBlank c = true
  rest_eq : answer = none → rest = []

theorem call_spec {taken : List Char} (h : input = taken ++ (call input).2) :
    Call input taken (call input).1 (call input).2 where
  input_eq := h
  token t ht := by
    obtain ⟨blanks, lexeme, he, hb, hs⟩ := call_token (Prod.ext ht rfl)
    have htaken : taken ++ (call input).2 = blanks ++ lexeme ++ (call input).2 :=
      (h.symm.trans he).trans (List.append_assoc _ _ _).symm
    exact ⟨blanks, lexeme, List.append_cancel_right htaken, hb, hs.ne_nil, hs⟩
  error e r := by
    rw [← call_error_iff, Prod.ext_iff]
  taken_ne hsome htaken := by
    obtain ⟨a, ha⟩ := Option.ne_none_iff_exists'.1 hsome
    have hshorter : (call input).2.length < input.length :=
      length_of_next (call_eq_some_iff.1 (Prod.ext ha rfl))
    have hall : input = (call input).2 := by rw [htaken] at h; exact h
    exact (congrArg List.length hall).not_gt hshorter
  end_ := call_eq_none_iff
  rest_eq := rest_of_call_eq_none

/-! ## Many calls -/

theorem taken_append (text : List Char) (n : Nat) :
    left text n = taken text n ++ left text (n + 1) :=
  (List.suffix_iff_eq_append.1 (call_suffix (left text n))).symm

/-- The pieces that were taken make up the text with what is left. -/
theorem flatMap_taken (text : List Char) (n : Nat) :
    text = (List.range n).flatMap (taken text) ++ left text n := by
  induction n with
  | zero => rfl
  | succ n ih =>
    rw [List.range_succ, List.flatMap_append, List.flatMap_singleton, List.append_assoc,
      ← taken_append, ← ih]

theorem left_succ (text : List Char) (n : Nat) : left text (n + 1) = left (call text).2 n := by
  induction n with
  | zero => rfl
  | succ n ih => rw [left, ih, left]

/-- The answers are the tokens and the errors of the text in their order, and then none. -/
theorem answer_eq (text : List Char) (n : Nat) : answer text n = (all text)[n]? := by
  induction n generalizing text with
  | zero =>
    cases h : next text with
    | none => rw [all_of_next_eq_none h, answer, left, call, h]; rfl
    | some x => rw [all_of_next_eq_some h, answer, left, call, h]; rfl
  | succ n ih =>
    have hnext : answer text (n + 1) = answer (call text).2 n := by
      rw [answer, left_succ, answer]
    rw [hnext, ih, call]
    cases h : next text with
    | none => rw [all_of_next_eq_none h]; exact congrArg (·[n]?) (all_of_next_eq_none rfl)
    | some x => rw [all_of_next_eq_some h]; rfl

theorem length_all_le (text : List Char) : (all text).length ≤ text.length := by
  cases h : next text with
  | none => simp [all_of_next_eq_none h]
  | some x =>
    have hshorter := length_of_next h
    have hrest := length_all_le x.2
    rw [all_of_next_eq_some h, List.length_cons]
    omega
termination_by text.length
decreasing_by exact length_of_next h

/-- **Every call** takes blanks off the text, and behind them a spelling of the token that it answers,
    or what is no token; the pieces make up the text.  The end comes after at most as many calls as
    there are characters, and then at every further call. -/
theorem calls_spell (text : List Char) :
    (∀ n, Call (left text n) (taken text n) (answer text n) (left text (n + 1))) ∧
      (∀ n, text = (List.range n).flatMap (taken text) ++ left text n) ∧
      (∃ n ≤ text.length, answer text n = none) ∧
      ∀ m n, m ≤ n → answer text m = none → answer text n = none := by
  refine ⟨fun n => call_spec (taken_append text n), flatMap_taken text, ?_, ?_⟩
  · refine ⟨(all text).length, length_all_le text, ?_⟩
    rw [answer_eq, List.getElem?_eq_none_iff]
  · intro m n hmn hm
    rw [answer_eq, List.getElem?_eq_none_iff] at hm ⊢
    exact Nat.le_trans hm hmn

end Scan

end FederatedQuery
