/-
  The canonical spelling of tokens.

  * `Lexeme.canonical`: a token that was read is read again from its canonical spelling, when a space
    or nothing follows;
  * `Lexeme.afterBy?_text`: the canonical spelling of a token begins with the letters `BY` only where
    its own spelling did, so that no `ORDER` becomes a keyword;
  * `Scan.tokens?_intercalate`: the tokens of a text are those of their canonical spellings with
    spaces between them.
-/
import FederatedQuery.Proofs.Statement.Lexeme

namespace FederatedQuery

namespace Scan

variable {spelled rest : List Char} {t : Token}

/-! ## Symbols and keywords -/

theorem symbol_text (hs : (spelled, t) ∈ symbols) : (t.text.toList, t) ∈ symbols := by
  have hall : (symbols.all fun s => (s.2.text.toList, s.2) ∈ symbols) = true := by decide
  exact of_decide_eq_true (List.all_eq_true.1 hall _ hs)

/-- The keyword of two words is not that of one. -/
theorem isWord_text_of_ofWord? {w : List Char} {k : Keyword} (hw : isWord w = true)
    (hk : Keyword.ofWord? w = some k) : isWord k.text.toList = true := by
  have hspells : spells k.text w = true := by simpa using List.find?_some hk
  rw [← isWord_eq ((spells_iff (toUpper_text k)).1 hspells), hw]

theorem lexeme_keyword {k : Keyword} (hk : isWord k.text.toList = true)
    (hr : ∀ c ∈ rest.head?, inWord c = false) : Lexeme k.text.toList (.keyword k) rest := by
  have hword : wordToken k.text.toList = .keyword k := by
    revert hk
    cases k <;> decide
  have ho : spells "ORDER" k.text.toList = false := by
    revert hk
    cases k <;> decide
  rw [← hword]
  exact .word hk hr fun e => by rw [ho] at e; cases e

/-! ## Numbers -/

theorem lexeme_toDigits {negative : Bool} {m : Nat} (h : m ≤ greatest negative)
    (hr : ∀ c ∈ rest.head?, c.isDigit = false) :
    Lexeme (signed negative (Nat.toDigits 10 m)) (.number (signedValue negative m)) rest := by
  refine .number Nat.toDigits_ne_nil
    (fun _ hc => Nat.isDigit_of_mem_toDigits (by decide) (by decide) hc) hr ?_
  have hread : Decimal.read? (greatest negative) (Nat.toDigits 10 m) = some m :=
    Decimal.read?_eq_some_iff.2 ⟨Nat.ofDigitChars_ten_toDigits, h⟩
  rw [greatest] at hread
  simp only [number, hread, signedValue]

/-- A number that was read, in its canonical spelling: nought has no sign. -/
theorem exists_repr_eq {negative : Bool} {m : Nat} (h : m ≤ greatest negative) :
    ∃ negative' m', m' ≤ greatest negative' ∧
      signedValue negative m = signedValue negative' m' ∧
      (signedValue negative m).repr.toList = signed negative' (Nat.toDigits 10 m') := by
  cases negative with
  | false => exact ⟨false, m, h, rfl, Nat.toList_repr⟩
  | true =>
    cases m with
    | zero => exact ⟨false, 0, by decide, rfl, rfl⟩
    | succ k =>
      refine ⟨true, k + 1, h, rfl, ?_⟩
      have hrepr : (signedValue true (k + 1)).repr = "-" ++ (k + 1).repr := rfl
      rw [hrepr, String.toList_append, Nat.toList_repr]
      rfl

theorem lexeme_number {negative : Bool} {digits : List Char} (h : number negative digits = .ok t)
    (hr : ∀ c ∈ rest.head?, c.isDigit = false) : Lexeme t.text.toList t rest := by
  obtain ⟨m, hm, rfl⟩ := number_eq_ok h
  obtain ⟨negative', m', hm', hvalue, hrepr⟩ := exists_repr_eq hm
  rw [Token.text, hrepr, hvalue]
  exact lexeme_toDigits hm' hr

/-! ## One token -/

/-- **A token that was read** is read again from its canonical spelling. -/
theorem Lexeme.canonical {rest' : List Char} (h : Lexeme spelled t rest)
    (hr : ∀ c ∈ rest'.head?, c = ' ') (hb : afterBy? rest = none → afterBy? rest' = none) :
    Lexeme t.text.toList t rest' := by
  have hstops {p : Char → Bool} (hp : p ' ' = false) : ∀ c ∈ rest'.head?, p c = false := by
    intro c hc
    rw [hr c hc, hp]
  cases h with
  | symbol hs _ =>
    refine .symbol (symbol_text hs) (hstops ?_)
    cases t <;> rfl
  | literal value _ =>
    have hliteral : Lexeme ('\'' :: (Text.doubleQuotes value ++ ['\''])) (.literal (.ofList value)) rest' := by
      refine .literal value fun hq => ?_
      have hspace := hr _ hq
      revert hspace
      decide
    simpa [Token.text, Text.quoted] using hliteral
  | number _ _ _ hn => exact lexeme_number hn (hstops (by decide))
  | orderBy =>
    have hlexeme : Lexeme (['O', 'R', 'D', 'E', 'R'] ++ ([' '] ++ ['B', 'Y'])) (.keyword .orderBy)
        rest' :=
      .orderBy (by decide) (by simp) (List.forall_mem_singleton.2 (by decide)) (by decide)
        (hstops (by decide))
    exact hlexeme
  | word hw _ ho =>
    unfold wordToken
    split
    · next k hk => exact lexeme_keyword (isWord_text_of_ofWord? hw hk) (hstops (by decide))
    · next hk =>
      have hword := Lexeme.word hw (hstops (by decide)) fun e => hb (ho e)
      rw [wordToken, hk] at hword
      simpa [Token.text] using hword

/-! ## The letters `BY` -/

theorem afterBy?_eq_none_iff {c : Char} {w rest : List Char} (hc : Text.isBlank c = false)
    (hr : ∀ c ∈ rest.head?, Text.isAlphabetic c = false) :
    afterBy? (c :: w ++ rest) = none ↔
      spells "BY" ((c :: w).takeWhile Text.isAlphabetic) = false := by
  have hdrop : (c :: w ++ rest).dropWhile Text.isBlank = c :: w ++ rest := by
    rw [List.cons_append, List.dropWhile_cons, hc]
    rfl
  simp only [afterBy?, hdrop, takeWhile_append_of_stops hr]
  split <;> simp_all

theorem afterBy?_blanks {blanks : List Char} (hb : ∀ c ∈ blanks, Text.isBlank c = true)
    (text : List Char) : afterBy? (blanks ++ text) = afterBy? text := by
  simp only [afterBy?, List.dropWhile_append_of_pos hb]

theorem afterBy?_of_isDigit {c : Char} (hc : c.isDigit = true) (rest : List Char) :
    afterBy? (c :: rest) = none := by
  refine afterBy?_of_head ?_ fun hb => ?_
  · refine Bool.eq_false_iff.2 fun e => ?_
    rw [isDigit_of_isBlank e] at hc
    cases hc
  · have hdigit : c.isDigit = 'B'.isDigit := Text.ignoresCase_isDigit.eq hb
    rw [hc] at hdigit
    cases hdigit

theorem afterBy?_signed {negative : Bool} {digits : List Char} (hne : digits ≠ [])
    (hd : ∀ c ∈ digits, c.isDigit = true) (rest : List Char) :
    afterBy? (signed negative digits ++ rest) = none := by
  cases negative with
  | true => exact afterBy?_of_head (by decide) (by decide)
  | false =>
    obtain ⟨d, ds, rfl⟩ := List.exists_cons_of_ne_nil hne
    exact afterBy?_of_isDigit (hd d List.mem_cons_self) _

theorem afterBy?_symbol (hs : (spelled, t) ∈ symbols) (rest : List Char) :
    afterBy? (spelled ++ rest) = none := by
  have hall : (symbols.all fun s =>
      s.1.head?.any fun c => !Text.isBlank c && c.toUpper != 'B') = true := by decide
  have hhead := List.all_eq_true.1 hall _ hs
  cases spelled with
  | nil => cases hhead
  | cons c w =>
    obtain ⟨hblank, hupper⟩ : Text.isBlank c = false ∧ c.toUpper ≠ 'B' := by simpa using hhead
    exact afterBy?_of_head hblank hupper

theorem spells_by_text (k : Keyword) :
    spells "BY" (k.text.toList.takeWhile Text.isAlphabetic) = false := by
  revert k
  have hall : (Keyword.all.all fun k =>
      !spells "BY" (k.text.toList.takeWhile Text.isAlphabetic)) = true := by decide
  intro k
  simpa using List.all_eq_true.1 hall k (Keyword.mem_all k)

theorem afterBy?_keyword (k : Keyword) {rest : List Char}
    (hr : ∀ c ∈ rest.head?, Text.isAlphabetic c = false) :
    afterBy? (k.text.toList ++ rest) = none := by
  have hblank : ∃ c w, k.text.toList = c :: w ∧ Text.isBlank c = false := by
    cases k <;> exact ⟨_, _, rfl, by decide⟩
  obtain ⟨c, w, hw, hc⟩ := hblank
  have hby := spells_by_text k
  rw [hw] at hby ⊢
  exact (afterBy?_eq_none_iff hc hr).2 hby

/-- **The letters `BY`** are not at the front of a canonical spelling unless they were at the front of
    the spelling in the text. -/
theorem Lexeme.afterBy?_text {rest' : List Char} (h : Lexeme spelled t rest)
    (hb : afterBy? (spelled ++ rest) = none)
    (hr : ∀ c ∈ rest'.head?, Text.isAlphabetic c = false) :
    afterBy? (t.text.toList ++ rest') = none := by
  cases h with
  | symbol hs _ => exact afterBy?_symbol (symbol_text hs) rest'
  | literal value _ =>
    have hquoted : (Token.literal (.ofList value)).text.toList ++ rest' =
        '\'' :: (Text.doubleQuotes value ++ '\'' :: rest') := by simp [Token.text, Text.quoted]
    rw [hquoted]
    exact afterBy?_of_head (by decide) (by decide)
  | number _ _ _ hn =>
    obtain ⟨m, hm, rfl⟩ := number_eq_ok hn
    obtain ⟨negative', m', -, -, hrepr⟩ := exists_repr_eq hm
    rw [Token.text, hrepr]
    exact afterBy?_signed Nat.toDigits_ne_nil
      (fun _ hc => Nat.isDigit_of_mem_toDigits (by decide) (by decide) hc) rest'
  | orderBy => exact afterBy?_keyword .orderBy hr
  | word hw hstop _ =>
    unfold wordToken
    split
    · next k _ => exact afterBy?_keyword k hr
    · cases spelled with
      | nil => cases hw
      | cons c w =>
        obtain ⟨hc, -⟩ := Bool.and_eq_true_iff.1 hw
        have hblank : Text.isBlank c = false :=
          Bool.eq_false_iff.2 fun e => by simp [beginsWord_of_isBlank e] at hc
        have halpha : ∀ d ∈ rest.head?, Text.isAlphabetic d = false := by
          intro d hd
          have hin := hstop d hd
          simp only [inWord, Text.isAlphanumeric, Bool.or_eq_false_iff] at hin
          exact hin.1.1.1
        have hby := (afterBy?_eq_none_iff hblank halpha).1 hb
        simpa [Token.text] using (afterBy?_eq_none_iff hblank hr).2 hby

/-! ## All tokens -/

/-- The canonical spellings with a space in front of each. -/
def spaced : List Token → List Char
  | [] => []
  | t :: ts => ' ' :: (t.text.toList ++ spaced ts)

theorem toList_intercalate_text (t : Token) (ts : List Token) :
    (" ".intercalate ((t :: ts).map Token.text)).toList = t.text.toList ++ spaced ts := by
  induction ts generalizing t with
  | nil => simp [spaced]
  | cons u ts ih =>
    have htail := ih u
    rw [List.map_cons] at htail
    rw [List.map_cons, List.map_cons, String.intercalate_cons_cons, String.toList_append, htail]
    simp [spaced]

theorem head_spaced (ts : List Token) : ∀ c ∈ (spaced ts).head?, c = ' ' := by
  cases ts <;> simp [spaced]

/-- An `ORDER` without `BY` behind it has none behind it in the canonical spellings either. -/
theorem afterBy?_spaced {ts : List Token} (h : Spells rest ts) (hb : afterBy? rest = none) :
    afterBy? (spaced ts) = none := by
  cases ts with
  | nil => decide
  | cons t ts =>
    -- only the next token matters, and it is spelled by itself in both texts
    obtain ⟨blanks, spelled, after, rfl, hblanks, hl, -⟩ := spells_cons_iff.1 h
    rw [afterBy?_blanks hblanks] at hb
    rw [spaced, afterBy?_space]
    refine hl.afterBy?_text hb fun c hc => ?_
    rw [head_spaced ts c hc]
    decide

theorem spells_spaced {text : List Char} {ts : List Token} (h : Spells text (t :: ts)) :
    Spells (t.text.toList ++ spaced ts) (t :: ts) := by
  induction ts generalizing text t with
  | nil =>
    obtain ⟨_, _, _, -, -, hl, hrest⟩ := spells_cons_iff.1 h
    have hcanonical := hl.canonical (head_spaced []) (afterBy?_spaced hrest)
    exact spells_cons_iff.2 ⟨[], _, _, rfl, by simp, hcanonical, spells_nil⟩
  | cons u ts ih =>
    obtain ⟨_, _, _, -, -, hl, hrest⟩ := spells_cons_iff.1 h
    have hcanonical := hl.canonical (head_spaced (u :: ts)) (afterBy?_spaced hrest)
    have hspaced : Spells (spaced (u :: ts)) (u :: ts) := spells_space (ih hrest)
    exact spells_cons_iff.2 ⟨[], _, _, rfl, by simp, hcanonical, hspaced⟩

/-- **The canonical spellings** of the tokens of a text, with spaces between them, are read as the
    same tokens. -/
theorem tokens?_intercalate {text : String} {ts : List Token} (h : tokens? text = .ok ts) :
    tokens? (" ".intercalate (ts.map Token.text)) = .ok ts := by
  cases ts with
  | nil => exact Spells.tokens? spells_nil
  | cons t ts =>
    refine Spells.tokens? ?_
    rw [toList_intercalate_text]
    exact spells_spaced (tokens?_eq_ok_iff.1 h)

/-- Another spelling of an operator, nought with a sign, a name that is no keyword in front of letters
    that begin with `BY`, a doubled quote, and the least number. -/
def crowded : List Token :=
  [.ident "a", .notEquals, .number 0, .comma, .ident "order", .ident "byte", .literal "it's",
    .keyword .orderBy, .number (-9223372036854775808)]

theorem tokens?_crowded :
    tokens? "a<>-0,order byte'it''s'Order\tBy-9223372036854775808" = .ok crowded ∧
      tokens? "a != 0 , order byte 'it''s' ORDER BY -9223372036854775808" = .ok crowded := by
  have htokens : tokens? "a<>-0,order byte'it''s'Order\tBy-9223372036854775808" = .ok crowded := by
    decide +kernel
  have htext : " ".intercalate (crowded.map Token.text) =
      "a != 0 , order byte 'it''s' ORDER BY -9223372036854775808" := by decide
  refine ⟨htokens, ?_⟩
  rw [← htext]
  exact tokens?_intercalate htokens

end Scan

end FederatedQuery
