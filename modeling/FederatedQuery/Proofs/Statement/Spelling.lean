/-
  Texts that spell tokens.

  * `Scan.Spells text tokens`: scanning the text gives these tokens and no error;
  * `isWord`: the texts that are scanned as one word;
  * `spells_blank`, `spells_symbol`, `spells_keyword`, `spells_name`, `spells_quoted`,
    `spells_number`: a token in front of a text that spells others.
-/
import FederatedQuery.Statement.Scan
import FederatedQuery.Text.CharReader

namespace FederatedQuery

namespace Scan

/-- Scanning the text gives the tokens and no error. -/
def Spells (text : List Char) (tokens : List Token) : Prop := all text = tokens.map .ok

theorem mapM_id_ok {ε α : Type} (l : List α) : (l.map .ok : List (Except ε α)).mapM id = .ok l := by
  induction l with
  | nil => rfl
  | cons a l ih =>
    rw [List.map_cons, List.mapM_cons, ih]
    rfl

theorem eq_map_of_mapM_id {ε α : Type} {l : List (Except ε α)} {as : List α}
    (h : l.mapM id = .ok as) : l = as.map .ok := by
  induction l generalizing as with
  | nil => cases h; rfl
  | cons x l ih =>
    rw [List.mapM_cons] at h
    cases x with
    | error e => cases h
    | ok a =>
      cases hl : l.mapM id with
      | error e => rw [hl] at h; cases h
      | ok bs => rw [hl] at h; cases h; rw [ih hl, List.map_cons]

theorem Spells.tokens? {text : String} {tokens : List Token} (h : Spells text.toList tokens) :
    tokens? text = .ok tokens := by
  rw [Scan.tokens?, h, mapM_id_ok]

theorem tokens?_eq_ok_iff {text : String} {ts : List Token} :
    tokens? text = .ok ts ↔ Spells text.toList ts :=
  ⟨eq_map_of_mapM_id, Spells.tokens?⟩

theorem spells_nil : Spells [] [] := all_of_next_eq_none rfl

/-! ## One token -/

theorem spells_blank {c : Char} {rest : List Char} {ts : List Token} (hc : Text.isBlank c = true)
    (h : Spells rest ts) : Spells (c :: rest) ts := by
  have hnext : next (c :: rest) = next rest := by
    rw [next, List.dropWhile_cons, if_pos hc, next]
  unfold Spells at h ⊢
  cases hr : next rest with
  | none => rw [all_of_next_eq_none (hnext.trans hr), ← h, all_of_next_eq_none hr]
  | some x =>
    obtain ⟨t, rest'⟩ := x
    rw [all_of_next_eq_some (hnext.trans hr), ← h, all_of_next_eq_some hr]

theorem spells_space {rest : List Char} {ts : List Token} (h : Spells rest ts) :
    Spells (' ' :: rest) ts := spells_blank (by decide) h

/-- A token that is read off the front. -/
theorem spells_token {c : Char} {after rest : List Char} {t : Token} {ts : List Token}
    (hc : Text.isBlank c = false) (ht : token c after = (.ok t, rest)) (h : Spells rest ts) :
    Spells (c :: after) (t :: ts) := by
  have hnext : next (c :: after) = some (.ok t, rest) := by
    simp only [next, List.dropWhile_cons, hc, Bool.false_eq_true, if_false, ht]
  unfold Spells at h ⊢
  rw [all_of_next_eq_some hnext, h, List.map_cons]

theorem not_blank_of_symbol? {c : Char} {after rest : List Char} {t : Token}
    (h : symbol? (c :: after) = some (t, rest)) : Text.isBlank c = false := by
  unfold symbol? at h
  split at h <;> simp_all <;> rcases h with ⟨⟨rfl, -⟩, -⟩ <;> decide

theorem spells_symbol {input rest : List Char} {t : Token} {ts : List Token}
    (hs : symbol? input = some (t, rest)) (h : Spells rest ts) : Spells input (t :: ts) := by
  cases input with
  | nil => cases hs
  | cons c after => exact spells_token (not_blank_of_symbol? hs) (by simp [token, hs]) h

/-- The characters with which an operator or punctuation begins. -/
def symbolHeads : List Char := ['*', ',', '(', ')', ';', '=', '<', '>', '!']

theorem symbol?_eq_none {c : Char} (hc : c ∉ symbolHeads) (after : List Char) :
    symbol? (c :: after) = none := by
  unfold symbol?
  split <;> first | rfl | skip
  -- every other branch begins with a character of the list
  all_goals
    next h =>
    obtain ⟨rfl, -⟩ := List.cons.inj h
    exact absurd (by decide) hc

/-! ## Words -/

/-- Whether a text is a single word. -/
def isWord : List Char → Bool
  | [] => false
  | c :: cs => beginsWord c && cs.all inWord

theorem ne_of_beginsWord {c d : Char} (hc : beginsWord c = true) (hd : beginsWord d = false) :
    c ≠ d := by
  rintro rfl
  rw [hc] at hd
  cases hd

theorem beginsWord_of_mem {points : List Nat} {c : Char}
    (hall : ∀ n ∈ points, CodePoints.inside n Text.alphabetic.boundaries = false ∧ n ≠ '_'.toNat)
    (h : c.toNat ∈ points) : beginsWord c = false := by
  obtain ⟨ha, hn⟩ := hall _ h
  have hc : c ≠ '_' := fun e => hn (by rw [e])
  simp [beginsWord, Text.isAlphabetic, CodePoints.contains, ha, hc]

/-- The blanks are few enough to look each of them up among the letters. -/
def blankPoints : List Nat :=
  [9, 10, 11, 12, 13, 32, 133, 160, 5760, 8192, 8193, 8194, 8195, 8196, 8197, 8198, 8199, 8200,
    8201, 8202, 8232, 8233, 8239, 8287, 12288]

theorem mem_blankPoints {c : Char} (h : Text.isBlank c = true) : c.toNat ∈ blankPoints := by
  simp [Text.isBlank, Text.blank, CodePoints.contains, CodePoints.inside] at h
  simp [blankPoints]
  omega

theorem beginsWord_of_isBlank {c : Char} (h : Text.isBlank c = true) : beginsWord c = false := by
  refine beginsWord_of_mem ?_ (mem_blankPoints h)
  decide +kernel

theorem beginsWord_of_isDigit {c : Char} (h : c.isDigit = true) : beginsWord c = false := by
  have hmem : c.toNat ∈ [48, 49, 50, 51, 52, 53, 54, 55, 56, 57] := by
    obtain ⟨hl, hu⟩ := Char.isDigit_iff_toNat.1 h
    simp at hl hu ⊢
    omega
  refine beginsWord_of_mem ?_ hmem
  decide +kernel

theorem token_of_beginsWord {c : Char} (hc : beginsWord c = true) (after : List Char) :
    token c after =
      (word (c :: after.takeWhile inWord) (after.dropWhile inWord)).map .ok id := by
  have hq : c ≠ '\'' := ne_of_beginsWord hc (by decide)
  have hm : c ≠ '-' := ne_of_beginsWord hc (by decide)
  have hs : (symbolHeads.all fun d => !beginsWord d) = true := by decide
  have hsymbol : symbol? (c :: after) = none :=
    symbol?_eq_none (fun h => by simpa [hc] using List.all_eq_true.1 hs c h) after
  have hd : c.isDigit = false :=
    Bool.eq_false_iff.2 fun e => by simp [beginsWord_of_isDigit e] at hc
  simp [token, hsymbol, hq, hm, hd, hc]

theorem stops_of_head {c : Char} (hc : inWord c = false) (rest : List Char) :
    ∀ d ∈ (c :: rest).head?, inWord d = false := by
  intro d hd
  rwa [← Option.some.inj hd]

/-- A space ends a word. -/
theorem stops_space (rest : List Char) : ∀ c ∈ (' ' :: rest).head?, inWord c = false :=
  stops_of_head (by decide) rest

theorem afterBy?_space (rest : List Char) : afterBy? (' ' :: rest) = afterBy? rest := by
  have hc : Text.isBlank ' ' = true := by decide
  rw [afterBy?, List.dropWhile_cons, if_pos hc, afterBy?]

/-- The letters after `ORDER` are not `BY` when another character comes first. -/
theorem afterBy?_of_head {c : Char} {rest : List Char} (hb : Text.isBlank c = false)
    (hc : c.toUpper ≠ 'B') : afterBy? (c :: rest) = none := by
  have hs : spells "BY" ((c :: rest).takeWhile Text.isAlphabetic) = false := by
    rw [List.takeWhile_cons]
    split <;> simp [spells, hc]
  simp only [afterBy?, List.dropWhile_cons, hb, Bool.false_eq_true, if_false]
  rw [hs]
  rfl

/-- The token for a word of its own. -/
def wordToken (w : List Char) : Token :=
  match Keyword.ofWord? w with
  | some k => .keyword k
  | none => .ident (String.ofList w)

theorem word_eq {w rest : List Char} (h : spells "ORDER" w = true → afterBy? rest = none) :
    word w rest = (wordToken w, rest) := by
  have hnone : (if spells "ORDER" w then afterBy? rest else none) = none := by
    split
    · next hs => exact h hs
    · rfl
  rw [word, hnone, wordToken]
  cases Keyword.ofWord? w <;> rfl

theorem spells_word {w rest : List Char} {ts : List Token} (hw : isWord w = true)
    (hr : ∀ c ∈ rest.head?, inWord c = false)
    (hb : spells "ORDER" w = true → afterBy? rest = none) (h : Spells rest ts) :
    Spells (w ++ rest) (wordToken w :: ts) := by
  cases w with
  | nil => cases hw
  | cons c cs =>
    obtain ⟨hc, hcs⟩ := Bool.and_eq_true_iff.1 hw
    obtain ⟨htake, hdrop⟩ := CharReader.takeWhile_append_of_head (List.all_eq_true.1 hcs) hr
    have hblank : Text.isBlank c = false :=
      Bool.eq_false_iff.2 fun e => by simp [beginsWord_of_isBlank e] at hc
    rw [List.cons_append]
    refine spells_token hblank ?_ h
    rw [token_of_beginsWord hc, htake, hdrop, word_eq hb]
    rfl

/-- A word that is no keyword stands for itself. -/
theorem spells_name {name : String} {rest : List Char} {ts : List Token}
    (hw : isWord name.toList = true) (hk : Keyword.ofWord? name.toList = none)
    (hr : ∀ c ∈ rest.head?, inWord c = false) (hb : afterBy? rest = none) (h : Spells rest ts) :
    Spells (name.toList ++ rest) (.ident name :: ts) := by
  have hword := spells_word hw hr (fun _ => hb) h
  rwa [wordToken, hk, String.ofList_toList] at hword

/-- Words with a dot are never keywords. -/
theorem spells_eq_false_of_dot {text : String} {w : List Char} (ht : '.' ∉ text.toList)
    (hw : '.' ∈ w) : spells text w = false := by
  refine Bool.eq_false_iff.2 fun h => ht ?_
  rw [← beq_iff_eq.1 h]
  exact List.mem_map.2 ⟨'.', hw, by decide⟩

theorem spells_dotted {name : String} {rest : List Char} {ts : List Token}
    (hw : isWord name.toList = true) (hd : '.' ∈ name.toList)
    (hr : ∀ c ∈ rest.head?, inWord c = false) (h : Spells rest ts) :
    Spells (name.toList ++ rest) (.ident name :: ts) := by
  have hk : Keyword.ofWord? name.toList = none := by
    refine List.find?_eq_none.2 fun k _ => ?_
    rw [spells_eq_false_of_dot _ hd]
    · exact Bool.false_ne_true
    · cases k <;> decide
  have hword := spells_word hw hr
    (fun e => by rw [spells_eq_false_of_dot (by decide) hd] at e; cases e) h
  rwa [wordToken, hk, String.ofList_toList] at hword

/-- The keywords of one word. -/
theorem spells_keyword {k : Keyword} {rest : List Char} {ts : List Token}
    (hk : isWord k.text.toList = true) (hr : ∀ c ∈ rest.head?, inWord c = false)
    (h : Spells rest ts) : Spells (k.text.toList ++ rest) (.keyword k :: ts) := by
  have hword : wordToken k.text.toList = .keyword k := by
    revert hk
    cases k <;> decide
  have ho : spells "ORDER" k.text.toList = false := by
    revert hk
    cases k <;> decide
  rw [← hword]
  exact spells_word hk hr (fun e => by rw [ho] at e; cases e) h

/-! ## Texts and numbers -/

theorem unquote_doubleQuotes (value done : List Char) {rest : List Char}
    (hr : rest.head? ≠ some '\'') :
    Text.unquote done (Text.doubleQuotes value ++ '\'' :: rest) =
      some (done.reverse ++ value, rest) := by
  induction value generalizing done with
  | nil =>
    cases rest with
    | nil => simp [Text.doubleQuotes, Text.unquote]
    | cons c rest =>
      have hc : c ≠ '\'' := fun e => hr (by rw [e]; rfl)
      simp [Text.doubleQuotes, Text.unquote, hc]
  | cons c value ih =>
    by_cases hc : c = '\''
    · subst hc
      have hrest := ih ('\'' :: done)
      simpa [Text.doubleQuotes, Text.unquote] using hrest
    · have hrest := ih (c :: done)
      simpa [Text.doubleQuotes, Text.unquote, hc] using hrest

theorem spells_quoted (value : String) {rest : List Char} {ts : List Token}
    (hr : rest.head? ≠ some '\'') (h : Spells rest ts) :
    Spells ((Text.quoted value).toList ++ rest) (.literal value :: ts) := by
  have htext : (Text.quoted value).toList ++ rest =
      '\'' :: (Text.doubleQuotes value.toList ++ '\'' :: rest) := by simp [Text.quoted]
  rw [htext]
  refine spells_token (by decide) ?_ h
  have hs : ∀ after, symbol? ('\'' :: after) = none := fun _ => rfl
  simp [token, hs, unquote_doubleQuotes value.toList [] hr]

theorem isDigit_of_isBlank {c : Char} (h : Text.isBlank c = true) : c.isDigit = false := by
  refine Bool.eq_false_iff.2 fun hd => ?_
  obtain ⟨hl, hu⟩ := Char.isDigit_iff_toNat.1 hd
  have hmem := mem_blankPoints h
  simp [blankPoints] at hmem hl hu
  omega

theorem token_of_isDigit {c : Char} (hc : c.isDigit = true) (after : List Char) :
    token c after =
      (number false (c :: after.takeWhile Char.isDigit), after.dropWhile Char.isDigit) := by
  have hq : c ≠ '\'' := by rintro rfl; cases hc
  have hm : c ≠ '-' := by rintro rfl; cases hc
  have hs : (symbolHeads.all fun d => !d.isDigit) = true := by decide
  have hsymbol : symbol? (c :: after) = none :=
    symbol?_eq_none (fun h => by simpa [hc] using List.all_eq_true.1 hs c h) after
  simp [token, hsymbol, hq, hm, hc]

theorem spells_number {n : Nat} (hn : n ≤ Nat.pow 2 63 - 1) {rest : List Char} {ts : List Token}
    (hr : ∀ c ∈ rest.head?, c.isDigit = false) (h : Spells rest ts) :
    Spells (n.repr.toList ++ rest) (.number n :: ts) := by
  have hdigits : ∀ c ∈ Nat.toDigits 10 n, c.isDigit = true :=
    fun c hc => Nat.isDigit_of_mem_toDigits (by decide) (by decide) hc
  have hvalue : Decimal.read? (Nat.pow 2 63 - 1) (Nat.toDigits 10 n) = some n :=
    Decimal.read?_eq_some_iff.2 ⟨Nat.ofDigitChars_ten_toDigits, hn⟩
  rw [Nat.toList_repr]
  cases hd : Nat.toDigits 10 n with
  | nil => exact absurd hd Nat.toDigits_ne_nil
  | cons c cs =>
    rw [hd] at hdigits hvalue
    obtain ⟨hc, hcs⟩ := List.forall_mem_cons.1 hdigits
    obtain ⟨htake, hdrop⟩ := CharReader.takeWhile_append_of_head hcs hr
    have hblank : Text.isBlank c = false :=
      Bool.eq_false_iff.2 fun e => by simp [isDigit_of_isBlank e] at hc
    rw [List.cons_append]
    refine spells_token hblank ?_ h
    rw [token_of_isDigit hc, htake, hdrop]
    simp only [number, Bool.false_eq_true, if_false, hvalue]

end Scan

end FederatedQuery
