/-
  Statements that differ in the case of letters outside of quoted texts.

  * `Text.SameOutside s t`: two texts with the same letters, and in the same case where these stand
    between quotes, of which the second closes the first;
  * `Lexeme.sameOutside`, `Spells.sameOutside`: such texts spell tokens that only differ in the case
    of the letters in names;
  * `Statement.parse_sameOutside`: such texts are read as the same query.
-/
import FederatedQuery.Proofs.Statement.LetterCase

namespace FederatedQuery

namespace Text

/-! ## Letters outside of quotes -/

/-- Whether a text that begins between quotes goes on to the quote that closes it, which is not written
    twice. -/
def closes : List Char → Bool
  | '\'' :: '\'' :: s => closes s
  | '\'' :: _ => true
  | _ :: s => closes s
  | [] => false

theorem closes_of_ne {c : Char} (hc : c ≠ '\'') (s : List Char) : closes (c :: s) = closes s := by
  rw [closes]
  · rintro _ rfl
    exact absurd rfl hc
  · exact hc

theorem closes_quote {s : List Char} (hs : s.head? ≠ some '\'') : closes ('\'' :: s) = true := by
  rw [closes]
  rintro s rfl
  exact hs rfl

theorem closes_map_toUpper (s : List Char) : closes (s.map Char.toUpper) = closes s := by
  have hquote : '\''.toUpper = '\'' := by decide
  fun_induction closes s with
  | case1 s ih => exact ih
  | case2 s hs =>
    rw [List.map_cons, hquote]
    refine closes_quote fun hhead => ?_
    rw [List.head?_map, Option.map_eq_some_iff] at hhead
    obtain ⟨c, hc, hupper⟩ := hhead
    obtain rfl := eq_of_toUpper_eq (by decide) (hquote.trans hupper.symm)
    obtain ⟨s, rfl⟩ := List.head?_eq_some_iff.1 hc
    exact hs s rfl
  | case3 c s _ hc ih =>
    rw [List.map_cons, closes_of_ne, ih]
    exact fun hupper => hc (eq_of_toUpper_eq (by decide) (hquote.trans hupper.symm)).symm
  | case4 => rfl

theorem SameLetters.closes_eq {s t : List Char} (h : SameLetters s t) : closes s = closes t := by
  rw [← closes_map_toUpper s, h, closes_map_toUpper]

/-- Between quotes, a text with doubled quotes in front does not close anything. -/
theorem closes_doubleQuotes (v s : List Char) : closes (doubleQuotes v ++ s) = closes s := by
  induction v with
  | nil => rfl
  | cons c v ih =>
    by_cases hc : c = '\''
    · subst hc
      exact ih
    · rw [doubleQuotes_cons_of_ne hc, List.cons_append, closes_of_ne hc, ih]

/-- Whether the place behind a character is between quotes, given whether the place in front of it
    is.  A quote that is written twice closes the text and opens it again. -/
def quotedBehind (quoted : Bool) (c : Char) : Bool := if c = '\'' then !quoted else quoted

/-- The text with the letters outside of quotes in capitals; `quoted` tells whether it begins between
    quotes.  Letters behind a quote that is never closed are outside of quotes. -/
def capitals (quoted : Bool) : List Char → List Char
  | [] => []
  | c :: s =>
    (if quoted && closes (c :: s) then c else c.toUpper) :: capitals (quotedBehind quoted c) s

theorem map_toUpper_capitals (quoted : Bool) (s : List Char) :
    (capitals quoted s).map Char.toUpper = s.map Char.toUpper := by
  induction s generalizing quoted with
  | nil => rfl
  | cons c s ih =>
    rw [capitals, List.map_cons, List.map_cons, ih]
    split
    · rfl
    · rw [ignoresCase_toUpper c]

/-- Two texts, both of which begin between quotes or both outside, that differ in nothing but the case
    of ASCII letters outside of quotes. -/
def SameOutsideFrom (quoted : Bool) (s t : List Char) : Prop := capitals quoted s = capitals quoted t

/-- Two texts that differ in nothing but the case of ASCII letters outside of quotes. -/
abbrev SameOutside (s t : String) : Prop := SameOutsideFrom false s.toList t.toList

namespace SameOutsideFrom

variable {quoted : Bool} {s s' t v : List Char} {c : Char}

theorem symm (h : SameOutsideFrom quoted s t) : SameOutsideFrom quoted t s := Eq.symm h

theorem sameLetters (h : SameOutsideFrom quoted s t) : SameLetters s t := by
  have hupper := congrArg (List.map Char.toUpper) h
  rwa [map_toUpper_capitals, map_toUpper_capitals] at hupper

theorem exists_cons (h : SameOutsideFrom quoted (c :: s) t) :
    ∃ d t', t = d :: t' ∧ c.toUpper = d.toUpper ∧
      (quoted = true → closes (c :: s) = true → c = d) ∧
      SameOutsideFrom (quotedBehind quoted c) s t' := by
  obtain ⟨d, t, rfl, hupper, -⟩ := SameLetters.cons_iff.1 h.sameLetters
  have hcloses : closes (c :: s) = closes (d :: t) := h.sameLetters.closes_eq
  have hquote : quotedBehind quoted d = quotedBehind quoted c := by
    rw [quotedBehind, quotedBehind]
    simp only [eq_iff_of_not_alpha (by decide : '\''.isAlpha = false) hupper]
  obtain ⟨hhead, htail⟩ := List.cons.inj h
  refine ⟨d, t, rfl, hupper, ?_, by rwa [hquote] at htail⟩
  rintro rfl hc
  rwa [← hcloses, hc] at hhead

theorem exists_quote (h : SameOutsideFrom quoted ('\'' :: s) t) :
    ∃ t', t = '\'' :: t' ∧ SameOutsideFrom (!quoted) s t' := by
  obtain ⟨d, t', rfl, hd, -, htail⟩ := h.exists_cons
  obtain rfl := eq_of_toUpper_eq (by decide) hd
  exact ⟨t', rfl, htail⟩

/-- Characters that are no quotes, in front of others. -/
theorem exists_append (hs : '\'' ∉ s) (h : SameOutsideFrom quoted (s ++ s') t) :
    ∃ u u', t = u ++ u' ∧ SameLetters s u ∧ SameOutsideFrom quoted s' u' := by
  induction s generalizing t with
  | nil => exact ⟨[], t, rfl, .refl [], h⟩
  | cons c s ih =>
    obtain ⟨hc, hs⟩ : '\'' ≠ c ∧ '\'' ∉ s := by simpa using hs
    obtain ⟨d, t', rfl, hd, -, htail⟩ := h.exists_cons
    rw [quotedBehind, if_neg hc.symm] at htail
    obtain ⟨u, u', rfl, hu, hu'⟩ := ih hs htail
    exact ⟨d :: u, u', rfl, SameLetters.cons_cons.2 ⟨hd, hu⟩, hu'⟩

/-- What stands between quotes stands in the other text as well. -/
theorem exists_doubleQuotes (hs : closes s = true)
    (h : SameOutsideFrom true (doubleQuotes v ++ s) t) :
    ∃ t', t = doubleQuotes v ++ t' ∧ SameOutsideFrom true s t' := by
  induction v generalizing t with
  | nil => exact ⟨t, rfl, h⟩
  | cons c v ih =>
    by_cases hc : c = '\''
    · subst hc
      obtain ⟨t₁, rfl, h₁⟩ := exists_quote h
      obtain ⟨t₂, rfl, h₂⟩ := exists_quote h₁
      obtain ⟨t', rfl, htail⟩ := ih h₂
      exact ⟨t', rfl, htail⟩
    · rw [doubleQuotes_cons_of_ne hc] at h ⊢
      rw [List.cons_append] at h
      obtain ⟨d, t₁, rfl, -, hd, h₁⟩ := exists_cons h
      obtain rfl := hd rfl (by rw [closes_of_ne hc, closes_doubleQuotes, hs])
      rw [quotedBehind, if_neg hc] at h₁
      obtain ⟨t', rfl, htail⟩ := ih h₁
      exact ⟨t', rfl, htail⟩

end SameOutsideFrom

end Text

/-! ## Scanning -/

namespace Scan

open Text (SameLetters SameOutsideFrom)

variable {spelled rest text' : List Char} {t : Token}

theorem quote_not_mem_of_all {p : Char → Bool} (hp : p '\'' = false) (h : ∀ c ∈ spelled, p c = true) :
    '\'' ∉ spelled := by
  intro hq
  rw [h _ hq] at hp
  cases hp

/-- Quotes stand in the spelling of a quoted text, and in no other. -/
theorem Lexeme.literal_or (h : Lexeme spelled t rest) :
    (∃ v, spelled = '\'' :: (Text.doubleQuotes v ++ ['\'']) ∧ t = .literal (.ofList v) ∧
      rest.head? ≠ some '\'') ∨ ('\'' ∉ spelled ∧ ∀ value, t ≠ .literal value) := by
  cases h with
  | symbol hs _ =>
    have hall : (symbols.all fun s => '\'' ∉ s.1) = true := by decide
    refine Or.inr ⟨of_decide_eq_true (List.all_eq_true.1 hall _ hs), ?_⟩
    rintro value rfl
    simp [symbols] at hs
  | literal v hr => exact Or.inl ⟨v, rfl, rfl, hr⟩
  | @number negative digits _ _ _ hd _ hn =>
    have hdigits : '\'' ∉ digits := quote_not_mem_of_all (by decide) hd
    obtain ⟨m, -, rfl⟩ := number_eq_ok hn
    refine Or.inr ⟨?_, fun value => Token.noConfusion⟩
    cases negative with
    | false => exact hdigits
    | true => simpa [signed] using hdigits
  | @orderBy order blanks letters _ ho _ hb hl _ =>
    have horder : '\'' ∉ order :=
      quote_not_mem_of_all (by decide) (forall_mem_of_isWord (isWord_of_spells_order ho))
    have hblanks : '\'' ∉ blanks := quote_not_mem_of_all (by decide) hb
    have hletters : '\'' ∉ letters :=
      quote_not_mem_of_all (by decide) (isAlphabetic_of_spells_by hl)
    exact Or.inr ⟨by simp [horder, hblanks, hletters], fun value => Token.noConfusion⟩
  | word hw _ _ =>
    refine Or.inr ⟨quote_not_mem_of_all (by decide) (forall_mem_of_isWord hw), ?_⟩
    intro value ht
    unfold wordToken at ht
    split at ht <;> cases ht

/-- **A token** is spelled alike with the letters outside of quotes in the other case. -/
theorem Lexeme.sameOutside (h : Lexeme spelled t rest)
    (hs : SameOutsideFrom false (spelled ++ rest) text') :
    ∃ spelled' rest' t', text' = spelled' ++ rest' ∧ Lexeme spelled' t' rest' ∧ t.Alike Eq t' ∧
      SameOutsideFrom false rest rest' := by
  rcases h.literal_or with ⟨v, rfl, rfl, hstop⟩ | ⟨hquote, hliteral⟩
  · -- the same text between the same quotes
    have htext : '\'' :: (Text.doubleQuotes v ++ ['\'']) ++ rest =
        '\'' :: (Text.doubleQuotes v ++ '\'' :: rest) := by simp
    rw [htext] at hs
    obtain ⟨text₁, rfl, h₁⟩ := hs.exists_quote
    obtain ⟨text₂, rfl, h₂⟩ := SameOutsideFrom.exists_doubleQuotes (Text.closes_quote hstop) h₁
    obtain ⟨rest', rfl, hrest⟩ := h₂.exists_quote
    refine ⟨_, rest', _, by simp, .literal v ?_, .refl _, hrest⟩
    exact hrest.sameLetters.head?_ne (by decide) hstop
  · obtain ⟨spelled', rest', rfl, hletters, hrest⟩ := hs.exists_append hquote
    obtain ⟨t', hl', ht⟩ : ∃ t', Lexeme spelled' t' rest' ∧ t.Alike (fun _ _ => True) t' :=
      h.alike (fun _ _ _ => trivial) hletters hrest.sameLetters
    exact ⟨spelled', rest', t', rfl, hl', ht.of_ne_literal hliteral, hrest⟩

/-- **Texts with the same letters** outside of quotes spell the same tokens, the case of the letters
    in names aside. -/
theorem Spells.sameOutside {text text' : List Char} {ts : List Token} (h : Spells text ts)
    (hs : SameOutsideFrom false text text') :
    ∃ ts', Spells text' ts' ∧ List.Forall₂ (Token.Alike Eq) ts ts' := by
  induction ts generalizing text text' with
  | nil =>
    refine ⟨[], spells_nil_iff.2 ?_, .nil⟩
    exact hs.sameLetters.forall_mem Text.ignoresCase_isBlank (spells_nil_iff.1 h)
  | cons t ts ih =>
    obtain ⟨blanks, spelled, rest, rfl, hb, hl, hrest⟩ := spells_cons_iff.1 h
    obtain ⟨blanks', _, rfl, hblanks, hs⟩ := hs.exists_append (quote_not_mem_of_all (by decide) hb)
    obtain ⟨spelled', rest', t', rfl, hl', ht, hs⟩ := hl.sameOutside hs
    obtain ⟨ts', hrest', hts⟩ := ih hrest hs
    refine ⟨t' :: ts', ?_, .cons ht hts⟩
    exact spells_cons_iff.2 ⟨blanks', spelled', rest', rfl,
      hblanks.forall_mem Text.ignoresCase_isBlank hb, hl', hrest'⟩

end Scan

/-! ## Reading -/

theorem Predicate.Alike.eq {p p' : Predicate} (h : p.Alike Eq p') : p' = p := by
  induction h with
  | compared field _ hvalue => rw [hvalue]
  | like field hpattern => rw [hpattern]
  | join op _ _ ihp ihq => rw [ihp, ihq]

theorem Query.Alike.eq {q q' : Query} (h : q.Alike Eq q') : q' = q := by
  have hfilters : q.filters = q'.filters := by
    refine List.forall₂_eq_eq_eq ▸ h.filters.imp fun _ _ hp => hp.eq.symm
  obtain ⟨source, table, columns, limit, filters⟩ := q
  obtain ⟨source', table', columns', limit', filters'⟩ := q'
  obtain ⟨rfl, rfl, rfl, rfl, -⟩ := h
  rw [show filters = filters' from hfilters]

namespace Statement

theorem parse_of_sameOutside {text text' : String} (h : Text.SameOutside text text') {q : Query}
    (hq : (parse text).value = .ok q) : (parse text').value = .ok q := by
  have hsame : Resembles Eq := ⟨fun _ => rfl, fun heq hne => heq ▸ hne⟩
  obtain ⟨q', hparse, halike⟩ := parse_alike_of_spells hsame (fun _ hs => hs.sameOutside h) hq
  rwa [halike.eq] at hparse

/-- **The case of letters** outside of quoted texts does not matter: texts that differ in nothing else
    are read as the same query, if at all. -/
theorem parse_sameOutside {text text' : String} (h : Text.SameOutside text text') (q : Query) :
    (parse text).value = .ok q ↔ (parse text').value = .ok q :=
  ⟨parse_of_sameOutside h, parse_of_sameOutside h.symm⟩

/-- A statement with a quote inside of a quoted text. -/
def quoting : String := "SELECT * FROM s.t WHERE name = 'It''s Bob'"

theorem parse_quoting : (parse quoting).value =
    .ok { source := "s", table := "t", filters := [.eq "name" "It's Bob"] } := by
  have htokens : Scan.tokens? quoting = .ok [.keyword .select, .star, .keyword .from_, .ident "s.t",
      .keyword .where_, .ident "name", .equals, .literal "It's Bob"] := by
    decide +kernel
  have hname : Grammar.Qualified (Text.lowerCase "s.t") "s" "t" :=
    ⟨by decide, by decide, by decide, by decide, by decide⟩
  have hcolumn : Text.lowerCase "name" = "name" := by decide
  rw [parse_equality (Scan.tokens?_eq_ok_iff.1 htokens) hname (by decide), hcolumn]

theorem parse_sameOutside_quoting :
    Text.SameOutside quoting "select * from S.T where NAME = 'It''s Bob'" ∧
      (parse "select * from S.T where NAME = 'It''s Bob'").value =
        .ok { source := "s", table := "t", filters := [.eq "name" "It's Bob"] } := by
  have hsame : Text.SameOutside quoting "select * from S.T where NAME = 'It''s Bob'" := by
    unfold Text.SameOutside Text.SameOutsideFrom
    decide
  exact ⟨hsame, (parse_sameOutside hsame _).1 parse_quoting⟩

end Statement

end FederatedQuery
