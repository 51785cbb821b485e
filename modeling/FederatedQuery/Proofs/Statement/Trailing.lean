/-
  What follows a statement in its text.

  * `Scan.all_semicolon`: a semicolon behind a text without errors is a token of its own, whatever
    the text ends with, and scanning goes on behind it;
  * `Statement.parse_semicolon`: what follows the semicolon changes nothing, unless it holds
    something that is no token; `parse_semicolon_quote` shows that the exception is needed.
-/
import FederatedQuery.Proofs.Statement.Lexeme
import FederatedQuery.Proofs.Statement.Parsing

namespace FederatedQuery

namespace Scan

variable {c : Char} {text after : List Char}

/-! ## A semicolon behind a text -/

theorem afterBy?_append {rest : List Char} (hb : ∀ c ∈ rest.head?, Text.isBlank c = false)
    (ha : ∀ c ∈ rest.head?, Text.isAlphabetic c = false) :
    afterBy? (text ++ rest) = (afterBy? text).map (· ++ rest) := by
  simp only [afterBy?, dropWhile_append_of_stops hb, takeWhile_append_of_stops ha,
    dropWhile_append_of_stops ha]
  split <;> rfl

theorem forall_head_append {p : Char → Prop} (hc : p c) (h : ∀ d ∈ text.head?, p d) :
    ∀ d ∈ (text ++ c :: after).head?, p d := by
  cases text with
  | nil => simpa using hc
  | cons d text => simpa using h

/-- A semicolon belongs to no token before it. -/
theorem Lexeme.append_semicolon {spelled rest : List Char} {t : Token} (h : Lexeme spelled t rest)
    (after : List Char) : Lexeme spelled t (rest ++ ';' :: after) := by
  cases h with
  | symbol hs hr =>
    refine .symbol hs (forall_head_append ?_ hr)
    cases t <;> rfl
  | literal value hr =>
    refine .literal value ?_
    cases rest with
    | nil => simp
    | cons d rest => exact hr
  | number hne hd hr hn => exact .number hne hd (forall_head_append (by decide) hr) hn
  | orderBy ho hne hb hl hr =>
    exact .orderBy ho hne hb hl (forall_head_append (by decide) hr)
  | word hw hr hb =>
    refine .word hw (forall_head_append (by decide) hr) fun ho => ?_
    rw [afterBy?_append, hb ho, Option.map_none]
    · simpa using (by decide : Text.isBlank ';' = false)
    · simpa using (by decide : Text.isAlphabetic ';' = false)

theorem all_semicolon {ts : List Token} (h : Spells text ts) (after : List Char) :
    all (text ++ ';' :: after) = ts.map .ok ++ .ok .semicolon :: all after := by
  induction ts generalizing text with
  | nil =>
    have hs : Lexeme [';'] .semicolon after := .symbol (by decide) fun _ _ => rfl
    exact all_lexeme (spells_nil_iff.1 h) hs
  | cons t ts ih =>
    obtain ⟨blanks, spelled, rest, rfl, hb, hl, hrest⟩ := spells_cons_iff.1 h
    have hnext := all_lexeme hb (hl.append_semicolon after)
    rw [List.append_assoc, List.append_assoc, hnext, ih hrest, List.map_cons, List.cons_append]

/-! ## The tokens around a semicolon -/

theorem mapM_id_append {ε α : Type} (as : List α) (l : List (Except ε α)) :
    (as.map Except.ok ++ l).mapM id = (l.mapM id).map (as ++ ·) := by
  induction as with
  | nil => cases h : l.mapM id <;> simp [h, Except.map]
  | cons a as ih =>
    rw [List.map_cons, List.cons_append, List.mapM_cons, ih]
    cases l.mapM id <;> rfl

theorem tokens?_semicolon {s : String} {ts : List Token} (h : tokens? s = .ok ts) (t : String) :
    tokens? (s ++ ";" ++ t) = (tokens? t).map (ts ++ Token.semicolon :: ·) := by
  have htext : (s ++ ";" ++ t).toList = s.toList ++ ';' :: t.toList := by simp
  have happend : (ts.map .ok ++ .ok .semicolon :: all t.toList : List (Except ScanError Token)) =
      (ts ++ [Token.semicolon]).map .ok ++ all t.toList := by simp
  rw [tokens?, htext, all_semicolon (tokens?_eq_ok_iff.1 h), happend, mapM_id_append, tokens?]
  simp

end Scan

namespace Statement

/-- **What follows the semicolon** of a statement that is read changes nothing as long as it is made
    of tokens; otherwise the first error in it is reported. -/
theorem parse_semicolon {s : String} {q : Query} (h : (parse s).value = .ok q) (t : String) :
    (parse (s ++ ";" ++ t)).value = match Scan.tokens? t with
      | .ok _ => .ok q
      | .error e => .error (.scan e) := by
  obtain ⟨d, body, ending, hs, hb, he, hd, hh⟩ := parse_eq_ok_iff.1 h
  rw [parse_value, Scan.tokens?_semicolon hs.tokens?]
  cases Scan.tokens? t with
  | error e => rfl
  | ok ts =>
    have hending : Grammar.Ending (ending ++ .semicolon :: ts) := by
      cases he <;> exact .semicolon _
    simp only [Except.map, List.append_assoc]
    exact StatementReader.read_value_eq_ok.2
      ⟨_, _, StatementReader.statement_of_body hb hending hd hh⟩

/-- A statement that asks for all columns and rows. -/
def plain : String := "SELECT * FROM s.t"

theorem parse_plain : (parse plain).value =
    .ok { source := "s", table := "t", columns := [], limit := 0, filters := [] } := by
  have htokens : Scan.tokens? plain = .ok [.keyword .select, .star, .keyword .from_, .ident "s.t"] := by
    decide +kernel
  rw [parse_value, htokens]
  rfl

theorem parse_semicolon_drop :
    (parse plain).value =
        .ok { source := "s", table := "t", columns := [], limit := 0, filters := [] } ∧
      Scan.tokens? " DROP TABLE s.t" = .ok [.ident "DROP", .ident "TABLE", .ident "s.t"] ∧
      (parse (plain ++ ";" ++ " DROP TABLE s.t")).value =
        .ok { source := "s", table := "t", columns := [], limit := 0, filters := [] } := by
  have htokens : Scan.tokens? " DROP TABLE s.t" = .ok [.ident "DROP", .ident "TABLE", .ident "s.t"] := by
    decide +kernel
  have hparse := parse_semicolon parse_plain " DROP TABLE s.t"
  rw [htokens] at hparse
  exact ⟨parse_plain, htokens, hparse⟩

/-- A quote that is never closed is reported, even behind the semicolon. -/
theorem parse_semicolon_quote :
    (parse plain).value =
        .ok { source := "s", table := "t", columns := [], limit := 0, filters := [] } ∧
      (parse (plain ++ ";" ++ "'")).value = .error (.scan .unterminatedText) := by
  have htokens : Scan.tokens? (plain ++ ";" ++ "'") = .error .unterminatedText := by
    decide +kernel
  refine ⟨parse_plain, ?_⟩
  rw [parse_value, htokens]

end Statement

end FederatedQuery
