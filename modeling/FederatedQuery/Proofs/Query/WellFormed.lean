/-
  The form of queries that were read.

  Whatever a reader has met before, and whichever parentheses it has left open, the queries that it
  reads keep to one form.

  * `Name`: the names of sources and tables, without dots and in lower case;
  * `Predicate.WellFormed`: a binary tree of comparisons of a named field with a value;
  * `Query.WellFormed`: a query for a named table, with one predicate of bounded height at most;
  * `Grammar.Body.wellFormed`: what the tokens of a text derive is well formed;
  * `StatementReader.wellFormed_of_read`: so is what is read from it, any number of times.
-/
import FederatedQuery.Proofs.Statement.Lexeme
import FederatedQuery.Proofs.Statement.Repeated
import FederatedQuery.Proofs.Text.LowerCase

namespace FederatedQuery

/-! ## Well-formed queries -/

namespace Predicate

/-- Comparisons of a field that has a name with a value that is not empty, a pattern that of a
    wildcard pattern, joined two by two. -/
inductive WellFormed : Predicate → Prop
  | comparison {op field value} (hfield : field ≠ "") (hlower : Text.lowerCase field = field)
      (hvalue : value ≠ "") (hpattern : op = .found → ∃ pattern, value = Like.toPattern pattern) :
      WellFormed (.comparison op field value)
  | logical {op p q} : WellFormed p → WellFormed q → WellFormed (.logical op [p, q])

end Predicate

namespace Query

/-- A name for a source or for a table. -/
structure PartName (name : String) : Prop where
  ne : name ≠ ""
  plain : '.' ∉ name.toList
  lower : Text.lowerCase name = name

/-- The form of the queries that are read. -/
structure WellFormed (q : Query) : Prop where
  source : PartName q.source
  table : PartName q.table
  columns : ∀ c ∈ q.columns, Text.lowerCase c = c
  limit_le : q.limit ≤ Nat.pow 2 63 - 1
  filters_le : q.filters.length ≤ 1
  filters : ∀ p ∈ q.filters, p.WellFormed ∧ p.height ≤ maxHeight

end Query

/-! ## Derivations -/

theorem Like.toPattern_ne (pattern : String) : toPattern pattern ≠ "" := by
  simp [toPattern, toPatternChars, String.ofList_eq_empty_iff]

namespace Grammar

/-- No name among the tokens is empty. -/
def Named (ts : List Token) : Prop := ∀ name, .ident name ∈ ts → name ≠ ""

theorem Comparison.wellFormed {ts : List Token} {p : Predicate} (h : Comparison ts p)
    (hts : Named ts) : p.WellFormed := by
  cases h with
  | @columnFirst name t op _ _ ho _ hvalue | @literalFirst name t op _ _ ho _ hvalue =>
    refine .comparison (Text.lowerCase_ne_empty (hts name (by simp))) (Text.lowerCase_lowerCase _)
      hvalue fun hop => ?_
    subst hop
    cases ho
  | @like name l pattern _ =>
    exact .comparison (Text.lowerCase_ne_empty (hts name (by simp))) (Text.lowerCase_lowerCase _)
      (Like.toPattern_ne _) fun _ => ⟨pattern, rfl⟩

theorem Condition.wellFormed {rank : Rank} {d : Nat} {ts : List Token} {p : Predicate}
    (h : Condition rank d ts p) (hts : Named ts) : p.WellFormed := by
  induction h with
  | comparison hc => exact hc.wellFormed hts
  | parentheses _ ih => exact ih fun name hname => hts name (by simp [hname])
  | single _ ih => exact ih hts
  | join _ _ ihp ihq =>
    exact .logical (ihp fun name hname => hts name (by simp [hname]))
      (ihq fun name hname => hts name (by simp [hname]))

/-- Both parts of a name in lower case are in lower case by themselves. -/
theorem Qualified.partName {name source table : String}
    (h : Qualified (Text.lowerCase name) source table) :
    Query.PartName source ∧ Query.PartName table := by
  have hsettled := Text.lowerCase_eq_self_iff.1 (Text.lowerCase_lowerCase name)
  rw [h.toList_eq, List.forall_mem_append, List.forall_mem_cons] at hsettled
  exact ⟨⟨h.source_ne, h.source_plain, Text.lowerCase_eq_self_iff.2 hsettled.1⟩,
    ⟨h.table_ne, h.table_plain, Text.lowerCase_eq_self_iff.2 hsettled.2.2⟩⟩

theorem Selection.columns_lower {ts : List Token} {columns : List String} (h : Selection ts columns) :
    ∀ c ∈ columns, Text.lowerCase c = c := by
  cases h with
  | all => simp
  | names _ => simp

theorem Limit.le {ts : List Token} {n : Nat} (h : Limit ts n)
    (hts : ∀ m : Int, .number m ∈ ts → m < Nat.pow 2 63) : n ≤ Nat.pow 2 63 - 1 := by
  cases h with
  | none => exact Nat.zero_le _
  | @rows m _ =>
    have hm := hts m (by simp)
    omega

theorem Filters.wellFormed {d : Nat} {ts : List Token} {filters : List Predicate}
    (h : Filters d ts filters) (hts : Named ts) :
    filters.length ≤ 1 ∧ ∀ p ∈ filters, p.WellFormed := by
  cases h with
  | none => simp
  | condition h => simpa using h.wellFormed fun name hname => hts name (by simp [hname])

/-- **A statement** among the tokens of a text has a well-formed query, unless its condition is too
    high. -/
theorem Body.wellFormed {text : List Char} {before body rest : List Token} {d : Nat} {q : Query}
    (hs : Scan.Spells text (before ++ body ++ rest)) (h : Body d body q)
    (hh : ∀ p ∈ q.filters, p.height ≤ maxHeight) : q.WellFormed := by
  have hmem : ∀ {t}, t ∈ body → t ∈ before ++ body ++ rest := fun ht => by simp [ht]
  obtain @⟨selection, columns, name, source, table, d, condition, filters, rows, limit, hselection,
    hname, hf, hl⟩ := h
  have hlimit := hl.le fun m hm => hs.number_lt (hmem (by simp [hm]))
  obtain ⟨hlength, hwell⟩ := hf.wellFormed fun name hname => hs.ident_ne (hmem (by simp [hname]))
  obtain ⟨hsource, htable⟩ := hname.partName
  exact ⟨hsource, htable, hselection.columns_lower, hlimit, hlength,
    fun p hp => ⟨hwell p hp, hh p hp⟩⟩

end Grammar

namespace StatementReader

/-- **Every query that is read** from a text is well formed, whatever came of the readings before. -/
theorem wellFormed_of_read {text : String} {r : StatementReader} (h : ofText? text = .ok r) (k : Nat)
    {q : Query} (hq : (r.after k).read.1.value = .ok q) : q.WellFormed := by
  rw [ofText?] at h
  cases hscan : Scan.tokens? text with
  | error e => rw [hscan] at h; cases h
  | ok ts =>
    rw [hscan] at h
    cases h
    obtain ⟨⟨before, hbefore⟩, -⟩ := after_within ts k
    obtain ⟨n, rest, hread⟩ := read_value_eq_ok.1 hq
    obtain ⟨d, body, hsplit, hbody, -, -, -, hh⟩ := statement_sound hread
    rw [hsplit, ← List.append_assoc] at hbefore
    exact hbody.wellFormed (hbefore ▸ Scan.tokens?_eq_ok_iff.1 hscan) hh

/-- A statement that stops inside of a parenthesis, where another one begins. -/
def retried : String :=
  "SELECT * FROM s.t WHERE (SELECT Name FROM Src.ΟΔΟΣ WHERE Name LIKE '%x' OR 7 = Nr LIMIT 9; *"

theorem wellFormed_retried :
    ∃ r q, ofText? retried = .ok r ∧ (r.after 1).openParentheses = 1 ∧
      (r.after 1).read.1.value = .ok q ∧
      q.text = "SELECT name FROM src.οδος WHERE (name MATCHES '^.*x$' OR nr = '7') LIMIT 9" ∧
      q.WellFormed := by
  have hsecond : ((ofText? retried).toOption.map fun r => ((r.after 1).openParentheses,
      (r.after 1).read.1.value.toOption.map Query.text)) = some (1, some
        "SELECT name FROM src.οδος WHERE (name MATCHES '^.*x$' OR nr = '7') LIMIT 9") := by
    decide +kernel
  cases hr : ofText? retried with
  | error e => rw [hr] at hsecond; cases hsecond
  | ok r =>
    rw [hr] at hsecond
    obtain ⟨hopen, htext⟩ := Prod.mk.inj (Option.some.inj hsecond)
    cases hq : (r.after 1).read.1.value with
    | error e => rw [hq] at htext; cases htext
    | ok q =>
      rw [hq] at htext
      exact ⟨r, q, rfl, hopen, hq, Option.some.inj htext, wellFormed_of_read hr 1 hq⟩

end StatementReader

end FederatedQuery
