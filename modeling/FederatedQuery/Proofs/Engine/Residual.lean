/-
  Residual filtering.

  A source may apply any part of the filters and give any row with more columns than asked for.  The
  engine asks for the columns that the filters read and applies the filters once more, so that the
  answer is the same whatever the source did.

  * `Delivers request rows given`: `given` is an answer to the request from a table with these rows,
    a part of the rows in order, no wanted row left out, each with no wanted column left out;
  * `Source.Conforms`: a source that answers every request for a table in this way;
  * `Query.select`: the rows that a query asks for, said of the table alone;
  * `Delivers.filter`: applied to a delivery, the filters keep the same rows as applied to the table;
  * `execute_of_conforms`: the answer to a query shows exactly the selected rows, for every source
    that conforms.
-/
import FederatedQuery.Proofs.Engine.Answer
import FederatedQuery.Proofs.Predicate.Filtering
import Mathlib.Data.List.Forall2

namespace FederatedQuery

/-! ## Requests -/

/-- The same values under the same names, in whatever order they came. -/
def Dict.Same {α : Type} (d e : Dict α) : Prop := ∀ name, d.get? name = e.get? name

/-- `given` is `full` without some of the columns that are not asked for; where all columns are
    asked for, without none. -/
def Row.Covers (columns : List String) (full given : Row) : Prop :=
  ∀ c, given.get? c = full.get? c ∨ (given.get? c = none ∧ columns ≠ [] ∧ c ∉ columns)

/-- `shown` is `full` cut down to the given columns; no columns at all stand for all. -/
def Row.Shows (columns : List String) (full shown : Row) : Prop :=
  ∀ c, shown.get? c = if columns = [] ∨ c ∈ columns then full.get? c else none

/-- All of the filters hold for the row. -/
def Row.Meets (filters : List Predicate) (r : Row) : Prop := ∀ p ∈ filters, p.holds r

instance (filters : List Predicate) (r : Row) : Decidable (r.Meets filters) :=
  inferInstanceAs (Decidable (∀ p ∈ filters, p.holds r))

/-- An answer to a request from a table with the given rows. -/
inductive Delivers (request : SourceRequest) : (rows given : List Row) → Prop
  | nil : Delivers request [] []
  | keep {full r rows given} : Row.Covers request.columns full r → Delivers request rows given →
      Delivers request (full :: rows) (r :: given)
  | skip {full rows given} : ¬ full.Meets request.filters → Delivers request rows given →
      Delivers request (full :: rows) given

/-- Every request for the table is answered, from these rows. -/
def Source.Conforms (s : Source) (table : String) (rows : List Row) : Prop :=
  ∀ request : SourceRequest, request.table = table →
    ∃ given, (s.fetch request).value = .ok given ∧ Delivers request rows given

/-- The rows that a query asks for: the first ones that meet all filters. -/
def Query.select (q : Query) (rows : List Row) : List Row :=
  let wanted := rows.filter fun r => r.Meets q.filters
  if q.limit = 0 then wanted else wanted.take q.limit

/-! ## Columns -/

theorem Columns.mem_add {columns : List String} {c d : String} :
    d ∈ add columns c ↔ d ∈ columns ∨ d = c := by
  unfold add
  split
  · next h => exact ⟨Or.inl, fun h' => h'.elim id fun e => e ▸ h⟩
  · simp

theorem Columns.mem_addAll {columns more : List String} {d : String} :
    d ∈ addAll columns more ↔ d ∈ columns ∨ d ∈ more := by
  induction more generalizing columns with
  | nil => simp [addAll]
  | cons c more ih =>
    rw [addAll, List.foldl_cons, ← addAll, ih, mem_add, List.mem_cons, or_assoc]

theorem Predicate.mem_fields {p : Predicate} {f : String} : f ∈ p.fields ↔ f ∈ p.comparedFields := by
  simp [fields, Columns.mem_addAll]

/-- The widened columns are none exactly when none were asked for. -/
theorem widenColumns_eq_nil_iff {columns : List String} {filters : List Predicate} :
    widenColumns columns filters = [] ↔ columns = [] := by
  unfold widenColumns
  split
  · next h => simpa using h
  · next h =>
    refine ⟨fun h' => ?_, fun h' => absurd h' (by simpa using h)⟩
    refine List.eq_nil_iff_forall_not_mem.2 fun c hc => ?_
    exact List.eq_nil_iff_forall_not_mem.1 h' c (Columns.mem_addAll.2 (Or.inl hc))

theorem mem_widenColumns {columns : List String} {filters : List Predicate} (h : columns ≠ [])
    {c : String} : c ∈ widenColumns columns filters ↔
      c ∈ columns ∨ ∃ p ∈ filters, c ∈ p.comparedFields := by
  rw [widenColumns, if_neg (by simpa using h), Columns.mem_addAll, List.mem_flatMap]
  simp only [Predicate.mem_fields]

/-! ## Rows -/

theorem Row.get?_restrict (columns : List String) (r : Row) (c : String) :
    (r.restrict columns).get? c = if columns = [] ∨ c ∈ columns then r.get? c else none := by
  unfold restrict
  by_cases h : columns = []
  · simp [h]
  · simp [h, Dict.get?_keep]

/-- What the filters read of a row is in every row that covers the widened columns. -/
theorem Row.Covers.meets_iff {columns : List String} {filters : List Predicate} {full r : Row}
    (h : Covers (widenColumns columns filters) full r) : r.Meets filters ↔ full.Meets filters := by
  refine forall₂_congr fun p hp => ?_
  rw [Predicate.holds_congr p fun f hf => ?_]
  rcases h f with h | ⟨-, hne, hf'⟩
  · rw [value, value, h]
  · rw [Ne, widenColumns_eq_nil_iff] at hne
    exact absurd ((mem_widenColumns hne).2 (Or.inr ⟨p, hp, hf⟩)) hf'

theorem Row.Covers.shows_restrict {columns : List String} {filters : List Predicate} {full r : Row}
    (h : Covers (widenColumns columns filters) full r) : Shows columns full (r.restrict columns) := by
  intro c
  rw [get?_restrict]
  split
  · next hc =>
    rcases h c with h | ⟨-, hne, hc'⟩
    · exact h
    · rw [Ne, widenColumns_eq_nil_iff] at hne
      exact absurd ((mem_widenColumns hne).2 (Or.inl (hc.resolve_left hne))) hc'
  · rfl

theorem Row.same_of_shows {columns : List String} {full shown shown' : List Row}
    (h : List.Forall₂ (Shows columns) full shown) (h' : List.Forall₂ (Shows columns) full shown') :
    List.Forall₂ Dict.Same shown shown' := by
  induction h generalizing shown' with
  | nil => cases h'; exact .nil
  | cons hr _ ih =>
    cases h' with
    | cons hr' h' => exact .cons (fun c => (hr c).trans (hr' c).symm) (ih h')

/-! ## Deliveries -/

/-- **A delivery is filtered like the table**: a row of the table that meets the filters has been
    kept, and a delivered row meets them exactly when the full one does. -/
theorem Delivers.filter {columns : List String} {request : SourceRequest} {rows given : List Row}
    (hc : request.columns = widenColumns columns request.filters)
    (h : Delivers request rows given) :
    List.Forall₂ (Row.Covers request.columns) (rows.filter fun r => r.Meets request.filters)
      (given.filter fun r => r.Meets request.filters) := by
  induction h with
  | nil => exact .nil
  | @keep full r rows given hr _ ih =>
    have hm : r.Meets request.filters ↔ full.Meets request.filters := by
      rw [hc] at hr
      exact hr.meets_iff
    by_cases hf : full.Meets request.filters
    · rw [List.filter_cons_of_pos (by simpa using hf),
        List.filter_cons_of_pos (by simpa using hm.2 hf)]
      exact .cons hr ih
    · rw [List.filter_cons_of_neg (by simpa using hf),
        List.filter_cons_of_neg (by simpa using mt hm.1 hf)]
      exact ih
  | @skip full rows given hf _ ih =>
    rw [List.filter_cons_of_neg (by simpa using hf)]
    exact ih

theorem forall₂_cut {α β : Type} {R : α → β → Prop} {rows : List α} {shown : List β} (limit : Nat)
    (h : List.Forall₂ R rows shown) :
    List.Forall₂ R (if limit = 0 then rows else rows.take limit)
      (if limit = 0 then shown else shown.take limit) := by
  split
  · exact h
  · exact List.forall₂_take limit h

/-! ## Answers -/

namespace Engine

theorem value_refilter (filters : List Predicate) (rows : List Row) :
    (refilter filters rows).value = rows.filter fun r => r.Meets filters := by
  simp only [refilter, Logged.value_bind, Logged.value_pure, Logged.relabel, value_filterRows]
  refine List.filter_congr fun r _ => ?_
  rw [Bool.eq_iff_iff, List.all_eq_true, decide_eq_true_iff, Row.Meets]

theorem value_secondPass (config : EngineConfig) (filters : List Predicate) (rows : List Row) :
    (secondPass config filters rows).value =
      if config.residualFiltering then rows.filter fun r => r.Meets filters else rows := by
  rw [secondPass]
  cases config.residualFiltering with
  | false => rfl
  | true =>
    cases filters with
    | nil => exact (List.filter_eq_self.2 fun r _ => by simp [Row.Meets]).symm
    | cons p ps => exact value_refilter (p :: ps) rows

/-- The answer that is made of the rows of a source. -/
theorem value_answer {config : EngineConfig} {s : Source} {q : Query} {given : List Row}
    (hg : (s.fetch (requestUnder config q)).value = .ok given) :
    (answer config s q).value = .ok {
      columns := if q.columns.isEmpty then (s.columns q.table).value else q.columns
      rows := cut q.limit ((if config.residualFiltering then
          given.filter fun r => r.Meets q.filters else given).map (Row.restrict q.columns)) } := by
  simp only [answer_of_ok hg, Logged.value_bind, Logged.value_pure, value_secondPass, shownColumns,
    apply_ite Logged.value]

end Engine

/-- **Residual filtering.**  Whatever part of the filters and columns a source takes over, the
    answer shows the rows of the table that meet all filters, the first ones in order, each cut down
    to the columns of the query; any other source with these rows in the table, behind any other
    engine, leads to the same rows. -/
theorem execute_of_conforms {e : Engine} {s : Source} {q : Query} {rows : List Row}
    (on : e.config.residualFiltering = true)
    (known : e.sources.get? (Text.lowerCase q.source) = some s) (hs : s.Conforms q.table rows) :
    ∃ result, (e.execute q).value = .ok result ∧
      List.Forall₂ (Row.Shows q.columns) (q.select rows) result.rows ∧
      ∀ (e' : Engine) (s' : Source), e'.config.residualFiltering = true →
        e'.sources.get? (Text.lowerCase q.source) = some s' → s'.Conforms q.table rows →
        ∃ result', (e'.execute q).value = .ok result' ∧
          List.Forall₂ Dict.Same result.rows result'.rows := by
  have key : ∀ (e : Engine) (s : Source), e.config.residualFiltering = true →
      e.sources.get? (Text.lowerCase q.source) = some s → s.Conforms q.table rows →
      ∃ result, (e.execute q).value = .ok result ∧
        List.Forall₂ (Row.Shows q.columns) (q.select rows) result.rows := by
    intro e s on known hs
    have hwide : (Engine.requestUnder e.config q).columns = widenColumns q.columns q.filters :=
      if_pos on
    obtain ⟨given, hg, hd⟩ := hs (Engine.requestUnder e.config q) rfl
    refine ⟨_, (Engine.value_execute known).trans (Engine.value_answer hg), ?_⟩
    rw [if_pos on]
    refine forall₂_cut q.limit (List.forall₂_map_right_iff.2 ?_)
    refine (hd.filter hwide).imp fun full r h => ?_
    rw [hwide] at h
    exact h.shows_restrict
  obtain ⟨result, hr, hshows⟩ := key e s on known hs
  refine ⟨result, hr, hshows, fun e' s' on' known' hs' => ?_⟩
  obtain ⟨result', hr', hshows'⟩ := key e' s' on' known' hs'
  exact ⟨result', hr', Row.same_of_shows hshows hshows'⟩

/-- A source with one table that leaves the filters to the engine and cuts rows down to the columns
    asked for. -/
def Source.unfiltered (rows : List Row) : Source where
  columns _ := pure []
  fetch request := pure (.ok (rows.map (Row.restrict request.columns)))

theorem Row.covers_restrict (columns : List String) (r : Row) : Covers columns r (r.restrict columns) := by
  intro c
  rw [get?_restrict]
  by_cases hc : columns = [] ∨ c ∈ columns
  · exact Or.inl (if_pos hc)
  · exact Or.inr ⟨if_neg hc, fun h => hc (Or.inl h), fun h => hc (Or.inr h)⟩

theorem Source.conforms_unfiltered (table : String) (rows : List Row) :
    (Source.unfiltered rows).Conforms table rows := by
  intro request _
  refine ⟨_, rfl, ?_⟩
  induction rows with
  | nil => exact .nil
  | cons r rows ih => exact .keep (r.covers_restrict request.columns) ih

/-- The age, which the answer does not show, is asked for all the same. -/
theorem execute_unfiltered :
    let bob : Row := .ofPairs [("name", "Bob"), ("age", "30")]
    let eve : Row := .ofPairs [("name", "Eve"), ("age", "40")]
    let s := Source.unfiltered [bob, eve]
    let e : Engine := { sources := Dict.empty.insert "hr" s }
    let q : Query := {
      source := "HR", table := "people", columns := ["name"], filters := [.eq "age" "40"] }
    ∃ result, (e.execute q).value = .ok result ∧
      List.Forall₂ (Row.Shows ["name"]) [eve] result.rows := by
  intro bob eve s e q
  have hbob : ¬ bob.Meets q.filters := by decide +kernel
  have heve : eve.Meets q.filters := by decide +kernel
  have hsel : q.select [bob, eve] = [eve] := by simp [Query.select, hbob, heve, q]
  have known : e.sources.get? (Text.lowerCase q.source) = some s := by
    rw [show Text.lowerCase q.source = "hr" by decide +kernel, Dict.get?_insert, if_pos rfl]
  obtain ⟨result, hr, hshows, -⟩ :=
    execute_of_conforms rfl known (Source.conforms_unfiltered q.table [bob, eve])
  exact ⟨result, hr, hsel ▸ hshows⟩

end FederatedQuery
