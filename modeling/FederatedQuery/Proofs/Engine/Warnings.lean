/-
  Warnings of malformed patterns.

  Whoever reads the log learns from it which patterns of a query are malformed, and so are found
  nowhere.  The warnings go by the filters alone, not by the rows that these are applied to.

  * `Predicate.patterns`: the patterns in a predicate, from left to right; `malformed filters`: those of
    some filters that cannot be read;
  * `warnings`: the warnings of malformed patterns among all that can be observed of a run;
  * `log_filterRows_eq`: filtering warns of each malformed pattern once for every time that it stands in
    the filters;
  * `warnings_execute`: how often, and of which patterns, the answer to a query from tables in memory
    warns.
-/
import FederatedQuery.Proofs.Engine.Answer
import FederatedQuery.Proofs.Predicate.Filtering
import FederatedQuery.Proofs.Source.Memory
import Mathlib.Data.List.Basic

namespace FederatedQuery

/-! ## Patterns -/

namespace Predicate

mutual

/-- The pattern of every comparison that looks for one, from left to right. -/
def patterns : Predicate → List String
  | .comparison .found _ pattern => [pattern]
  | .comparison .. => []
  | .logical _ children => patternsOf children

/-- The patterns in a list of predicates, from left to right. -/
def patternsOf : List Predicate → List String
  | [] => []
  | p :: ps => p.patterns ++ patternsOf ps

end

theorem patternsOf_eq (ps : List Predicate) : patternsOf ps = ps.flatMap patterns := by
  induction ps with
  | nil => rfl
  | cons p ps ih => rw [patternsOf, List.flatMap_cons, ih]

end Predicate

/-- Whether a pattern cannot be read, or is too large. -/
def isMalformed (pattern : String) : Bool := (Pattern.read? pattern).isNone

/-- The malformed patterns in some filters, from left to right, each as often as it stands there. -/
def malformed (filters : List Predicate) : List String :=
  (filters.flatMap Predicate.patterns).filter isMalformed

/-- **Preparing** a predicate warns of its malformed patterns. -/
theorem Predicate.log_prepare (p : Predicate) :
    p.prepare.log = (p.patterns.filter isMalformed).map .badPattern := by
  induction p using treeInduction with
  | comparison op field value =>
    cases op with
    | eq | ne => rfl
    | found =>
      rw [prepare, Logged.log_bind, Logged.log_pure, List.append_nil, readPattern, patterns,
        List.filter_singleton, isMalformed]
      cases Pattern.read? value <;> rfl
  | logical op children ih =>
    rw [log_prepare_logical, patterns, patternsOf_eq, List.filter_flatMap, List.map_flatMap]
    exact List.flatMap_congr ih

theorem log_filterRows_eq (filters : List Predicate) (rows : List Row) :
    (filterRows filters rows).log = (malformed filters).map .badPattern := by
  rw [log_filterRows, malformed, List.filter_flatMap, List.map_flatMap]
  exact List.flatMap_congr fun p _ => p.log_prepare

/-! ## Warnings -/

/-- The pattern of which an entry of the log warns. -/
def Activity.malformed? : Activity → Option String
  | .event (.badPattern pattern) => some pattern
  | _ => none

/-- The malformed patterns of which a run warns, in order. -/
def warnings {α : Type} (x : Logged Activity α) : List String := x.log.filterMap Activity.malformed?

section

variable {α β : Type}

theorem warnings_pure (a : α) : warnings (pure a) = [] := rfl

theorem warnings_bind (x : Logged Activity α) (f : α → Logged Activity β) :
    warnings (x >>= f) = warnings x ++ warnings (f x.value) := List.filterMap_append

end

/-- Filtering warns of the malformed patterns, whatever the rows. -/
theorem warnings_filterRows (filters : List Predicate) (rows : List Row) :
    warnings ((filterRows filters rows).relabel .event) = malformed filters := by
  rw [warnings, Logged.relabel, log_filterRows_eq, List.map_map, List.filterMap_map]
  exact List.filterMap_some

/-! ## Tables in memory -/

namespace MemorySource

/-- The filters pin all of the fields that a table requires. -/
def PinsAll (required : List String) (filters : List Predicate) : Prop :=
  ∀ field ∈ required, (requiredEquality filters field).isSome = true

instance (required : List String) (filters : List Predicate) :
    Decidable (PinsAll required filters) :=
  inferInstanceAs (Decidable (∀ field ∈ required, (requiredEquality filters field).isSome = true))

theorem unpinned?_eq_none_iff_pinsAll {t : MemoryTable} {filters : List Predicate} :
    MemoryTable.unpinned? t filters = none ↔ PinsAll t.required filters := by
  rw [MemoryTable.unpinned?, List.find?_eq_none]
  refine forall₂_congr fun field _ => ?_
  rw [Option.isNone_iff_eq_none, Option.isSome_iff_ne_none]

variable {m : MemorySource} {request : SourceRequest} {t : MemoryTable}

theorem warnings_fetch_unknown (ht : m.table? request.table = none) :
    warnings (m.toSource.fetch request) = [] := by
  simp only [toSource, fetch, ht]
  rfl

theorem warnings_fetch_unpinned {field : String} (ht : m.table? request.table = some t)
    (hu : MemoryTable.unpinned? t request.filters = some field) :
    warnings (m.toSource.fetch request) = [] := by
  simp only [toSource, fetch, ht, hu]
  rfl

theorem warnings_fetch_pinned (ht : m.table? request.table = some t)
    (hu : MemoryTable.unpinned? t request.filters = none) :
    warnings (m.toSource.fetch request) = malformed request.filters := by
  rw [← warnings_filterRows request.filters t.rows]
  simp only [warnings, toSource, fetch, ht, hu, Logged.relabel, Logged.log_bind, Logged.log_pure,
    List.append_nil]

end MemorySource

/-! ## Answers -/

namespace Engine

/-- The patterns of which the second pass over the rows warns. -/
def warnedAgain (config : EngineConfig) (filters : List Predicate) : List String :=
  if config.residualFiltering then malformed filters else []

theorem warnings_refilter (filters : List Predicate) (rows : List Row) :
    warnings (refilter filters rows) = malformed filters := by
  rw [refilter, warnings_bind, warnings_filterRows]
  exact List.append_nil _

/-- The second pass is left out where there are no filters, and so nothing to warn of. -/
theorem warnings_secondPass (config : EngineConfig) (filters : List Predicate) (rows : List Row) :
    warnings (secondPass config filters rows) = warnedAgain config filters := by
  rw [secondPass, warnedAgain]
  cases config.residualFiltering with
  | false => rfl
  | true =>
    cases filters with
    | nil => rfl
    | cons p ps => exact warnings_refilter (p :: ps) rows

variable {e : Engine} {config : EngineConfig} {s : Source} {q : Query}

theorem warnings_shownColumns (hcolumns : warnings (s.columns q.table) = []) :
    warnings (shownColumns s q) = [] := by
  rw [shownColumns]
  split
  · exact hcolumns
  · rfl

/-- Behind an error of the source there is no warning any more. -/
theorem warnings_answer_error {error : QueryError}
    (h : (s.fetch (requestUnder config q)).value = .error error) :
    warnings (answer config s q) = warnings (s.fetch (requestUnder config q)) := by
  rw [answer_of_error h, warnings_bind, warnings_pure, List.append_nil]

/-- Behind the rows of the source there are the warnings of the second pass. -/
theorem warnings_answer_ok {given : List Row}
    (h : (s.fetch (requestUnder config q)).value = .ok given)
    (hcolumns : warnings (s.columns q.table) = []) :
    warnings (answer config s q) =
      warnings (s.fetch (requestUnder config q)) ++ warnedAgain config q.filters := by
  have hcompleted (n : Nat) : warnings (log (.completed n)) = [] := rfl
  simp only [answer_of_ok h, warnings_bind, warnings_secondPass, warnings_shownColumns hcolumns,
    hcompleted, warnings_pure, List.append_nil]

/-- The patterns of which an answer from tables in memory warns. -/
theorem warnings_answer_memory (config : EngineConfig) (m : MemorySource) (q : Query) :
    warnings (answer config m.toSource q) =
      match (m.table? q.table).map MemoryTable.required with
      | none => warnedAgain config q.filters
      | some required =>
        if MemorySource.PinsAll required q.filters then
          malformed q.filters ++ warnedAgain config q.filters
        else [] := by
  have hvalue := m.value_fetch_toSource (requestUnder config q)
  cases ht : m.table? (requestUnder config q).table with
  | none =>
    rw [MemorySource.value_fetch_unknown ht] at hvalue
    rw [warnings_answer_ok hvalue rfl, MemorySource.warnings_fetch_unknown ht, List.nil_append,
      show m.table? q.table = none from ht, Option.map_none]
  | some t =>
    rw [show m.table? q.table = some t from ht, Option.map_some]
    cases hu : MemorySource.MemoryTable.unpinned? t (requestUnder config q).filters with
    | some field =>
      have hpins : ¬ MemorySource.PinsAll t.required q.filters := by
        rw [← MemorySource.unpinned?_eq_none_iff_pinsAll]
        exact fun h => nomatch hu.symm.trans h
      rw [MemorySource.value_fetch_unpinned ht hu] at hvalue
      simp only [warnings_answer_error hvalue, MemorySource.warnings_fetch_unpinned ht hu, if_neg hpins]
    | none =>
      have hpins : MemorySource.PinsAll t.required q.filters :=
        MemorySource.unpinned?_eq_none_iff_pinsAll.1 hu
      rw [MemorySource.value_fetch_pinned ht hu] at hvalue
      simp only [warnings_answer_ok hvalue rfl, MemorySource.warnings_fetch_pinned ht hu, if_pos hpins]
      rfl

theorem warnings_execute_known (known : e.sources.get? (Text.lowerCase q.source) = some s) :
    warnings (e.execute q) = warnings (answer e.config s q) := by
  rw [execute_of_known known, warnings_bind]
  rfl

theorem warnings_execute_unknown (unknown : e.sources.get? (Text.lowerCase q.source) = none) :
    warnings (e.execute q) = [] := by
  rw [execute_of_unknown unknown]
  rfl

end Engine

/-- **Warnings of malformed patterns.**  The answer to a query warns of no pattern when no source is
    registered under the name that it gives, or the filters leave a field unpinned that the table
    requires.  Otherwise it warns of every malformed pattern from left to right, once by a source in
    memory that knows the table, and once more by the engine if that applies the filters again.  Of
    the source it only matters which fields the table requires, of the query only where it goes and
    its filters. -/
theorem warnings_execute {e : Engine} {q : Query} {m : MemorySource}
    (memory : ∀ s, e.sources.get? (Text.lowerCase q.source) = some s → s = m.toSource) :
    warnings (e.execute q) =
      if e.sources.contains (Text.lowerCase q.source) then
        match (m.table? q.table).map MemoryTable.required with
        | none => Engine.warnedAgain e.config q.filters
        | some required =>
          if MemorySource.PinsAll required q.filters then
            malformed q.filters ++ Engine.warnedAgain e.config q.filters
          else []
      else [] := by
  rw [Dict.contains]
  cases hs : e.sources.get? (Text.lowerCase q.source) with
  | none => exact Engine.warnings_execute_unknown hs
  | some s =>
    obtain rfl := memory s hs
    rw [Engine.warnings_execute_known hs, Engine.warnings_answer_memory]
    rfl

/-- Tables in memory of which one requires a field. -/
def requiring : MemorySource := ({} : MemorySource).requireEquality "t" "p"

/-- Filters with malformed patterns: one that no row is looked through for, as the other side of the
    OR holds of every row, and one that stands there twice. -/
def malformedFilters : List Predicate :=
  [.or [.ne "a" "", .found "a" "("], .found "b" "1|2",
    .and [.found "a" "[", .eq "p" "1", .found "b" "("]]

/-- The table is known and the field pinned, it is not pinned, and the table is not known. -/
theorem warnings_execute_requiring :
    let e : Engine := { sources := Dict.empty.insert "s" requiring.toSource }
    let asked (table : String) (filters : List Predicate) : Query :=
      { source := "S", table, filters, limit := 1 }
    warnings (e.execute (asked "T" malformedFilters)) = ["(", "[", "(", "(", "[", "("] ∧
      warnings (e.execute (asked "T" [.found "a" "("])) = [] ∧
      warnings (e.execute (asked "u" malformedFilters)) = ["(", "[", "("] := by
  intro e asked
  have known : e.sources.get? (Text.lowerCase "S") = some requiring.toSource := by
    rw [show Text.lowerCase "S" = "s" by decide +kernel, Dict.get?_insert, if_pos rfl]
  have hexecute (table : String) (filters : List Predicate) :=
    warnings_execute (e := e) (q := asked table filters)
      fun s hs => (Option.some.inj (known.symm.trans hs)).symm
  have hcontains : e.sources.contains (Text.lowerCase "S") = true := by
    rw [Dict.contains, known, Option.isSome_some]
  have htable : (requiring.table? "T").map MemoryTable.required = some ["p"] := by decide +kernel
  have hunknown : (requiring.table? "u").map MemoryTable.required = none := by decide +kernel
  have hpinned : MemorySource.PinsAll ["p"] malformedFilters := by decide
  have hfree : ¬ MemorySource.PinsAll ["p"] [.found "a" "("] := by decide
  have hmalformed : malformed malformedFilters = ["(", "[", "("] := by decide +kernel
  have hagain : Engine.warnedAgain e.config malformedFilters = ["(", "[", "("] := hmalformed
  simp only [hexecute, asked, hcontains, if_true, htable, hunknown, if_pos hpinned, if_neg hfree,
    hmalformed, hagain, List.cons_append, List.nil_append, true_and]

end FederatedQuery
