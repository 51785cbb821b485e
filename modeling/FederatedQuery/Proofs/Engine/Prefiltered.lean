/-
  Sources that apply the filters themselves.

  For such a source it makes no difference whether the engine applies the filters once more: the
  second pass keeps every row, and the columns that it needs are cut off in the end.

  * `Source.Filters`: a source that refuses a request whatever the columns, or gives the rows that
    meet the filters, cut down to the columns asked for;
  * `restrict_restrict`, `meets_restrict_iff`: cutting down twice, and filters on a row cut down;
  * `exists_answer`: the answer from such a source is the same under all settings;
  * `execute_prefiltered`: tables in memory are such a source, so that engines with and without the
    second pass answer alike.
-/
import FederatedQuery.Proofs.Engine.Residual
import FederatedQuery.Proofs.Source.Memory

namespace FederatedQuery

/-- The source applies the filters itself: for every table and filters it either refuses, or has rows
    of which it gives those that meet the filters, cut down to the columns asked for. -/
def Source.Filters (s : Source) : Prop :=
  ∀ table filters,
    (∃ error, ∀ columns, (s.fetch { table, columns, filters }).value = .error error) ∨
    ∃ rows : List Row, ∀ columns, (s.fetch { table, columns, filters }).value =
      .ok ((rows.filter fun r => r.Meets filters).map (Row.restrict columns))

/-! ## Rows cut down -/

theorem Dict.keep_keep {α : Type} (d : Dict α) (p q : String → Bool) :
    (d.keep p).keep q = d.keep fun name => p name && q name := by
  simp only [Dict.keep, List.filter_filter, Bool.and_comm]

/-- What is cut down to more columns first can be cut down at once. -/
theorem Row.restrict_restrict {columns wide : List String} (hnil : columns = [] → wide = [])
    (hsub : columns ⊆ wide) (r : Row) : (r.restrict wide).restrict columns = r.restrict columns := by
  by_cases hc : columns = []
  · rw [hc, hnil hc]
    rfl
  · have hw : wide ≠ [] := fun h => hc (List.subset_nil.1 (h ▸ hsub))
    have hkeep : ∀ name, (wide.contains name && columns.contains name) = columns.contains name := by
      intro name
      by_cases h : name ∈ columns
      · simp [h, hsub h]
      · simp [h]
    simp only [restrict, List.isEmpty_iff, hc, hw, if_false, Dict.keep_keep, hkeep]

theorem restrict_widenColumns (columns : List String) (filters : List Predicate) (r : Row) :
    (r.restrict (widenColumns columns filters)).restrict columns = r.restrict columns := by
  refine Row.restrict_restrict widenColumns_eq_nil_iff.2 (fun c hc => ?_) r
  exact (mem_widenColumns (List.ne_nil_of_mem hc)).2 (Or.inl hc)

/-- The widened columns are enough to judge a row. -/
theorem meets_restrict_iff (columns : List String) (filters : List Predicate) (r : Row) :
    (r.restrict (widenColumns columns filters)).Meets filters ↔ r.Meets filters :=
  (r.covers_restrict (widenColumns columns filters)).meets_iff

/-- The second pass keeps every row that is left. -/
theorem filter_filtered (columns : List String) (filters : List Predicate) (rows : List Row) :
    (((rows.filter fun r => r.Meets filters).map (Row.restrict (widenColumns columns filters))).filter
        fun r => r.Meets filters) =
      (rows.filter fun r => r.Meets filters).map (Row.restrict (widenColumns columns filters)) := by
  refine List.filter_eq_self.2 fun r hr => ?_
  obtain ⟨full, hfull, rfl⟩ := List.mem_map.1 hr
  rw [decide_eq_true_iff, meets_restrict_iff]
  simpa using (List.mem_filter.1 hfull).2

/-! ## Answers -/

namespace Engine

/-- A refusal is passed on. -/
theorem value_answer_refused {s : Source} {q : Query} {error : QueryError}
    (h : ∀ columns, (s.fetch { table := q.table, columns, filters := q.filters }).value = .error error)
    (config : EngineConfig) : (answer config s q).value = .error error := by
  rw [answer_of_error (h _)]
  rfl

/-- The columns that are asked for are enough for those of the query. -/
theorem restrict_requestUnder (config : EngineConfig) (q : Query) (r : Row) :
    (r.restrict (requestUnder config q).columns).restrict q.columns = r.restrict q.columns := by
  rw [requestUnder]
  cases config.residualFiltering with
  | false => exact Row.restrict_restrict id (List.Subset.refl q.columns) r
  | true => exact restrict_widenColumns q.columns q.filters r

/-- A second pass over filtered rows, if there is one, keeps all of them. -/
theorem filter_requestUnder (config : EngineConfig) (q : Query) (rows : List Row) :
    let given := (rows.filter fun r => r.Meets q.filters).map
      (Row.restrict (requestUnder config q).columns)
    (if config.residualFiltering then given.filter fun r => r.Meets q.filters else given) = given := by
  rw [requestUnder]
  cases config.residualFiltering with
  | false => rfl
  | true => exact filter_filtered q.columns q.filters rows

/-- The answer from filtered rows, whether or not they are filtered once more. -/
theorem value_answer_filtered {s : Source} {q : Query} {rows : List Row}
    (h : ∀ columns, (s.fetch { table := q.table, columns, filters := q.filters }).value =
      .ok ((rows.filter fun r => r.Meets q.filters).map (Row.restrict columns)))
    (config : EngineConfig) :
    (answer config s q).value = .ok {
      columns := if q.columns.isEmpty then (s.columns q.table).value else q.columns
      rows := cut q.limit
        ((rows.filter fun r => r.Meets q.filters).map (Row.restrict q.columns)) } := by
  have hgiven := h (requestUnder config q).columns
  rw [value_answer hgiven, filter_requestUnder, List.map_map]
  simp only [Function.comp_def, restrict_requestUnder]

/-- **The answer from a source that filters** is the same under all settings. -/
theorem exists_answer {s : Source} (h : s.Filters) (q : Query) :
    ∃ result, ∀ config, (answer config s q).value = result := by
  rcases h q.table q.filters with ⟨error, herror⟩ | ⟨rows, hrows⟩
  · exact ⟨_, value_answer_refused herror⟩
  · exact ⟨_, value_answer_filtered hrows⟩

end Engine

/-! ## Tables in memory -/

/-- Tables in memory are filtered by their source. -/
theorem MemorySource.filters_toSource (m : MemorySource) : m.toSource.Filters := by
  intro table filters
  simp only [value_fetch_toSource]
  cases ht : m.table? table with
  | none => exact Or.inr ⟨[], fun columns => value_fetch_unknown ht⟩
  | some t =>
    cases hu : MemoryTable.unpinned? t filters with
    | some field =>
      exact Or.inl ⟨.source (.unpinned table field), fun columns => value_fetch_unpinned ht hu⟩
    | none =>
      have hmeets : (t.rows.filter fun r => filters.all (·.holds r)) =
          t.rows.filter fun r => r.Meets filters := by
        refine List.filter_congr fun r _ => ?_
        rw [Bool.eq_iff_iff, List.all_eq_true, decide_eq_true_iff, Row.Meets]
      refine Or.inr ⟨t.rows, fun columns => ?_⟩
      rw [← hmeets]
      exact value_fetch_pinned ht hu

/-- **The second pass makes no difference to tables in memory.**  Two engines, whatever their settings,
    give the same answer to a query that goes to the same tables in memory, or to no source, in
    both; one may apply the filters once more, and the other not. -/
theorem execute_prefiltered {e e' : Engine} {q : Query}
    (same : e.sources.get? (Text.lowerCase q.source) = e'.sources.get? (Text.lowerCase q.source))
    (memory : ∀ s, e.sources.get? (Text.lowerCase q.source) = some s →
      ∃ ds, s = (MemorySource.built ds).toSource) :
    (e.execute q).value = (e'.execute q).value := by
  cases hs : e.sources.get? (Text.lowerCase q.source) with
  | none =>
    rw [Engine.value_execute_unknown hs, Engine.value_execute_unknown (same.symm.trans hs)]
  | some s =>
    obtain ⟨ds, rfl⟩ := memory s hs
    obtain ⟨result, hresult⟩ := Engine.exists_answer (MemorySource.built ds).filters_toSource q
    rw [Engine.value_execute hs, Engine.value_execute (same.symm.trans hs), hresult, hresult]

/-- A column asked for twice, another one that only the filters read, a pattern that is no regular
    expression, and a limit. -/
theorem execute_prefiltered_pipelines :
    let e : Engine := {
      sources := Dict.empty.insert "ci" (MemorySource.built MemorySource.pipelines).toSource }
    let e' : Engine := { e with config := e.config.withoutResidualFiltering }
    let q : Query := {
      source := "CI", table := "PipeLines", columns := ["id", "id"], limit := 1
      filters := [.and [.eq "project" "API"], .or [.found "id" "(", .ne "id" "1"]] }
    e.config.residualFiltering = true ∧ e'.config.residualFiltering = false ∧
      (e.execute q).value = (e'.execute q).value := by
  intro e e' q
  have known : e.sources.get? (Text.lowerCase q.source) =
      some (MemorySource.built MemorySource.pipelines).toSource := by
    rw [show Text.lowerCase q.source = "ci" by decide +kernel, Dict.get?_insert, if_pos rfl]
  refine ⟨rfl, rfl, execute_prefiltered rfl fun s hs => ⟨MemorySource.pipelines, ?_⟩⟩
  exact Option.some.inj (hs.symm.trans known)

end FederatedQuery
