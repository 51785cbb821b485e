/-
  Answers of an engine.

  * `Engine.answer_eq`: an answer is made of what the source gives for one request, or is its error;
    `Engine.answer_of_error` and `Engine.answer_of_ok` are the two cases;
  * `Engine.execute_of_known`, `Engine.execute_of_unknown`: a query goes to the source under the name
    that it gives, in lower case, if there is one;
  * `Engine.value_register`: an engine with a single source.
-/
import FederatedQuery.Engine.Basic

namespace FederatedQuery

namespace Engine

/-! ## Asking a source -/

/-- What an engine with the given settings asks a source for: for the columns that the filters read as
    well, if it applies these once more. -/
def requestUnder (config : EngineConfig) (q : Query) : SourceRequest where
  table := q.table
  columns := if config.residualFiltering then widenColumns q.columns q.filters else q.columns
  filters := q.filters

/-- The rows that are left of those of a source, to which the filters may be applied once more. -/
def secondPass (config : EngineConfig) (filters : List Predicate) (rows : List Row) :
    Logged Activity (List Row) :=
  if config.residualFiltering && !filters.isEmpty then refilter filters rows else pure rows

/-- The columns of an answer: those of the query, or all of the table. -/
def shownColumns (s : Source) (q : Query) : Logged Activity (List String) :=
  if q.columns.isEmpty then s.columns q.table else pure q.columns

theorem widenColumns_nil (columns : List String) : widenColumns columns [] = columns := by
  unfold widenColumns
  split
  · next h => exact (List.isEmpty_iff.1 h).symm
  · rfl

/-- Without filters no columns are added. -/
theorem requestUnder_eq (config : EngineConfig) (q : Query) :
    requestUnder config q = {
      table := q.table
      columns := if config.residualFiltering && !q.filters.isEmpty then
          widenColumns q.columns q.filters
        else q.columns
      filters := q.filters } := by
  rw [requestUnder]
  cases config.residualFiltering with
  | false => rfl
  | true =>
    cases hfilters : q.filters with
    | nil => simp [widenColumns_nil]
    | cons => rfl

/-- **An answer** is made of what the source gives for the request, or is the error that it gives. -/
theorem answer_eq (config : EngineConfig) (s : Source) (q : Query) :
    answer config s q = (do
      match ← s.fetch (requestUnder config q) with
      | .error error => pure (.error error)
      | .ok given =>
        let kept ← secondPass config q.filters given
        let columns ← shownColumns s q
        let rows := cut q.limit (kept.map (Row.restrict q.columns))
        log (.completed rows.length)
        pure (.ok { columns, rows })) := by
  rw [requestUnder_eq]
  refine congrArg (s.fetch _ >>= ·) (funext fun fetched => ?_)
  cases fetched with
  | error error => rfl
  | ok given =>
    dsimp only [secondPass, shownColumns]
    split <;> split <;> rfl

variable {config : EngineConfig} {s : Source} {q : Query}

theorem answer_of_error {error : QueryError}
    (h : (s.fetch (requestUnder config q)).value = .error error) :
    answer config s q = (do
      let _ ← s.fetch (requestUnder config q)
      pure (.error error)) := by
  rw [answer_eq]
  ext1
  · simp only [Logged.value_bind, h]
  · simp only [Logged.log_bind, h]

theorem answer_of_ok {given : List Row} (h : (s.fetch (requestUnder config q)).value = .ok given) :
    answer config s q = (do
      let _ ← s.fetch (requestUnder config q)
      let kept ← secondPass config q.filters given
      let columns ← shownColumns s q
      let rows := cut q.limit (kept.map (Row.restrict q.columns))
      log (.completed rows.length)
      pure (.ok { columns, rows })) := by
  rw [answer_eq]
  ext1
  · simp only [Logged.value_bind, h]
  · simp only [Logged.log_bind, h]

/-! ## Finding a source -/

section

variable {e : Engine} {s : Source} {q : Query}

theorem execute_of_known (known : e.sources.get? (Text.lowerCase q.source) = some s) :
    e.execute q = (do
      log (.executing q.text)
      answer e.config s q) := by
  simp only [execute, known]

theorem execute_of_unknown (unknown : e.sources.get? (Text.lowerCase q.source) = none) :
    e.execute q = (do
      log (.executing q.text)
      log (.unknownSource (Text.lowerCase q.source))
      pure (.error (.unknownSource (Text.lowerCase q.source)))) := by
  simp only [execute, unknown]

theorem value_execute (known : e.sources.get? (Text.lowerCase q.source) = some s) :
    (e.execute q).value = (answer e.config s q).value := by
  rw [execute_of_known known, Logged.value_bind]

theorem value_execute_unknown (unknown : e.sources.get? (Text.lowerCase q.source) = none) :
    (e.execute q).value = .error (.unknownSource (Text.lowerCase q.source)) := by
  rw [execute_of_unknown unknown]
  rfl

end

/-- The engine that knows a single source. -/
theorem value_register (name : String) (s : Source) :
    ∃ e : Engine, (Engine.register {} name s).value = .ok e ∧ e.config = {} ∧
      ∀ key, e.sources.get? key = if key = Text.lowerCase name then some s else none := by
  refine ⟨{ sources := Dict.empty.insert (Text.lowerCase name) s }, rfl, rfl, fun key => ?_⟩
  rw [Dict.get?_insert, Dict.get?_empty]

end Engine

end FederatedQuery
