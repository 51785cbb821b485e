/-
  The query engine.

  An engine knows sources by names without regard to case, and answers queries by asking the source
  that a query names.  Since a source need not apply the filters, the engine does so once more, and
  asks for the columns that it needs for that.

  * `Engine`: settings and sources, with `Engine.register`, `.replace`, `.deregister`, `.names`;
  * `Engine.execute`, `Engine.query`: the answer to a query, and to a statement;
  * `widenColumns`: the columns that a request needs.
-/
import FederatedQuery.Engine.Config
import FederatedQuery.Query.Evaluate
import FederatedQuery.Source.Basic
import FederatedQuery.Statement.Reader

namespace FederatedQuery

/-- The answer to a query. -/
structure QueryResult where
  /-- The columns in their order. -/
  columns : List String
  rows : List Row

/-- An engine: settings, and sources under their names in lower case. -/
structure Engine where
  config : EngineConfig := {}
  sources : Dict Source := .empty

/-- The columns asked for together with those that the filters read, so that these can be applied
    to the answer; where all columns are asked for, none has to be added. -/
def widenColumns (columns : List String) (filters : List Predicate) : List String :=
  if columns.isEmpty then [] else Columns.addAll columns (filters.flatMap Predicate.fields)

namespace Engine

/-- An engine with the given settings and no sources. -/
def withConfig (config : EngineConfig) : Engine where
  config := config

/-- Entries of the log as activities. -/
def log (e : Event) : Logged Activity Unit := Logged.note (.event e)

/-! ## Sources -/

/-- Registers a source under a new name. -/
def register (e : Engine) (name : String) (source : Source) :
    Logged Activity (Except QueryError Engine) :=
  let key := Text.lowerCase name
  if e.sources.contains key then pure (.error (.duplicateSource key))
  else do
    log (.registered key none)
    pure (.ok { e with sources := e.sources.insert key source })

/-- Registers a source under a name, in place of the one that had it; the answer tells whether one
    had. -/
def replace (e : Engine) (name : String) (source : Source) : Logged Activity (Bool × Engine) := do
  let key := Text.lowerCase name
  let replaced := e.sources.contains key
  log (.registered key (some replaced))
  pure (replaced, { e with sources := e.sources.insert key source })

/-- Removes the source with the name; the answer tells whether there was one. -/
def deregister (e : Engine) (name : String) : Logged Activity (Bool × Engine) :=
  let key := Text.lowerCase name
  if e.sources.contains key then do
    log (.deregistered key)
    pure (true, { e with sources := e.sources.erase key })
  else pure (false, e)

/-- The names of all sources, sorted. -/
def names (e : Engine) : List String := e.sources.names.mergeSort

/-! ## Queries -/

/-- The rows that meet all filters. -/
def refilter (filters : List Predicate) (rows : List Row) : Logged Activity (List Row) := do
  let kept ← (filterRows filters rows).relabel .event
  log (.filtered rows.length kept.length)
  pure kept

/-- The first `limit` rows; the limit 0 stands for none. -/
def cut (limit : Nat) (rows : List Row) : List Row := if limit = 0 then rows else rows.take limit

/-- Answers a query from its source. -/
def answer (config : EngineConfig) (source : Source) (q : Query) :
    Logged Activity (Except QueryError QueryResult) := do
  let residual := config.residualFiltering && !q.filters.isEmpty
  let columns := if residual then widenColumns q.columns q.filters else q.columns
  match ← source.fetch { table := q.table, columns, filters := q.filters } with
  | .error error => pure (.error error)
  | .ok fetched =>
    let kept ← if residual then refilter q.filters fetched else pure fetched
    let columns ← if q.columns.isEmpty then source.columns q.table else pure q.columns
    let rows := cut q.limit (kept.map (Row.restrict q.columns))
    log (.completed rows.length)
    pure (.ok { columns, rows })

/-- Answers a query. -/
def execute (e : Engine) (q : Query) : Logged Activity (Except QueryError QueryResult) := do
  log (.executing q.text)
  let key := Text.lowerCase q.source
  match e.sources.get? key with
  | some source => answer e.config source q
  | none =>
    log (.unknownSource key)
    pure (.error (.unknownSource key))

/-- Answers the first statement of a text. -/
def query (e : Engine) (text : String) : Logged Activity (Except QueryError QueryResult) :=
  match validateStatement text e.config.maxStatementLength with
  | .error error => pure (.error error)
  | .ok () => do
    match ← (Statement.parse text).relabel .event with
    | .error error => pure (.error (.statement error))
    | .ok q => e.execute q

end Engine

end FederatedQuery
