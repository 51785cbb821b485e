/-
  Tables in memory.

  * `MemoryTable`: columns, rows, and the fields that a request has to pin;
  * `MemorySource`: tables under names without regard to case, built by `withTable` and
    `requireEquality`;
  * `MemorySource.columns`, `MemorySource.fetch`: answers to requests; all filters are applied, and
    the rows cut down to the columns asked for;
  * `MemorySource.toSource`: the tables as a source.
-/
import FederatedQuery.Query.Evaluate
import FederatedQuery.Query.Pinned
import FederatedQuery.Source.Basic
import FederatedQuery.Text.LowerCase

namespace FederatedQuery

/-- A table in memory. -/
structure MemoryTable where
  columns : List String := []
  rows : List Row := []
  /-- The fields that every request has to pin to a value. -/
  required : List String := []

/-- Tables in memory, under their names in lower case. -/
structure MemorySource where
  tables : Dict MemoryTable := .empty

namespace MemorySource

/-- The table with the given name. -/
def table? (m : MemorySource) (name : String) : Option MemoryTable :=
  m.tables.get? (Text.lowerCase name)

/-- Changes the table with the given name, at first an empty one. -/
def change (m : MemorySource) (name : String) (f : MemoryTable → MemoryTable) : MemorySource where
  tables := m.tables.insert (Text.lowerCase name) (f ((m.table? name).getD {}))

/-- Sets the columns and rows of a table.  Fields that have to be pinned stay so. -/
def withTable (m : MemorySource) (name : String) (columns : List String) (rows : List Row) :
    MemorySource :=
  m.change name fun t => { t with columns, rows }

/-- From now on every request for the table has to pin the field. -/
def requireEquality (m : MemorySource) (table field : String) : MemorySource :=
  m.change table fun t => { t with required := t.required ++ [Text.lowerCase field] }

/-- The columns of a table. -/
def columns (m : MemorySource) (table : String) : List String :=
  ((m.table? table).map MemoryTable.columns).getD []

/-- The first field that has to be pinned and is not. -/
def MemoryTable.unpinned? (t : MemoryTable) (filters : List Predicate) : Option String :=
  t.required.find? fun field => (requiredEquality filters field).isNone

/-- The rows for a request.  An unknown table has no rows. -/
def fetch (m : MemorySource) (request : SourceRequest) :
    Logged Event (Except QueryError (List Row)) :=
  match m.table? request.table with
  | none => pure (.ok [])
  | some t =>
    match MemoryTable.unpinned? t request.filters with
    | some field => pure (.error (.source (.unpinned request.table field)))
    | none => do
      let rows ← filterRows request.filters t.rows
      pure (.ok (rows.map (Row.restrict request.columns)))

/-- The tables as a source. -/
def toSource (m : MemorySource) : Source where
  columns table := pure (m.columns table)
  fetch request := (m.fetch request).relabel .event

end MemorySource

end FederatedQuery
