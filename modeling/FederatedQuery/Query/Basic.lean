/-
  Queries.

  * `Query`: what a statement asks for, or what a program asks for without a statement;
  * `Query.all`, `Query.withColumns`, `Query.withLimit`, `Query.withFilter`: building one;
  * `Query.text`: the query as a statement.
-/
import FederatedQuery.Query.Predicate

namespace FederatedQuery

/-- A request for the rows of one table of one source. -/
structure Query where
  /-- The name under which the source is registered. -/
  source : String
  table : String
  /-- The wanted columns in order; none means all. -/
  columns : List String := []
  /-- The greatest number of rows; 0 means any number. -/
  limit : Nat := 0
  /-- The conditions, all of which a row has to meet. -/
  filters : List Predicate := []
  deriving BEq, Repr

namespace Query

/-- The query for everything in a table. -/
def all (source table : String) : Query := { source, table }

/-- The query for other columns. -/
def withColumns (q : Query) (columns : List String) : Query := { q with columns }

/-- The query with another limit. -/
def withLimit (q : Query) (limit : Nat) : Query := { q with limit }

/-- The query with one more condition. -/
def withFilter (q : Query) (filter : Predicate) : Query :=
  { q with filters := q.filters ++ [filter] }

/-- The selected columns, as a statement lists them. -/
def selection (q : Query) : String :=
  if q.columns.isEmpty then "*" else ", ".intercalate q.columns

/-- The conditions of a statement: each filter as it is, with AND between them. -/
def conditions (q : Query) : String :=
  if q.filters.isEmpty then "" else " WHERE " ++ " AND ".intercalate (q.filters.map Predicate.text)

/-- The query as a statement. -/
def text (q : Query) : String :=
  "SELECT " ++ q.selection ++ " FROM " ++ q.source ++ "." ++ q.table ++ q.conditions ++
    if q.limit = 0 then "" else " LIMIT " ++ q.limit.repr

end Query

end FederatedQuery
