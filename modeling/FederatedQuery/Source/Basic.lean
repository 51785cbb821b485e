/-
  Sources of rows.

  A source holds tables.  It is asked for the rows of a table, with the columns that are needed and
  the filters that it may apply; it may give more rows and more columns than asked for.

  * `SourceRequest`: what a source is asked for;
  * `Activity`: what can be observed of a run: entries of the log, and the requests that a source
    reports;
  * `Source`: a source, as the answers to its requests.
-/
import FederatedQuery.Engine.Error
import FederatedQuery.Event
import FederatedQuery.Logged
import FederatedQuery.Query.Predicate
import FederatedQuery.Row

namespace FederatedQuery

/-- What a source is asked for. -/
structure SourceRequest where
  table : String
  /-- The columns that are needed; none stands for all. -/
  columns : List String
  /-- The filters, all of which a wanted row meets; the source may apply some of them. -/
  filters : List Predicate
  deriving BEq, Repr

/-- What can be observed of a run besides its answer. -/
inductive Activity where
  /-- An entry of the log. -/
  | event (e : Event)
  /-- A source reports that it was asked for rows. -/
  | fetched (request : SourceRequest)
  /-- A source reports that it was asked for the columns of a table. -/
  | askedColumns (table : String)
  deriving BEq, Repr

/-- A source of rows. -/
structure Source where
  /-- The columns of a table in their order; an unknown table has none. -/
  columns : (table : String) → Logged Activity (List String)
  /-- The rows for a request. -/
  fetch : SourceRequest → Logged Activity (Except QueryError (List Row))

end FederatedQuery
