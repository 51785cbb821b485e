/-
  Rows.

  * `Row`: a text for each of some columns;
  * `Row.value`: the text for a column, the empty one if the row lacks the column;
  * `Row.restrict`: a row without the columns that nobody asks for.
-/
import FederatedQuery.Dict

namespace FederatedQuery

/-- A text for each of some columns.  The names of columns are case-sensitive. -/
abbrev Row := Dict String

namespace Row

/-- The text for a column; a missing one reads as the empty text. -/
def value (r : Row) (column : String) : String := (r.get? column).getD ""

/-- The row with the given columns, as far as it has them; no columns at all stand for all. -/
def restrict (columns : List String) (r : Row) : Row :=
  if columns.isEmpty then r else r.keep columns.contains

end Row

end FederatedQuery
