/-
  Lists of column names without needless repeats.

  * `Columns.add`: a list of columns with one more, unless it is there already;
  * `Columns.addAll`: the same for several columns, in order.
-/

namespace FederatedQuery.Columns

/-- The columns with `column` behind them, unless it is one of them. -/
def add (columns : List String) (column : String) : List String :=
  if column ∈ columns then columns else columns ++ [column]

/-- The columns with those of `more` that are new, in the order in which they first appear. -/
def addAll (columns more : List String) : List String := more.foldl add columns

end FederatedQuery.Columns
