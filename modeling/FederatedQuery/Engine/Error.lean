/-
  What can go wrong with a query.

  * `QueryError`: the ways in which a query fails, `QueryError.message` what the user is told, and
    `QueryError.causes` the messages of the errors behind it;
  * `SourceFault`, `InputFault`: why a source or the check of the input refused a request.
-/
import FederatedQuery.Statement.Error

namespace FederatedQuery

/-- Why a source refused a request. -/
inductive SourceFault where
  /-- The table can only be read with an equality on the field. -/
  | unpinned (table field : String)
  /-- A reason of the source's own. -/
  | reported (message : String)
  deriving DecidableEq, Repr

/-- What the user is told. -/
def SourceFault.message : SourceFault → String
  | unpinned table field =>
    "table '" ++ table ++ "' can only be queried with an equality filter on '" ++ field ++ "'"
  | reported message => message

/-- Why an input was refused. -/
inductive InputFault where
  | blankStatement
  /-- The statement has more bytes than allowed. -/
  | longStatement (length max : Nat)
  /-- A reason of somebody else. -/
  | reported (message : String)
  deriving DecidableEq, Repr

/-- What the user is told. -/
def InputFault.message : InputFault → String
  | blankStatement => "Statement cannot be empty"
  | longStatement length max =>
    "Statement length " ++ length.repr ++ " exceeds maximum " ++ max.repr
  | reported message => message

/-- Why a query fails. -/
inductive QueryError where
  /-- Nobody can use the registry any more. -/
  | lockPoisoned
  | statement (e : StatementError)
  | unknownSource (name : String)
  | duplicateSource (name : String)
  | source (fault : SourceFault)
  | invalidInput (fault : InputFault)
  /-- Input or output failed, with the message of that failure. -/
  | io (message : String)
  deriving DecidableEq, Repr

namespace QueryError

/-- What the user is told. -/
def message : QueryError → String
  | lockPoisoned => "Lock poisoned"
  | statement e => "Parse error: " ++ e.message
  | unknownSource name => "Unknown source: '" ++ name ++ "'"
  | duplicateSource name => "Source '" ++ name ++ "' is already registered"
  | source fault => "Source error: " ++ fault.message
  | invalidInput fault => "Invalid input: " ++ fault.message
  | io message => "I/O error: " ++ message

/-- The messages of the errors behind this one, the nearest first. -/
def causes : QueryError → List String
  | statement e => e.message :: e.causes
  | io message => [message]
  | _ => []

end QueryError

end FederatedQuery
