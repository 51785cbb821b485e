/-
  What can be wrong with a statement.

  * `StatementError`: the ways in which a statement is refused, `StatementError.message` what the
    user is told, and `StatementError.causes` the messages of the errors behind it;
  * `Expected`: what may be missing at a place of a statement, and
    `Expected.refusesByName`: whether a token outside the language part is refused by name there;
  * `Stop`: an error with the place at which reading stopped.
-/
import FederatedQuery.Statement.Scan

namespace FederatedQuery

/-- What should have stood at some place. -/
inductive Expected where
  | token (t : Token)
  | columnName
  | qualifiedTable
  | comparisonOperator
  | operand
  | integer
  | endOfStatement
  deriving DecidableEq, Repr

namespace Expected

/-- How messages name what is missing. -/
def text : Expected → String
  | token t => t.text
  | columnName => "column name"
  | qualifiedTable => "source.table"
  | comparisonOperator => "comparison operator"
  | operand => "column or literal"
  | integer => "integer"
  | endOfStatement => "end of statement"

/-- A column name, a table and a row limit are asked for whatever stands in their place; elsewhere a
    token that is not supported is refused by name. -/
def refusesByName : Expected → Bool
  | columnName | qualifiedTable | integer => false
  | _ => true

end Expected

/-- Parts of the language that are not understood. -/
inductive Unsupported where
  | token (t : Token)
  /-- A list of tables. -/
  | severalTables
  deriving DecidableEq, Repr

/-- How messages name the part. -/
def Unsupported.text : Unsupported → String
  | token t => t.text
  | severalTables => "multiple tables in FROM"

/-- Why two operands cannot be compared. -/
inductive ComparisonFault where
  /-- A pattern match needs a column and a pattern. -/
  | patternOperands
  | twoColumns (left right : String)
  | twoLiterals (left right : String)
  | emptyLiteral (field : String)
  deriving DecidableEq, Repr

/-- What the user is told. -/
def ComparisonFault.message : ComparisonFault → String
  | patternOperands => "LIKE needs a column on the left and a pattern on the right"
  | twoColumns left right =>
    "cannot compare column '" ++ left ++ "' with column '" ++ right ++ "'"
  | twoLiterals left right =>
    "cannot compare literal '" ++ left ++ "' with literal '" ++ right ++ "'"
  | emptyLiteral field => "empty literal compared with '" ++ field ++ "'"

/-- Why a statement is refused. -/
inductive StatementError where
  | scan (e : ScanError)
  /-- Something else stands where `expected` should; `none` is the end of the statement. -/
  | unexpected (expected : Expected) (found : Option Token)
  | emptySelection
  | unqualifiedTable (name : String)
  | unsupported (what : Unsupported)
  | comparison (fault : ComparisonFault)
  | negativeLimit (limit : Int)
  /-- The condition nests deeper than `limit` allows. -/
  | tooDeep (limit : Nat)
  deriving DecidableEq, Repr

namespace StatementError

/-- What the user is told. -/
def message : StatementError → String
  | scan e => "Lexer error: " ++ e.message
  | unexpected expected found =>
    "Expected " ++ expected.text ++ ", found " ++ Token.describe found
  | emptySelection => "SELECT list cannot be empty"
  | unqualifiedTable name => "Table '" ++ name ++ "' must be written as source.table"
  | unsupported what => "Unsupported operator: " ++ what.text
  | comparison fault => "Invalid comparison: " ++ fault.message
  | negativeLimit limit => "Invalid LIMIT value: " ++ limit.repr ++ " (must be non-negative)"
  | tooDeep limit => "WHERE clause nests deeper than " ++ limit.repr ++ " levels"

/-- The messages of the errors behind this one, the nearest first. -/
def causes : StatementError → List String
  | scan e => [e.message]
  | _ => []

end StatementError

/-- An error in a statement and where reading stopped. -/
structure Stop where
  error : StatementError
  /-- The tokens that were not read. -/
  rest : List Token
  /-- The parentheses that were opened before that place and not closed, but for one whose closing
      parenthesis is missing there. -/
  unclosed : Nat := 0
  deriving DecidableEq, Repr

/-- The error for a place where `expected` is missing. -/
def Stop.missing (expected : Expected) (rest : List Token) : Stop :=
  match rest with
  | t :: _ =>
    if expected.refusesByName && t.isUnsupported then
      { error := .unsupported (.token t), rest }
    else { error := .unexpected expected (some t), rest }
  | [] => { error := .unexpected expected none, rest }

end FederatedQuery
