/-
  Reading statements.

  A statement is `SELECT` with a list of columns or `*`, `FROM` with a source and a table, and then
  perhaps `WHERE` with a condition and `LIMIT` with a number of rows; it ends at a semicolon or with
  the last token.

  * `Clause.selection`, `Clause.table`, `Clause.filters`, `Clause.limit`, `Clause.end_`: the parts;
  * `StatementReader`: the tokens still to be read, with the parentheses left open so far;
  * `StatementReader.read`: the next statement.  Reading stops in front of the semicolon, or where
    an error is found, and may be tried again from there;
  * `Statement.parse`: the first statement of a text.
-/
import FederatedQuery.Event
import FederatedQuery.Logged
import FederatedQuery.Query.Basic
import FederatedQuery.Statement.Condition

namespace FederatedQuery

namespace Clause

/-! ## The clauses -/

/-- Reads names with commas between them, after those of `done` (in reverse). -/
def columns (done : List String) : List Token → Except Stop (List String × List Token)
  | .ident name :: .comma :: rest => columns (Text.lowerCase name :: done) rest
  | .ident name :: rest => .ok ((Text.lowerCase name :: done).reverse, rest)
  | ts => .error (.missing .columnName ts)

/-- Reads the columns that are asked for; none stands for all. -/
def selection (ts : List Token) : Except Stop (List String × List Token) := do
  let (_, rest) ← TokenReader.token (.keyword .select) ts
  match rest.1 with
  | .star :: rest => .ok ([], rest)
  | .keyword .from_ :: _ => .error { error := .emptySelection, rest := rest.1 }
  | _ => columns [] rest.1

/-- The two parts of a qualified name, neither of them empty. -/
def splitQualified? (name : String) : Option (String × String) :=
  match name.toList.splitOn '.' with
  | [source, table] =>
    if source.isEmpty || table.isEmpty then none
    else some (String.ofList source, String.ofList table)
  | _ => none

/-- A name, for the table of a statement. -/
def name? : Token → Option String
  | .ident name => some (Text.lowerCase name)
  | _ => none

/-- Reads the one table of the statement, with the source that holds it. -/
def table (ts : List Token) : Except Stop ((String × String) × List Token) := do
  let (_, rest) ← TokenReader.token (.keyword .from_) ts
  let (name, rest) ← TokenReader.first .qualifiedTable name? rest.1
  match splitQualified? name with
  | none => .error { error := .unqualifiedTable name, rest := rest.1 }
  | some qualified =>
    if rest.1.head? = some .comma then
      .error { error := .unsupported .severalTables, rest := rest.1 }
    else .ok (qualified, rest.1)

/-- Reads the condition, if there is one; at most `levels` parentheses may be open at a time. -/
def filters (levels : Nat) : List Token → Except Stop (List Predicate × List Token)
  | .keyword .where_ :: rest => do
    let (m, rest) ← Condition.read levels rest
    .ok ([m.predicate], rest.1)
  | ts => .ok ([], ts)

/-- Reads the greatest number of rows; without the clause it is 0, which stands for any number. -/
def limit : List Token → Except Stop (Nat × List Token)
  | .keyword .limit :: .number n :: rest =>
    if n < 0 then .error { error := .negativeLimit n, rest := .number n :: rest }
    else if rest.head? = some (.keyword .offset) then
      .error { error := .unsupported (.token (.keyword .offset)), rest }
    else .ok (n.toNat, rest)
  | .keyword .limit :: rest => .error (.missing .integer rest)
  | ts => .ok (0, ts)

/-- The number of tokens behind the end of the statement, which is not read. -/
def end_ : List Token → Except Stop Nat
  | [] => .ok 0
  | .semicolon :: rest => .ok rest.length
  | ts => .error (.missing .endOfStatement ts)

end Clause

/-! ## Statements -/

/-- Where reading stands. -/
structure StatementReader where
  /-- The tokens still to be read. -/
  rest : List Token
  /-- The parentheses that were open where earlier readings stopped. -/
  openParentheses : Nat := 0
  deriving DecidableEq, Repr

namespace StatementReader

/-- The statement at the front of `ts`, the number of tokens behind its end, and where it ends. -/
def statement (levels : Nat) (ts : List Token) : Except Stop (Query × Nat × List Token) := do
  let (columns, ts) ← Clause.selection ts
  let ((source, table), ts) ← Clause.table ts
  let (filters, ts) ← Clause.filters levels ts
  let (limit, ts) ← Clause.limit ts
  let ignored ← Clause.end_ ts
  .ok ({ source, table, columns, limit, filters }, ignored, ts)

/-- Reads the next statement.  Parentheses left open by earlier errors count towards the bound. -/
def read (r : StatementReader) : Logged Event (Except StatementError Query) × StatementReader :=
  match statement (maxParentheses - r.openParentheses) r.rest with
  | .ok (query, ignored, rest) =>
    (⟨.ok query, if ignored = 0 then [] else [.ignoredTokens ignored]⟩, { r with rest })
  | .error stop =>
    (⟨.error stop.error, []⟩,
      { rest := stop.rest, openParentheses := r.openParentheses + stop.unclosed })

/-- A reader for a text, unless it holds something that is no token. -/
def ofText? (text : String) : Except StatementError StatementReader :=
  match Scan.tokens? text with
  | .ok tokens => .ok { rest := tokens }
  | .error e => .error (.scan e)

/-- Reads `times` statements, one after the other. -/
def readTimes (r : StatementReader) : Nat → Logged Event (List (Except StatementError Query))
  | 0 => pure []
  | times + 1 => do
    let (result, r) := r.read
    let first ← result
    let others ← r.readTimes times
    pure (first :: others)

end StatementReader

namespace Statement

/-- Reads the first statement of a text. -/
def parse (text : String) : Logged Event (Except StatementError Query) :=
  match StatementReader.ofText? text with
  | .ok r => r.read.1
  | .error e => pure (.error e)

end Statement

end FederatedQuery
