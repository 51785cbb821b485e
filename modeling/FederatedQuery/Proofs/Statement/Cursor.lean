/-
  Reading statements with a cursor.

  A cursor moves over an array of tokens that has the end of the text as its last entry.  It looks at
  places by their index and counts open parentheses up and down, so that it can fault: an index can
  be out of range, and a difference below zero.  Nor is it clear that its loops come to an end; they
  get fuel for a number of rounds, and no result when they need more.

  * `Cursor`: the tokens and a place among them, with a record of the places passed and of the rounds
    that loops have made;
  * `Reading`: what is done with a cursor.  It may halt with an error or a fault, or run out of fuel;
  * `Cursor.parse`: reads one statement;
  * `Scan.tokenize`, `Cursor.ofText?`: a cursor in front of a text;
  * `Cursor.after`: the cursor after some readings.
-/
import FederatedQuery.Statement.Reader

namespace FederatedQuery

/-! ## Cursors -/

namespace Cursor

/-- A place among tokens, and the number of parentheses that are open there. -/
structure Place where
  position : Nat := 0
  openParentheses : Nat := 0
  deriving DecidableEq, Repr

/-- The loops of a reading. -/
inductive Loop where
  | columns
  | chain (op : Connective)
  deriving DecidableEq, Repr

/-- A round of a loop that has come to its end. -/
structure Round where
  loop : Loop
  /-- The position at which it began. -/
  start : Nat
  /-- The position at which it ended. -/
  stop : Nat
  deriving DecidableEq, Repr

/-- Why a reading halts. -/
inductive Halt where
  | refused (error : StatementError)
  /-- An index is out of range, or a difference below zero. -/
  | fault
  deriving DecidableEq, Repr

end Cursor

/-- A cursor on tokens. -/
structure Cursor where
  /-- The tokens; `none` is the end of the text. -/
  tokens : List (Option Token)
  place : Cursor.Place := {}
  /-- The places at which it has been, the latest one first. -/
  passed : List Cursor.Place := []
  /-- The rounds that its loops have made, the latest one first. -/
  rounds : List Cursor.Round := []
  deriving DecidableEq, Repr

/-- What is done with a cursor; `none` is a reading that has run out of fuel. -/
abbrev Reading (α : Type) := ExceptT Cursor.Halt (StateT Cursor Option) α

/-- How a reading ends, and where it leaves the cursor. -/
def Reading.runFrom {α : Type} (x : Reading α) (c : Cursor) : Option (Except Cursor.Halt α × Cursor) :=
  (ExceptT.run x).run c

namespace Cursor

/-! ## Steps -/

/-- The difference of two numbers. -/
def minus (a b : Nat) : Reading Nat := if b ≤ a then pure (a - b) else throw .fault

/-- The entry at an index, if it is in range. -/
def entry {α : Type} : Option α → Reading α
  | some a => pure a
  | none => throw .fault

/-- Gives up, out of fuel. -/
def unfinished {α : Type} : Reading α := fun _ => none

/-- Refuses the statement. -/
def refuse {α : Type} (error : StatementError) : Reading α := throw (.refused error)

/-- The token at the cursor. -/
def current : Reading (Option Token) := do
  let c ← get
  entry c.tokens[c.place.position]?

/-- The position of the cursor. -/
def position : Reading Nat := do pure (← get).place.position

/-- The number of open parentheses. -/
def openParentheses : Reading Nat := do pure (← get).place.openParentheses

/-- Goes to another place. -/
def goTo (place : Place) : Reading Unit :=
  modify fun c => { c with place, passed := c.place :: c.passed }

/-- Moves past a token, unless it is the last one. -/
def advance : Reading Unit := do
  let c ← get
  let last ← minus c.tokens.length 1
  if c.place.position < last then goTo { c.place with position := c.place.position + 1 }

/-- One more parenthesis is open. -/
def openParenthesis : Reading Unit := do
  let c ← get
  goTo { c.place with openParentheses := c.place.openParentheses + 1 }

/-- One parenthesis less is open. -/
def closeParenthesis : Reading Unit := do
  let c ← get
  goTo { c.place with openParentheses := ← minus c.place.openParentheses 1 }

/-- Records a round of a loop that ends here. -/
def endRound (loop : Loop) (start : Nat) : Reading Unit :=
  modify fun c => { c with rounds := { loop, start, stop := c.place.position } :: c.rounds }

/-- Refuses the token at the cursor, where `expected` should stand. -/
def missing {α : Type} (expected : Expected) : Reading α := do
  refuse (Stop.missing expected (← current).toList).error

/-- Refuses the token at the cursor if it is not supported. -/
def support : Reading Unit := do
  match ← current with
  | some t => if t.isUnsupported then refuse (.unsupported (.token t))
  | none => pure ()

/-- Moves past the token at the cursor if `f` understands it. -/
def first {α : Type} (expected : Expected) (f : Token → Option α) : Reading α := do
  match (← current).bind f with
  | some a => advance; pure a
  | none => missing expected

/-- Moves past a certain token. -/
def expect (t : Token) : Reading Unit := first (.token t) fun u => if u = t then some () else none

/-- Moves past a token if it is the given one, and tells whether it is. -/
def accept (t : Token) : Reading Bool := do
  if (← current) = some t then
    advance
    pure true
  else pure false

/-- The result of a check. -/
def checked {α : Type} : Except StatementError α → Reading α
  | .ok a => pure a
  | .error error => refuse error

/-! ## Clauses -/

/-- Reads names with commas between them, after those of `done` (in reverse). -/
def columns : (fuel : Nat) → (done : List String) → Reading (List String)
  | 0, _ => unfinished
  | fuel + 1, done => do
    let start ← position
    let name ← first .columnName Clause.name?
    let more ← accept .comma
    endRound .columns start
    if more then columns fuel (name :: done) else pure (name :: done).reverse

/-- Reads the columns that are asked for. -/
def selection (fuel : Nat) : Reading (List String) := do
  expect (.keyword .select)
  if ← accept .star then pure []
  else if (← current) = some (.keyword .from_) then refuse .emptySelection
  else columns fuel []

/-- Reads the table of the statement. -/
def table : Reading (String × String) := do
  expect (.keyword .from_)
  let name ← first .qualifiedTable Clause.name?
  match Clause.splitQualified? name with
  | none => refuse (.unqualifiedTable name)
  | some qualified =>
    if (← current) = some .comma then refuse (.unsupported .severalTables) else pure qualified

/-- Reads a comparison. -/
def comparison : Reading Measured := do
  support
  let left ← first .operand Condition.Operand.ofToken?
  let op ← first .comparisonOperator Condition.Operator.ofToken?
  let right ← first .operand Condition.Operand.ofToken?
  checked (op.apply left right)

/-- Reads on after `left`, as long as the connective is followed by another operand. -/
def chain (op : Connective) (operand : Reading Measured) :
    (fuel : Nat) → (left : Measured) → Reading Measured
  | 0, _ => unfinished
  | fuel + 1, left => do
    let start ← position
    if ← accept (.keyword (Condition.keyword op)) then
      let right ← operand
      let joined ← checked (left.join op right)
      endRound (.chain op) start
      chain op operand fuel joined
    else pure left

/-- Reads operands with the connective between them. -/
def chained (fuel : Nat) (op : Connective) (operand : Reading Measured) : Reading Measured := do
  let left ← operand
  chain op operand fuel left

/-- Reads a comparison or a condition in parentheses; the fuel is for those inside of it, too. -/
def primary : (fuel : Nat) → Reading Measured
  | 0 => unfinished
  | fuel + 1 => do
    if (← current) = some .openParen then
      if (← openParentheses) = maxParentheses then refuse (.tooDeep maxParentheses)
      else
        advance
        openParenthesis
        let inner ← chained fuel .or (chained fuel .and (primary fuel))
        closeParenthesis
        expect .closeParen
        pure inner
    else comparison

/-- Reads the condition, if there is one. -/
def filters (fuel : Nat) : Reading (List Predicate) := do
  if ← accept (.keyword .where_) then
    let condition ← chained fuel .or (chained fuel .and (primary fuel))
    pure [condition.predicate]
  else pure []

/-- Reads the greatest number of rows. -/
def limit : Reading Nat := do
  if ← accept (.keyword .limit) then
    match ← current with
    | some (.number n) =>
      if n < 0 then refuse (.negativeLimit n)
      else
        advance
        if (← current) = some (.keyword .offset) then
          refuse (.unsupported (.token (.keyword .offset)))
        else pure n.toNat
    | _ => missing .integer
  else pure 0

/-- The number of tokens behind the end of the statement, the end of the text not among them. -/
def finish : Reading Nat := do
  match ← current with
  | none => pure 0
  | some .semicolon =>
    let c ← get
    minus (← minus c.tokens.length c.place.position) 2
  | _ => missing .endOfStatement

/-- Reads a statement, with the number of tokens behind it. -/
def parse (fuel : Nat) : Reading (Query × Nat) := do
  let columns ← selection fuel
  let (source, table) ← table
  let filters ← filters fuel
  let limit ← limit
  let ignored ← finish
  pure ({ source, table, columns, limit, filters }, ignored)

end Cursor

/-! ## Texts -/

/-- The tokens of a text with its end, after those of `done` (in reverse), or the first error. -/
def Scan.tokenize (done : List (Option Token)) (input : List Char) :
    Except ScanError (List (Option Token)) :=
  match _h : next input with
  | none => .ok (none :: done).reverse
  | some (.error e, _) => .error e
  | some (.ok t, rest) => tokenize (some t :: done) rest
termination_by input.length
decreasing_by exact length_of_next _h

namespace Cursor

/-- A cursor in front of a text, unless this holds something that is no token. -/
def ofText? (text : String) : Except StatementError Cursor :=
  match Scan.tokenize [] text.toList with
  | .ok tokens => .ok { tokens }
  | .error e => .error (.scan e)

/-- The cursor after some readings, whatever came of them; `none` if one ran out of fuel. -/
def after (fuel : Nat) (c : Cursor) : Nat → Option Cursor
  | 0 => some c
  | k + 1 => (c.after fuel k).bind fun c => ((parse fuel).runFrom c).map Prod.snd

end Cursor

end FederatedQuery
