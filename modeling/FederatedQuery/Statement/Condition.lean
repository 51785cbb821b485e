/-
  Reading the condition of a statement.

  A condition is a chain of alternatives joined by OR; an alternative is a chain of primaries joined
  by AND; a primary is a condition in parentheses, a comparison of a column with a literal, or a
  column with a wildcard pattern.  Chains grow to the left, one logical predicate per connective.

  * `Measured`: a predicate with its height;
  * `TokenReader`: a function that reads a phrase off the front of a list of tokens, which makes the
    list shorter;
  * `Condition.comparison`, `Condition.chained`, `Condition.primary`, `Condition.read`: the phrases;
  * `maxHeight`, `maxParentheses`: the bounds on a predicate and on the parentheses around one.
-/
import FederatedQuery.Query.Predicate
import FederatedQuery.Statement.Error
import FederatedQuery.Text.LowerCase

namespace FederatedQuery

/-- The greatest height of a condition's predicate. -/
def maxHeight : Nat := 1024

/-- The greatest number of parentheses around one place of a condition. -/
def maxParentheses : Nat := 128

/-! ## Predicates with their height -/

/-- A predicate with its height. -/
structure Measured where
  predicate : Predicate
  height : Nat
  height_eq : predicate.height = height := by rfl

namespace Measured

/-- A comparison has height 1. -/
def comparison (op : Comparator) (field value : String) : Measured where
  predicate := .comparison op field value
  height := 1

/-- Two predicates joined, unless the result were too high. -/
def join (op : Connective) (left right : Measured) : Except StatementError Measured :=
  if max left.height right.height + 1 ≤ maxHeight then
    .ok {
      predicate := .logical op [left.predicate, right.predicate]
      height := max left.height right.height + 1
      height_eq := by
        simp [Predicate.height, Predicate.heightOf, left.height_eq, right.height_eq] }
  else .error (.tooDeep maxHeight)

end Measured

/-! ## Reading phrases -/

/-- What is left of a list of tokens after a phrase of at least one token. -/
abbrev Remaining (ts : List Token) := { rest : List Token // rest.length < ts.length }

/-- Reads a phrase off the front of a list of tokens. -/
abbrev TokenReader (α : Type) := (ts : List Token) → Except Stop (α × Remaining ts)

/-- Reads the first token as `f` understands it; `expected` is missing if it does not. -/
def TokenReader.first {α : Type} (expected : Expected) (f : Token → Option α) : TokenReader α
  | [] => .error (.missing expected [])
  | t :: rest =>
    match f t with
    | some a => .ok (a, ⟨rest, Nat.lt_succ_self _⟩)
    | none => .error (.missing expected (t :: rest))

/-- Reads one certain token. -/
def TokenReader.token (t : Token) : TokenReader Unit :=
  .first (.token t) fun u => if u = t then some () else none

namespace Condition

/-! ## Comparisons -/

/-- One side of a comparison. -/
inductive Operand where
  | column (name : String)
  | literal (value : String)
  deriving DecidableEq, Repr

/-- Words are columns, in lower case; texts are literals, and so are numbers in decimal digits. -/
def Operand.ofToken? : Token → Option Operand
  | .ident name => some (.column (Text.lowerCase name))
  | .literal value => some (.literal value)
  | .number n => some (.literal n.repr)
  | _ => none

/-- The operators of a comparison. -/
inductive Operator where
  | eq
  | ne
  | like
  deriving DecidableEq, Repr

/-- The operator for which a token stands. -/
def Operator.ofToken? : Token → Option Operator
  | .equals => some .eq
  | .notEquals => some .ne
  | .keyword .like => some .like
  | _ => none

/-- The comparison of a column with a literal that is not empty, in either order. -/
def compare (op : Comparator) : Operand → Operand → Except StatementError Measured
  | .column left, .column right => .error (.comparison (.twoColumns left right))
  | .literal left, .literal right => .error (.comparison (.twoLiterals left right))
  | .column field, .literal value | .literal value, .column field =>
    if value.isEmpty then .error (.comparison (.emptyLiteral field))
    else .ok (.comparison op field value)

/-- The predicate for two operands and the operator between them. -/
def Operator.apply (left right : Operand) : Operator → Except StatementError Measured
  | .eq => compare .eq left right
  | .ne => compare .ne left right
  | .like =>
    match left, right with
    | .column field, .literal pattern => .ok (.comparison .found field (Like.toPattern pattern))
    | _, _ => .error (.comparison .patternOperands)

/-- Reads an operand, an operator and an operand. -/
def comparison : TokenReader Measured := fun ts => do
  let (left, rest₁) ← TokenReader.first .operand Operand.ofToken? ts
  let (op, rest₂) ← TokenReader.first .comparisonOperator Operator.ofToken? rest₁.1
  let (right, rest₃) ← TokenReader.first .operand Operand.ofToken? rest₂.1
  match op.apply left right with
  | .ok m => .ok (m, ⟨rest₃.1, by have := rest₁.2; have := rest₂.2; have := rest₃.2; omega⟩)
  | .error error => .error { error, rest := rest₃.1 }

/-! ## Chains -/

/-- The keyword of a connective. -/
def keyword : Connective → Keyword
  | .and => .and
  | .or => .or

/-- Reads on after `left`, as long as the connective is followed by another operand. -/
def chain (op : Connective) (operand : TokenReader Measured) (left : Measured) (ts : List Token) :
    Except Stop (Measured × { rest : List Token // rest.length ≤ ts.length }) :=
  match ts with
  | .keyword k :: after =>
    if k = keyword op then
      match operand after with
      | .error s => .error s
      | .ok (right, ⟨rest, shorter⟩) =>
        match left.join op right with
        | .error error => .error { error, rest }
        | .ok joined =>
          match chain op operand joined rest with
          | .error s => .error s
          | .ok (m, ⟨last, le⟩) => .ok (m, ⟨last, by simp; omega⟩)
    else .ok (left, ⟨.keyword k :: after, Nat.le_refl _⟩)
  | ts => .ok (left, ⟨ts, Nat.le_refl _⟩)
termination_by ts.length
decreasing_by simp; omega

/-- Reads operands with the connective between them. -/
def chained (op : Connective) (operand : TokenReader Measured) : TokenReader Measured := fun ts =>
  match operand ts with
  | .error s => .error s
  | .ok (left, ⟨rest, shorter⟩) =>
    match chain op operand left rest with
    | .error s => .error s
    | .ok (m, ⟨last, le⟩) => .ok (m, ⟨last, by omega⟩)

/-! ## Conditions -/

/-- Reads a comparison or a condition in parentheses, inside of which at most `levels` - 1 more may
    be opened. -/
def primary (levels : Nat) : TokenReader Measured
  | .openParen :: inner =>
    match levels with
    | 0 => .error { error := .tooDeep maxParentheses, rest := .openParen :: inner }
    | levels + 1 =>
      match chained .or (chained .and (primary levels)) inner with
      | .error s => .error { s with unclosed := s.unclosed + 1 }
      | .ok (m, ⟨rest, shorter⟩) =>
        match TokenReader.token .closeParen rest with
        | .error s => .error s
        | .ok ((), ⟨last, shorter'⟩) => .ok (m, ⟨last, by simp; omega⟩)
  | ts => comparison ts

/-- Reads a condition in which at most `levels` parentheses may be open at a time. -/
def read (levels : Nat) : TokenReader Measured :=
  chained .or (chained .and (primary levels))

end Condition

end FederatedQuery
