/-
  Patterns as they are written.

  The form of a pattern keeps what is written about it: counted repetitions, groups, and which of
  several ways through the pattern is preferred.

  * `maxNesting`: how deeply they may nest;
  * `Form`: the forms, with `Form.catAll` and `Form.altAll` for sequences and choices;
  * `Repetition`: how often something is repeated;
  * `Form.pattern`: the pattern that a form stands for, with all repetitions worked out.
-/
import FederatedQuery.Pattern.Basic

namespace FederatedQuery

/-- How deeply a pattern may nest. -/
def maxNesting : Nat := 250

/-- A number of repetitions; without a greatest one there is no limit. -/
structure Repetition where
  least : Nat
  most : Option Nat
  /-- Whether fewer repetitions are preferred to more. -/
  shortest : Bool := false
  deriving DecidableEq, Repr

/-- A pattern as it is written. -/
inductive Form where
  | empty
  | boundary (b : Boundary)
  | one (c : CharClass)
  /-- The one form behind the other. -/
  | cat (f g : Form)
  /-- One of two forms. -/
  | alt (f g : Form)
  | repeated (r : Repetition) (f : Form)
  /-- A form in parentheses, and whether these keep what it covers. -/
  | group (keeps : Bool) (f : Form)
  deriving DecidableEq, Repr

/-- Repetition of what covers nothing: more than once is the same as once. -/
def Repetition.atMostOnce (r : Repetition) : Repetition :=
  { r with least := min r.least 1, most := some (r.most.elim 1 (min 1)) }

/-- The pattern for a repetition. -/
def Repetition.unfold (r : Repetition) (p : Pattern) : Pattern :=
  let r := if p.positions = 0 then r.atMostOnce else r
  match r.most with
  | some most => .between r.least most p
  | none => .atLeast r.least p

namespace Form

/-- One form after the other. -/
def catAll (fs : List Form) : Form := Pattern.joinAll cat empty fs

/-- One of several forms. -/
def altAll (fs : List Form) : Form := Pattern.joinAll alt empty fs

/-- The pattern that a form stands for. -/
def pattern : Form → Pattern
  | empty => .empty
  | boundary b => .boundary b
  | one c => .one c
  | cat f g => .cat f.pattern g.pattern
  | alt f g => .alt f.pattern g.pattern
  | repeated r f => r.unfold f.pattern
  | group _ f => f.pattern

end Form

end FederatedQuery
