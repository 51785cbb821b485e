/-
  Conditions on a row.

  * `Predicate`: a comparison of a field with a text, or predicates joined by AND or OR;
  * `Predicate.eq`, `.ne`, `.found`, `.like`, `.and`, `.or`: the ways to build one;
  * `Predicate.fields`: the fields it reads, each one once;
  * `Predicate.height`: the number of predicates on its longest branch;
  * `Predicate.text`: the predicate as a condition.
-/
import FederatedQuery.Query.Columns
import FederatedQuery.Query.Like
import FederatedQuery.Text.Quoted

namespace FederatedQuery

/-- How a field is compared with a text. -/
inductive Comparator where
  /-- The field is the text, letter case aside. -/
  | eq
  /-- The field is another text. -/
  | ne
  /-- The text is a regular expression that is found in the field, letter case aside. -/
  | found
  deriving DecidableEq, Repr

/-- How the children of a logical predicate are joined. -/
inductive Connective where
  | and
  | or
  deriving DecidableEq, Repr

/-- A condition on a row. -/
inductive Predicate where
  | comparison (op : Comparator) (field value : String)
  | logical (op : Connective) (children : List Predicate)
  deriving BEq, Repr

/-- The operator as conditions spell it. -/
def Comparator.text : Comparator → String
  | eq => "="
  | ne => "!="
  | found => "MATCHES"

/-- The connective as conditions spell it. -/
def Connective.text : Connective → String
  | and => "AND"
  | or => "OR"

namespace Predicate

/-! ## Building predicates -/

/-- The field is the value, letter case aside. -/
def eq (field value : String) : Predicate := .comparison .eq field value

/-- The field is not the value, letter case aside. -/
def ne (field value : String) : Predicate := .comparison .ne field value

/-- The regular expression is found in the field. -/
def found (field pattern : String) : Predicate := .comparison .found field pattern

/-- The wildcard pattern covers the field. -/
def like (field pattern : String) : Predicate := .found field (Like.toPattern pattern)

/-- All of the children hold. -/
def and (children : List Predicate) : Predicate := .logical .and children

/-- One of the children holds. -/
def or (children : List Predicate) : Predicate := .logical .or children

/-! ## Fields and height -/

mutual

/-- The field of every comparison, from left to right. -/
def comparedFields : Predicate → List String
  | .comparison _ field _ => [field]
  | .logical _ children => comparedFieldsOf children

/-- The fields compared by a list of predicates, from left to right. -/
def comparedFieldsOf : List Predicate → List String
  | [] => []
  | p :: ps => p.comparedFields ++ comparedFieldsOf ps

end

/-- The fields that the predicate reads, each where it appears first. -/
def fields (p : Predicate) : List String := Columns.addAll [] p.comparedFields

mutual

/-- The number of predicates on the longest branch. -/
def height : Predicate → Nat
  | .comparison .. => 1
  | .logical _ children => heightOf children + 1

/-- The height of the highest of a list of predicates, 0 if there is none. -/
def heightOf : List Predicate → Nat
  | [] => 0
  | p :: ps => max p.height (heightOf ps)

end

/-! ## Text -/

mutual

/-- The predicate as a condition; one with children stands in parentheses. -/
def text : Predicate → String
  | .comparison op field value => field ++ " " ++ op.text ++ " " ++ Text.quoted value
  | .logical op children => "(" ++ joined op children ++ ")"

/-- The conditions with the connective between them. -/
def joined (op : Connective) : List Predicate → String
  | [] => ""
  | [p] => p.text
  | p :: ps => p.text ++ " " ++ op.text ++ " " ++ joined op ps

end

end Predicate

end FederatedQuery
