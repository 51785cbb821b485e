/-
  Fields pinned to a value.

  * `Predicate.pinned?`: the value that a predicate pins a field to, in every row for which it holds;
  * `requiredEquality`: the value that a list of filters pins a field to.
-/
import FederatedQuery.Query.Predicate

namespace FederatedQuery

mutual

/-- The value of the first equality on the field that has to hold.  Below an OR none has to. -/
def Predicate.pinned? (field : String) : Predicate → Option String
  | .comparison .eq f value => if f = field then some value else none
  | .comparison .. => none
  | .logical .and children => firstPinned? field children
  | .logical .or _ => none

/-- The value to which the first of the predicates that pins the field pins it. -/
def Predicate.firstPinned? (field : String) : List Predicate → Option String
  | [] => none
  | p :: ps => (p.pinned? field).or (firstPinned? field ps)

end

/-- The value to which filters, all of which have to hold, pin a field. -/
def requiredEquality (filters : List Predicate) (field : String) : Option String :=
  Predicate.firstPinned? field filters

end FederatedQuery
