/-
  Hexadecimal digits.

  * `Hex.value?`: the number that a digit stands for, in small letters or capitals.
-/

namespace FederatedQuery.Hex

/-- The number that a hexadecimal digit stands for. -/
def value? (c : Char) : Option Nat :=
  if c.isDigit then some (c.toNat - '0'.toNat)
  else if 'a' ≤ c ∧ c ≤ 'f' then some (c.toNat - 'a'.toNat + 10)
  else if 'A' ≤ c ∧ c ≤ 'F' then some (c.toNat - 'A'.toNat + 10)
  else none

end FederatedQuery.Hex
