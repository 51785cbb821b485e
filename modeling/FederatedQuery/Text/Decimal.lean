/-
  Decimal numbers of limited size.

  * `Decimal.value`: the number that a sequence of decimal digits denotes;
  * `Decimal.read?`: the same, refused above a limit and without ever holding a number much larger
    than the limit (`read?_eq_some_iff`).
-/

namespace FederatedQuery.Decimal

/-- The number denoted by decimal digits, the most significant one first. -/
def value (digits : List Char) : Nat := Nat.ofDigitChars 10 digits 0

/-- Reads on after digits that denote `n`, as long as the number stays within `max`. -/
def extend? (max n : Nat) : List Char → Option Nat
  | [] => some n
  | d :: digits =>
    let next := 10 * n + (d.toNat - '0'.toNat)
    if next ≤ max then extend? max next digits else none

/-- The number denoted by decimal digits, unless it is larger than `max`. -/
def read? (max : Nat) (digits : List Char) : Option Nat := extend? max 0 digits

theorem le_ofDigitChars (n : Nat) (digits : List Char) : n ≤ Nat.ofDigitChars 10 digits n := by
  induction digits generalizing n with
  | nil => simp [Nat.ofDigitChars]
  | cons d digits ih =>
    have := ih (10 * n + (d.toNat - '0'.toNat))
    simp only [Nat.ofDigitChars, List.foldl_cons] at this ⊢
    omega

theorem extend?_eq_some_iff {max n m : Nat} {digits : List Char} (h : n ≤ max) :
    extend? max n digits = some m ↔ Nat.ofDigitChars 10 digits n = m ∧ m ≤ max := by
  induction digits generalizing n with
  | nil => simp [extend?, Nat.ofDigitChars]; omega
  | cons d digits ih =>
    have large := le_ofDigitChars (10 * n + (d.toNat - '0'.toNat)) digits
    simp only [Nat.ofDigitChars, List.foldl_cons] at large ih ⊢
    by_cases fits : 10 * n + (d.toNat - '0'.toNat) ≤ max
    · simp only [extend?, if_pos fits, ih fits]
    · simp only [extend?, if_neg fits, reduceCtorEq, false_iff]
      omega

/-- A number is read exactly when it does not exceed the limit. -/
theorem read?_eq_some_iff {max m : Nat} {digits : List Char} :
    read? max digits = some m ↔ value digits = m ∧ m ≤ max :=
  extend?_eq_some_iff (Nat.zero_le max)

end FederatedQuery.Decimal
