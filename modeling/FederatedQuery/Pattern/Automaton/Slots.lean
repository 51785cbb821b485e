/-
  A memory with a fixed number of slots.

  Every key has one slot, and an entry takes the place of an earlier one in its slot, so what was
  remembered may be forgotten again.

  * `Slots`: such a memory, `Slots.find?` and `Slots.put`;
  * `Slots.slotOf`: the slot of a sequence of numbers.
-/
import Std.Data.HashMap

namespace FederatedQuery

/-- The entries in use, by their slots. -/
structure Slots (κ ν : Type) where
  entries : Std.HashMap Nat (κ × ν) := ∅

namespace Slots

variable {κ ν : Type}

/-- What is remembered for a key. -/
def find? [DecidableEq κ] (m : Slots κ ν) (slot : Nat) (key : κ) : Option ν :=
  match m.entries[slot]? with
  | some (other, value) => if other = key then some value else none
  | none => none

/-- Remembers a value for a key. -/
def put (m : Slots κ ν) (slot : Nat) (key : κ) (value : ν) : Slots κ ν :=
  ⟨m.entries.insert slot (key, value)⟩

/-- Mixes a number into a code: both are combined bit by bit, and the bits are spread by a product
    with a prime. -/
def mix (code : UInt64) (n : Nat) : UInt64 := (code ^^^ UInt64.ofNat n) * 1099511628211

/-- One of `count` slots for a sequence of numbers. -/
def slotOf (count : Nat) (ns : List Nat) : Nat :=
  (ns.foldl mix 14695981039346656037).toNat % count

end Slots

end FederatedQuery
