/-
  The room that an automaton takes.

  * `Room`: the states of an automaton and what they refer to, `Room.bytes` in bytes;
  * `Room.isFull`: whether it is more than a pattern may take;
  * `Room.repeated`: building a part several times.
-/

namespace FederatedQuery

/-- What an automaton consists of. -/
structure Room where
  /-- The number of its states. -/
  states : Nat := 0
  /-- The bytes for transitions and branches of states that have several. -/
  lists : Nat := 0
  deriving DecidableEq, Repr

namespace Room

/-- The bytes for a state, whatever its kind. -/
def stateBytes : Nat := 32

/-- The bytes for one of several transitions of a state: two bytes to compare with and a target. -/
def transitionBytes : Nat := 8

/-- The bytes for one of several branches of a state, which is a target alone. -/
def branchBytes : Nat := 4

/-- The room in bytes. -/
def bytes (r : Room) : Nat := stateBytes * r.states + r.lists

/-- The bytes that the automaton of a pattern may take. -/
def limit : Nat := 10 * Nat.pow 2 20

/-- Whether the automaton is larger than it may be. -/
def isFull (r : Room) : Bool := limit < r.bytes

/-- More states with one way on, or none. -/
def addStates (n : Nat) (r : Room) : Room := { r with states := r.states + n }

/-- More branches of states that are there already. -/
def addBranches (n : Nat) (r : Room) : Room := { r with lists := r.lists + branchBytes * n }

/-- A state that goes on by one of `n` transitions. -/
def addTransitions (n : Nat) (r : Room) : Room :=
  { states := r.states + 1, lists := r.lists + transitionBytes * n }

/-- Builds a part several times; there is no need to go on when the room is full. -/
def repeated (build : Room → Room) : Nat → Room → Room
  | 0, r => r
  | n + 1, r => if r.isFull then r else repeated build n (build r)

end Room

end FederatedQuery
