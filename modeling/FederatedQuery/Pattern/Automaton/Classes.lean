/-
  Automata for classes of characters.

  An automaton reads bytes.  For a class it follows the sequences of byte ranges of which the class
  consists, with common ends of sequences shared if it reads forwards, and common beginnings if it
  reads backwards, as far as they are remembered.

  * `CodePoints.sequences`: the sequences of byte ranges of a set of characters;
  * `Room.addClass`: the room with the states for a class, for an automaton that reads forwards or
    backwards.
-/
import FederatedQuery.Pattern.Automaton.Room
import FederatedQuery.Pattern.Automaton.Slots
import FederatedQuery.Text.CodePoints
import FederatedQuery.Text.Utf8

namespace FederatedQuery

/-- The characters of a set as sequences of byte ranges, in ascending order. -/
def CodePoints.sequences (s : CodePoints) : List (List Utf8.ByteRange) :=
  s.ranges.flatMap fun (first, last) => Utf8.sequences first last

/-- In which direction an automaton reads. -/
inductive Direction where
  | forwards
  | backwards
  deriving DecidableEq, Repr

namespace Automaton

open Utf8 (ByteRange)

/-! ## Backwards

A state goes on by one byte range; all sequences part at the first state and meet in the last. -/

/-- A byte range that leads to a state. -/
structure Step where
  range : ByteRange
  next : Nat
  deriving DecidableEq, Repr

/-- The numbers by which a step is remembered in an automaton that reads backwards. -/
def Step.backwardCode (s : Step) : List Nat := [s.next, s.range.first.toNat, s.range.last.toNat]

/-- An automaton under construction, with the states that are remembered for steps, and the state to
    which the next step leads. -/
structure Backward where
  room : Room
  known : Slots Step Nat := {}
  next : Nat

/-- How many steps are remembered. -/
def backwardSlots : Nat := 1000

/-- A step in front of the state to which the last one leads. -/
def Backward.step (b : Backward) (range : ByteRange) : Backward :=
  let step : Step := ⟨range, b.next⟩
  let slot := Slots.slotOf backwardSlots step.backwardCode
  match b.known.find? slot step with
  | some state => { b with next := state }
  | none =>
    let state := b.room.states
    { room := b.room.addStates 1, known := b.known.put slot step state, next := state }

/-- A sequence that ends in the state `last`, and a branch to it. -/
def Backward.sequence (last : Nat) (b : Backward) (ranges : List ByteRange) : Backward :=
  let b := ranges.foldl Backward.step { b with next := last }
  { b with room := b.room.addBranches 1 }

/-- The room with the states for sequences that are read backwards. -/
def addBackward (sequences : List (List ByteRange)) (r : Room) : Room :=
  let last := r.states + 1
  (sequences.foldl (Backward.sequence last) { room := r.addStates 2, next := last }).room

/-! ## Forwards

A state goes on by several byte ranges.  It is finished when the first sequence comes that parts
from the last one before it, and then is one with an earlier state that goes on in the same way. -/

/-- The numbers by which a state is remembered in an automaton that reads forwards. -/
def forwardCode (steps : List Step) : List Nat :=
  steps.flatMap fun s => [s.range.first.toNat, s.range.last.toNat, s.next]

/-- A state under construction: its finished steps (in reverse), and the range of the last one. -/
structure Open where
  steps : List Step := []
  last : Option ByteRange := none

/-- The last step leads to a state. -/
def Open.close (o : Open) (next : Nat) : Open :=
  match o.last with
  | some range => { steps := ⟨range, next⟩ :: o.steps }
  | none => o

/-- An automaton under construction, with the states that are remembered by how they go on. -/
structure Forward where
  room : Room
  known : Slots (List Step) Nat := {}

/-- How many states are remembered. -/
def forwardSlots : Nat := 10000

/-- The state that goes on by the given steps. -/
def Forward.state (f : Forward) (steps : List Step) : Forward × Nat :=
  let slot := Slots.slotOf forwardSlots (forwardCode steps)
  match f.known.find? slot steps with
  | some state => (f, state)
  | none =>
    let state := f.room.states
    ({ room := f.room.addTransitions steps.length, known := f.known.put slot steps state }, state)

/-- Finishes the states along a path, the last one first, and returns the first one.  The path leads
    to the state `last`. -/
def Forward.finish (last : Nat) (f : Forward) : List Open → Forward × Nat
  | [] => (f, last)
  | o :: path =>
    let (f, next) := f.finish last path
    f.state (o.close next).steps.reverse

/-- Follows a sequence along a path of states under construction up to where it parts from the path,
    finishes the states behind, and opens new ones for what remains of the sequence. -/
def Forward.follow (last : Nat) (f : Forward) : List Open → List ByteRange → Forward × List Open
  | o :: path, range :: ranges =>
    if o.last = some range then
      let (f, path) := f.follow last path ranges
      (f, o :: path)
    else
      let (f, next) := f.finish last path
      (f, { o.close next with last := some range } :: ranges.map fun r => { last := some r })
  | path, _ => (f, path)

/-- The room with the states for sequences that are read forwards. -/
def addForward (sequences : List (List ByteRange)) (r : Room) : Room :=
  let last := r.states
  let (f, path) := sequences.foldl (fun (f, path) ranges => f.follow last path ranges)
    (({ room := r.addStates 1 } : Forward), [{}])
  (f.finish last path).1.room

end Automaton

/-- The room with the states for a class.  For a class of ASCII characters two are enough. -/
def Room.addClass (d : Direction) (s : CodePoints) (r : Room) : Room :=
  let ranges := s.ranges
  if ranges.all fun (_, last) => last < 128 then (r.addStates 1).addTransitions ranges.length
  else
    match d with
    | .forwards => Automaton.addForward s.sequences r
    | .backwards => Automaton.addBackward s.sequences r

end FederatedQuery
