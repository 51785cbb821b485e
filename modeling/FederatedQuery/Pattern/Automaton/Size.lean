/-
  The size of a pattern.

  A pattern is looked for with two automata, one of which reads forwards and one backwards.  Both are
  built part by part, and the pattern is refused if either takes more room than it may.  Most patterns
  are far from that, which their form shows without building anything.

  * `Outline.addTo`: the room with the states for an outline;
  * `Outline.room`: the room of the automaton for an outline;
  * `Form.roughBytes`, `Form.leastStates`: more bytes than an automaton takes, and as many states as it
    has at least;
  * `Form.fits`: whether the automata are small enough.
-/
import FederatedQuery.Pattern.Automaton.Classes
import FederatedQuery.Pattern.Automaton.Texts
import FederatedQuery.Pattern.Outline

namespace FederatedQuery

namespace Outline

/-! ## Parts -/

/-- Whether the last state of an outline is one with branches, so that going on from it takes one
    more of them. -/
def endsInBranch (d : Direction) : Outline → Bool
  | sequence os => (os.map (endsInBranch d)).getLastD false
  | repeated r o =>
    match r.most with
    | none => 0 < r.least || o.coversSome && o.isPossible
    | some most => r.least = most && o.endsInBranch d
  | group o => d = .backwards && o.endsInBranch d
  | _ => false

/-- The branches that it takes to go on from an outline. -/
def onward (d : Direction) (o : Outline) : Nat := if o.endsInBranch d then 1 else 0

/-- The characters of an outline that is a text. -/
def text? : Outline → Option (List Char)
  | text cs => some cs
  | _ => none

/-- The bytes of a text in the order in which they are read. -/
def bytesOf (d : Direction) (cs : List Char) : List UInt8 :=
  let bytes := cs.flatMap String.utf8EncodeChar
  if d = .forwards then bytes else bytes.reverse

/-- The room with a part `count` times, given how the part is built and the branches that it takes to
    go on from it.  Not even once takes a state. -/
def addTimes (build : Room → Room) (onward count : Nat) (r : Room) : Room :=
  if count = 0 then r.addStates 1
  else Room.repeated (fun r => build (r.addBranches onward)) (count - 1) (build r)

/-- The room with a repeated part, given how the part is built, the branches that it takes to go on
    from it, and whether it surely covers something. -/
def addRepeated (build : Room → Room) (onward : Nat) (covers : Bool) (reps : Repetition) (r : Room) :
    Room :=
  match reps.least, reps.most with
  | 0, some 1 => ((build (r.addStates 1)).addStates 1).addBranches (onward + 2)
  | 0, none =>
    if covers then (build (r.addStates 1)).addBranches (onward + 1)
    else ((build r).addStates 3).addBranches (onward + 4)
  | 1, none => ((build r).addStates 1).addBranches (onward + 1)
  | least, none => ((addTimes build onward least r).addStates 1).addBranches (onward + 1)
  | least, some most =>
    if least = most then addTimes build onward least r
    else
      let front := if least = 0 then 0 else onward
      (Room.repeated (fun r => (build (r.addStates 1)).addBranches (onward + 2)) (most - least)
        ((addTimes build onward least r).addStates 1)).addBranches front

/-- The room with the states for an outline. -/
def addTo (d : Direction) : Outline → Room → Room
  | empty, r | boundary _, r => r.addStates 1
  | text cs, r => r.addStates (bytesOf d cs).length
  | set s, r => r.addClass d s
  | sequence os, r =>
    (os.foldl (fun (r, between) o => (o.addTo d (r.addBranches between), o.onward d)) (r, 0)).1
  | choice os, r =>
    match os.mapM text? with
    | some texts => r.addTexts (texts.map (bytesOf d))
    | none =>
      (os.foldl (fun (r, n) o =>
        let r := (o.addTo d r).addBranches (o.onward d + 1)
        (if n = 1 then r.addStates 2 else r, n + 1)) (r, 0)).1
  | repeated reps o, r =>
    addRepeated (o.addTo d) (o.onward d) (o.coversSome && o.isPossible) reps r
  | group o, r =>
    match d with
    | .forwards => ((o.addTo d (r.addStates 1)).addStates 1).addBranches (o.onward d)
    | .backwards => o.addTo d r
termination_by o => o

/-! ## Automata -/

/-- The room in which an automaton begins: an outline that is not tied to the place where reading
    begins may be preceded by anything. -/
def startRoom (tied : Bool) : Room :=
  if tied then Room.addStates 1 {} else ((Room.addStates 2 {}).addTransitions 1).addBranches 2

/-- The room of the automaton for an outline. -/
def room (d : Direction) (o : Outline) : Room :=
  match d with
  | .forwards => (o.group.addTo .forwards (startRoom o.startsText)).addStates 1
  | .backwards =>
    let back := o.reversed
    ((back.addTo .backwards (startRoom o.endsText)).addStates 1).addBranches (back.onward .backwards)

/-- How many texts are looked for without automata. -/
def wordListLength : Nat := 3000

/-- Whether the outline is a choice between so many texts that they are looked for without automata. -/
def isWordList : Outline → Bool
  | choice os => wordListLength ≤ os.length && (os.map fun o => o.text?.isSome).all id
  | _ => false

/-- Whether the automata for an outline are small enough. -/
def fits (o : Outline) : Bool :=
  o.isWordList || !(o.room .forwards).isFull && !(o.room .backwards).isFull

end Outline

/-! ## Forms -/

namespace Form

/-- More bytes than an automaton takes for a run of characters: it is cut into at most 21 sequences of
    at most four byte ranges, each with a state and a transition. -/
def rangeBytes : Nat := 21 * 4 * (Room.stateBytes + Room.transitionBytes)

/-- More bytes than an automaton takes for a form. -/
def roughBytes : Form → Nat
  | empty | boundary _ => Room.stateBytes
  | one c => c.maxRanges * rangeBytes + 128
  | cat f g | alt f g => f.roughBytes + g.roughBytes + 128
  | repeated r f => (max r.least (r.most.getD 0) + 1) * (f.roughBytes + 64) + 128
  | group _ f => f.roughBytes + 128

/-- As many states as an automaton has for a form at least. -/
def leastStates : Form → Nat
  | empty | boundary _ => 0
  | one _ => 1
  | cat f g => f.leastStates + g.leastStates
  | alt f g => max f.leastStates g.leastStates
  | repeated r f => max r.least (r.most.getD 1) * f.leastStates
  | group _ f => f.leastStates

/-- In how many places the form is a choice. -/
def choices : Form → Nat
  | empty | boundary _ | one _ => 0
  | cat f g => f.choices + g.choices
  | alt f g => f.choices + g.choices + 1
  | repeated _ f => f.choices
  | group _ f => f.choices

/-- Whether the automata for a form are small enough. -/
def fits (f : Form) : Bool :=
  if f.roughBytes + 256 ≤ Room.limit then true
  else if Room.limit < Room.stateBytes * f.leastStates ∧ f.choices + 1 < Outline.wordListLength then
    false
  else f.outline.fits

end Form

end FederatedQuery
