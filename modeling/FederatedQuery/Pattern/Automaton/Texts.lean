/-
  Automata for a choice between texts.

  Texts that begin with the same bytes share the states for them, unless a text that ends earlier
  stands between them in the choice.

  * `Automaton.Rests`: what remains of some texts behind a shared beginning;
  * `Room.addTexts`: the room with the states for a choice between texts.
-/
import FederatedQuery.Pattern.Automaton.Room

namespace FederatedQuery

namespace Automaton

/-- What remains of some texts behind a shared beginning, in order. -/
abbrev Rests := List (List UInt8)

/-- Adds a rest to the group of those with the same first byte. -/
def intoGroup (b : UInt8) (rest : List UInt8) : List (UInt8 × Rests) → List (UInt8 × Rests)
  | [] => [(b, [rest])]
  | (c, rests) :: groups =>
    if b = c then (c, rest :: rests) :: groups else (c, rests) :: intoGroup b rest groups

/-- The rests between texts that end, in sections, each of them grouped by the first byte. -/
def sections (rests : Rests) : List (List (UInt8 × Rests)) :=
  rests.foldr (fun rest sections =>
    match rest, sections with
    | [], sections => [] :: sections
    | b :: rest, section_ :: sections => intoGroup b rest section_ :: sections
    | b :: rest, [] => [[(b, [rest])]]) [[]]

/-- How many texts end at once; those that end in front of all others count as one. -/
def endings (rests : Rests) : Nat :=
  match rests.span List.isEmpty with
  | ([], rests) => rests.countP List.isEmpty
  | (_ :: _, rests) => rests.countP List.isEmpty + 1

/-- The state for a section: by its only byte, or by one of several. -/
def addSection (groups : List (UInt8 × Rests)) (r : Room) : Room :=
  match groups with
  | [] => r
  | [_] => (r.addStates 1).addBranches 1
  | groups => (r.addTransitions groups.length).addBranches 1

/-- The states behind a shared beginning, and the longer beginnings that are found there. -/
def addRests (found : Room × List Rests) (rests : Rests) : Room × List Rests :=
  let groups := sections rests
  let room := groups.foldl (fun r section_ => addSection section_ r)
    ((found.1.addStates 1).addBranches (endings rests))
  let longer := groups.flatten.map Prod.snd
  (room, longer.filter (fun rests => rests.any (!·.isEmpty)) ++ found.2)

/-- The states behind beginnings that are equally long, and behind all longer ones; none is longer
    than `length` bytes. -/
def addLevels : (length : Nat) → List Rests → Room → Room
  | 0, _, r => r
  | length + 1, beginnings, r =>
    if beginnings.isEmpty || r.isFull then r
    else
      let (r, longer) := beginnings.foldl addRests (r, [])
      addLevels length longer r

end Automaton

/-- The room with the states for a choice between texts, given the bytes of each in the order in
    which they are read. -/
def Room.addTexts (texts : List (List UInt8)) (r : Room) : Room :=
  Automaton.addLevels ((texts.map List.length).foldl max 0 + 1) [texts] (r.addStates 1)

end FederatedQuery
