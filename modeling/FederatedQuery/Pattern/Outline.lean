/-
  Outlines of patterns.

  The outline of a pattern is its form without what is needless: sequences in sequences and choices
  in choices are flat, neighbouring characters are one text, a choice between characters or between
  classes is a class, and what all branches of a choice begin with stands in front of it.

  * `Outline`: the outlines, and `Outline.ofSet`, `.inSequence`, `.inChoice`, `.times`, which build
    them;
  * `Form.outline`: the outline of a form;
  * `Outline.coversSome`, `.isPossible`, `.coversNothing`: how much an outline covers;
  * `Outline.startsText`, `.endsText`: whether it is tied to the beginning or the end of a text;
  * `Outline.reversed`: the outline for reading backwards.
-/
import FederatedQuery.Pattern.CharSet
import FederatedQuery.Pattern.Form

namespace FederatedQuery

/-- The outline of a pattern. -/
inductive Outline where
  | empty
  | boundary (b : Boundary)
  /-- Characters that stand for themselves, one after the other. -/
  | text (cs : List Char)
  /-- A class of characters, of which there is not exactly one. -/
  | set (s : CodePoints)
  | sequence (os : List Outline)
  | choice (os : List Outline)
  | repeated (r : Repetition) (o : Outline)
  /-- Keeps what `o` covers. -/
  | group (o : Outline)

namespace Outline

/-! ## How much an outline covers -/

/-- Whether the outline covers at least one character, wherever it covers something. -/
def coversSome : Outline → Bool
  | empty | boundary _ => false
  | text _ | set _ => true
  | sequence os => (os.map coversSome).any id
  | choice os => (os.map coversSome).all id
  | repeated r o => 0 < r.least && o.coversSome
  | group o => o.coversSome

/-- Whether no class in the outline is empty. -/
def isPossible : Outline → Bool
  | empty | boundary _ | text _ => true
  | set s => !s.boundaries.isEmpty
  | sequence os => (os.map isPossible).all id
  | choice os => (os.map isPossible).all id
  | repeated _ o => o.isPossible
  | group o => o.isPossible

/-- Whether the outline never covers a character. -/
def coversNothing : Outline → Bool
  | empty | boundary _ => true
  | text _ | set _ => false
  | sequence os => (os.map coversNothing).all id
  | choice os => (os.map coversNothing).all id
  | repeated _ o => o.coversNothing
  | group o => o.coversNothing

/-! ## Equality -/

mutual

/-- Whether two outlines are the same.  Groups are told apart by their place, so none is the same as
    another. -/
def same : Outline → Outline → Bool
  | empty, empty => true
  | boundary b, boundary c => b = c
  | text cs, text ds => cs = ds
  | set s, set t => s = t
  | sequence os, sequence ps => sameAll os ps
  | choice os, choice ps => sameAll os ps
  | repeated r o, repeated q p => r = q && same o p
  | _, _ => false

/-- Whether two lists of outlines are the same, one by one. -/
def sameAll : List Outline → List Outline → Bool
  | [], [] => true
  | o :: os, p :: ps => same o p && sameAll os ps
  | _, _ => false

end

/-! ## Building outlines -/

/-- A class; a class of one character is that character. -/
def ofSet (s : CodePoints) : Outline :=
  let s := CodePoints.combine and s .characters
  match s.boundaries with
  | [first, past] => if past = first + 1 then text [Char.ofNat first] else set s
  | _ => set s

/-- The parts of a sequence. -/
def items : Outline → List Outline
  | sequence os => os
  | o => [o]

/-- A part in front of others.  Texts are joined, and what is empty is left out. -/
def prepend : Outline → List Outline → List Outline
  | empty, os => os
  | text cs, text ds :: os => text (cs ++ ds) :: os
  | o, os => o :: os

/-- One outline after the other. -/
def inSequence (os : List Outline) : Outline :=
  match (os.flatMap items).foldr prepend [] with
  | [] => empty
  | [o] => o
  | os => sequence os

/-- The branches of a choice. -/
def branches : Outline → List Outline
  | choice os => os
  | o => [o]

/-- The character for which an outline stands alone. -/
def character? : Outline → Option Nat
  | text [c] => some c.toNat
  | _ => none

/-- The class that an outline is. -/
def class? : Outline → Option CodePoints
  | set s => some s
  | _ => none

/-- A choice between characters, or between classes, as a class. -/
def inClass? (os : List Outline) : Option Outline :=
  match os.mapM character? with
  | some points => some (ofSet (.ofList points))
  | none => (os.mapM class?).map fun sets => ofSet (sets.foldl .union ⟨[]⟩)

/-- With how many of the same outlines two lists begin. -/
def sharedLength : List Outline → List Outline → Nat
  | o :: os, p :: ps => if same o p then sharedLength os ps + 1 else 0
  | _, _ => 0

/-- The parts of an outline that is a sequence. -/
def parts? : Outline → Option (List Outline)
  | sequence os => some os
  | _ => none

/-- What all of several sequences begin with, and what remains of each. -/
def factor? (os : List Outline) : Option (List Outline × List (List Outline)) :=
  match os.mapM parts? with
  | some (first :: rest) =>
    let shared := rest.foldl (fun n os => min n (sharedLength first os)) first.length
    if shared = 0 then none else some (first.take shared, (first :: rest).map (·.drop shared))
  | _ => none

/-- A choice between outlines, one of which may itself be a choice. -/
def choose (os : List Outline) : Outline :=
  match os.flatMap branches with
  | [o] => o
  | os => (inClass? os).getD (choice os)

/-- A choice between outlines; what all of them begin with is taken out.  As what remains may be a
    choice itself, this is done again for at most `levels` times. -/
def chooseBehind (levels : Nat) (os : List Outline) : Outline :=
  match levels, choose os with
  | levels + 1, choice os =>
    match factor? os with
    | some (shared, rests) => inSequence (shared ++ [chooseBehind levels (rests.map inSequence)])
    | none => choice os
  | _, o => o

/-- A choice between outlines in which nothing is left that all of them begin with. -/
def inChoice (os : List Outline) : Outline := chooseBehind maxNesting os

/-- An outline repeated. -/
def times (r : Repetition) (o : Outline) : Outline :=
  let r := if o.coversNothing then r.atMostOnce else r
  if r.most = some 0 then empty
  else if r.least = 1 ∧ r.most = some 1 then o
  else repeated r o

/-! ## Ties to a text -/

/-- Whether the outline holds at the beginning of a text only. -/
def startsText : Outline → Bool
  | boundary b => b = .textStart
  | sequence os =>
    (os.map fun o => (o.startsText, o.coversNothing)).foldr
      (fun (starts, nothing) rest => starts || nothing && rest) false
  | choice os => (os.map startsText).all id
  | repeated r o => 0 < r.least && o.startsText
  | group o => o.startsText
  | _ => false

/-- Whether the outline holds at the end of a text only. -/
def endsText : Outline → Bool
  | boundary b => b = .textEnd
  | sequence os =>
    (os.map fun o => (o.endsText, o.coversNothing)).foldl
      (fun rest (ends, nothing) => ends || nothing && rest) false
  | choice os => (os.map endsText).all id
  | repeated r o => 0 < r.least && o.endsText
  | group o => o.endsText
  | _ => false

/-- The outline for reading backwards. -/
def reversed : Outline → Outline
  | sequence os => sequence (os.map reversed).reverse
  | choice os => choice (os.map reversed)
  | repeated r o => repeated r o.reversed
  | group o => group o.reversed
  | o => o

end Outline

/-! ## Forms -/

namespace Form

/-- The outlines of the branches of a form. -/
def branches : Form → List Outline
  | empty => [.empty]
  | boundary b => [.boundary b]
  | one c => [.ofSet c.codePoints]
  | cat f g => [.inSequence [.inChoice f.branches, .inChoice g.branches]]
  | alt f g => f.branches ++ g.branches
  | repeated r f => [.times r (.inChoice f.branches)]
  | group true f => [.group (.inChoice f.branches)]
  | group false f => [.inChoice f.branches]

/-- The outline of a form. -/
def outline (f : Form) : Outline := .inChoice f.branches

end Form

end FederatedQuery
