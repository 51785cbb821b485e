/-
  Finding a pattern in a text.

  A text is read once, character by character.  Meanwhile the single-character classes of the
  pattern carry marks: a class is marked when it has just covered a character on some way through
  the pattern.  The work for a character grows with the pattern and not with the number of ways.

  * `Marked`: a pattern with marks;
  * `Marked.passes`, `Marked.ends`, `Marked.step`: what the marks do at one place;
  * `Pattern.isIn`: whether the pattern covers some part of a text.
-/
import FederatedQuery.Pattern.Basic

namespace FederatedQuery

/-- A pattern in which some of the single-character classes are marked. -/
inductive Marked where
  | empty
  | boundary (b : Boundary)
  | one (c : CharClass) (marked : Bool)
  | cat (p q : Marked)
  | alt (p q : Marked)
  | star (p : Marked)
  deriving DecidableEq, Repr

namespace Marked

/-- A pattern without marks. -/
def ofPattern : Pattern → Marked
  | .empty => empty
  | .boundary b => boundary b
  | .one c => one c false
  | .cat p q => cat (ofPattern p) (ofPattern q)
  | .alt p q => alt (ofPattern p) (ofPattern q)
  | .star p => star (ofPattern p)

/-- Whether the pattern can be passed at a place without covering a character. -/
def passes (place : Place) : Marked → Bool
  | empty => true
  | boundary b => b.holds place
  | one .. => false
  | cat p q => p.passes place && q.passes place
  | alt p q => p.passes place || q.passes place
  | star _ => true

/-- Whether a way leads at a place from a mark to the end of the pattern. -/
def ends (place : Place) : Marked → Bool
  | empty | boundary _ => false
  | one _ marked => marked
  | cat p q => p.ends place && q.passes place || q.ends place
  | alt p q => p.ends place || q.ends place
  | star p => p.ends place

/-- Moves all marks over the character after a place; `entering` tells whether a way leads to the
    beginning of the pattern as well.  The first part of the answer tells whether a way leads to
    its end at the place, before the character is covered. -/
def step (place : Place) (entering : Bool) : Marked → Bool × Marked
  | empty => (entering, empty)
  | boundary b => (entering && b.holds place, boundary b)
  | one c marked => (marked, one c (entering && place.after.any c.contains))
  | cat p q =>
    let (between, p) := p.step place entering
    let (leaving, q) := q.step place between
    (leaving, cat p q)
  | alt p q =>
    let (left, p) := p.step place entering
    let (right, q) := q.step place entering
    (left || right, alt p q)
  | star p =>
    let around := entering || p.ends place
    (around, star (p.step place around).2)

/-- Whether a way through the pattern ends in the text, or could begin and end there. -/
def isInFrom (m : Marked) (before : Option Char) : List Char → Bool
  | [] => (m.step ⟨before, none⟩ true).1
  | c :: rest =>
    let (found, m) := m.step ⟨before, some c⟩ true
    found || m.isInFrom (some c) rest

end Marked

/-- Whether the pattern covers some part of the text. -/
def Pattern.isIn (p : Pattern) (text : String) : Bool :=
  (Marked.ofPattern p).isInFrom none text.toList

end FederatedQuery
