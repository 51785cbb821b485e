/-
  Patterns.

  A pattern is a regular expression with all its abbreviations worked out.

  * `Boundary`: a place between two characters, `Boundary.holds` which places are meant;
  * `Pattern`: the patterns, with `Pattern.catAll` for sequences and `Pattern.opt`, `.between`,
    `.atLeast` for repetition;
  * `Pattern.Spans`: when a pattern covers the part of a text between two places;
  * `Pattern.positions`: the number of single-character classes in a pattern.
-/
import FederatedQuery.Pattern.CharClass

namespace FederatedQuery

/-! ## Boundaries -/

/-- A condition on a place of a text; those on words come with the class of word characters. -/
inductive Boundary where
  | textStart
  | textEnd
  | lineStart
  | lineEnd
  /-- Lines that end with a carriage return, a line feed or both. -/
  | anyLineStart
  | anyLineEnd
  | wordEdge (word : CharClass)
  | noWordEdge (word : CharClass)
  | wordStart (word : CharClass)
  | wordEnd (word : CharClass)
  /-- No word goes on from the left. -/
  | wordStartHalf (word : CharClass)
  /-- No word goes on to the right. -/
  | wordEndHalf (word : CharClass)
  deriving DecidableEq, Repr

/-- The characters on both sides of a place, where there are any. -/
structure Place where
  before : Option Char
  after : Option Char
  deriving DecidableEq, Repr

namespace Boundary

/-- Whether a place is of the kind. -/
def holds (p : Place) : Boundary → Bool
  | textStart => p.before.isNone
  | textEnd => p.after.isNone
  | lineStart => p.before.all (· = '\n')
  | lineEnd => p.after.all (· = '\n')
  | anyLineStart => p.before.all (· = '\n') || p.before = some '\r' && p.after ≠ some '\n'
  | anyLineEnd => p.after.all (· = '\r') || p.after = some '\n' && p.before ≠ some '\r'
  | wordEdge w => p.before.any w.contains != p.after.any w.contains
  | noWordEdge w => p.before.any w.contains == p.after.any w.contains
  | wordStart w => !p.before.any w.contains && p.after.any w.contains
  | wordEnd w => p.before.any w.contains && !p.after.any w.contains
  | wordStartHalf w => !p.before.any w.contains
  | wordEndHalf w => !p.after.any w.contains

end Boundary

/-! ## Patterns -/

/-- A pattern. -/
inductive Pattern where
  /-- Covers nothing. -/
  | empty
  /-- Covers nothing, at a place of the kind. -/
  | boundary (b : Boundary)
  /-- Covers one character of the class. -/
  | one (c : CharClass)
  /-- Covers what `p` covers and then what `q` covers. -/
  | cat (p q : Pattern)
  /-- Covers what `p` covers or what `q` covers. -/
  | alt (p q : Pattern)
  /-- Covers what `p` covers, any number of times. -/
  | star (p : Pattern)
  deriving DecidableEq, Repr

namespace Pattern

/-- Joins the members of a list as a tree, each half by itself for `depth` levels; `unit` stands for
    no members at all. -/
def joinTree {α : Type} (join : α → α → α) (unit : α) (depth : Nat) (xs : List α) : α :=
  match depth, xs with
  | _, [] => unit
  | _, [x] => x
  | 0, x :: xs => xs.foldl join x
  | depth + 1, xs =>
    join (joinTree join unit depth (xs.take (xs.length / 2)))
      (joinTree join unit depth (xs.drop (xs.length / 2)))

/-- Joins the members of a list as a tree that is no deeper than it has to be. -/
def joinAll {α : Type} (join : α → α → α) (unit : α) (xs : List α) : α :=
  joinTree join unit (xs.length.log2 + 1) xs

/-- One pattern after the other. -/
def catAll (ps : List Pattern) : Pattern := joinAll cat empty ps

/-! ## Repetition -/

/-- The pattern or nothing. -/
def opt (p : Pattern) : Pattern := alt p empty

/-- The pattern `least` to `most` times. -/
def between (least most : Nat) (p : Pattern) : Pattern :=
  catAll (List.replicate least p ++ List.replicate (most - least) p.opt)

/-- The pattern `least` times or more often. -/
def atLeast (least : Nat) (p : Pattern) : Pattern := catAll (List.replicate least p ++ [star p])

/-- The number of single characters for which the pattern has a class. -/
def positions : Pattern → Nat
  | empty | boundary _ => 0
  | one _ => 1
  | cat p q | alt p q => p.positions + q.positions
  | star p => p.positions

/-! ## Meaning -/

/-- The place of a text before which there are `i` characters. -/
def placeAt (text : List Char) (i : Nat) : Place where
  before := if i = 0 then none else text[i - 1]?
  after := text[i]?

/-- The pattern covers the part of the text from place `i` to place `j`. -/
inductive Spans (text : List Char) : Pattern → Nat → Nat → Prop where
  | empty {i} : Spans text empty i i
  | boundary {b i} : b.holds (placeAt text i) = true → Spans text (boundary b) i i
  | one {c x i} : text[i]? = some x → c.contains x = true → Spans text (one c) i (i + 1)
  | cat {p q i j k} : Spans text p i j → Spans text q j k → Spans text (cat p q) i k
  | altLeft {p q i j} : Spans text p i j → Spans text (alt p q) i j
  | altRight {p q i j} : Spans text q i j → Spans text (alt p q) i j
  | starNil {p i} : Spans text (star p) i i
  | starCons {p i j k} : Spans text p i j → Spans text (star p) j k → Spans text (star p) i k

/-- The pattern covers some part of the text. -/
def Occurs (p : Pattern) (text : List Char) : Prop :=
  ∃ i j, i ≤ text.length ∧ Spans text p i j

end Pattern

end FederatedQuery
