/-
  Character classes as sets of code points.

  * `CodePoints.closeCase`: a set with all case variants of its members;
  * `CharClass.codePoints`: the set of the characters of a class;
  * `CharClass.maxRanges`: as many runs of characters as the class may have at most.
-/
import FederatedQuery.Pattern.CharClass

namespace FederatedQuery

/-! ## Case variants -/

namespace CodePoints

/-- The code points that case folding sends to other ones, each with where it goes, in ascending
    order. -/
def folds : List (Nat × Nat) :=
  (Text.foldRuns.flatMap fun r =>
    (List.range ((r.last - r.first) / r.step + 1)).map fun i =>
      (r.first + i * r.step, r.target + i * r.step)).mergeSort fun a b => a.1 ≤ b.1

/-- The same in the other direction. -/
def unfolds : List (Nat × Nat) :=
  (folds.map fun (a, b) => (b, a)).mergeSort fun a b => a.1 ≤ b.1

/-- The ASCII part of a table. -/
def asciiPart (entries : List (Nat × Nat)) : List (Nat × Nat) :=
  entries.filter fun (a, b) => a < 128 && b < 128

/-- A set with where its members go by folding, and then with all that goes there. -/
def closeBy (folds unfolds : List (Nat × Nat)) (s : CodePoints) : CodePoints :=
  let folded := s.union (ofList ((s.select folds).map Prod.snd))
  folded.union (ofList ((folded.select unfolds).map Prod.snd))

/-- A set with all case variants of its members. -/
def closeCase (s : CodePoints) : CodePoints := closeBy folds unfolds s

/-- The ASCII letters that change by folding. -/
def asciiFolds : List (Nat × Nat) := asciiPart folds

/-- The ASCII letters to which others change by folding. -/
def asciiUnfolds : List (Nat × Nat) := asciiPart unfolds

/-- A set with the ASCII letters that differ from members in case. -/
def closeAsciiCase (s : CodePoints) : CodePoints := closeBy asciiFolds asciiUnfolds s

end CodePoints

/-! ## Classes -/

namespace CharClass

/-- The characters of the class as a set of code points. -/
def codePoints : CharClass → CodePoints
  | nothing => ⟨[]⟩
  | range first last => if first ≤ last then ⟨[first.toNat, last.toNat + 1]⟩ else ⟨[]⟩
  | points set => set
  | variants c => .ofList ((Text.caseVariants c).map Char.toNat)
  | anyCase c => c.codePoints.closeCase
  | anyAsciiCase c => c.codePoints.closeAsciiCase
  | complement c => .combine (fun a _ => !a) c.codePoints ⟨[]⟩
  | union c d => c.codePoints.union d.codePoints
  | intersection c d => .combine and c.codePoints d.codePoints
  | difference c d => .combine (fun a b => a && !b) c.codePoints d.codePoints
  | symmetricDifference c d => .combine xor c.codePoints d.codePoints

/-- As many runs of characters as the class may have at most. -/
def maxRanges : CharClass → Nat
  | nothing => 0
  | range .. => 1
  | points set => set.boundaries.length
  | variants _ => 4
  | anyCase c => c.maxRanges + 2 * CodePoints.folds.length
  | anyAsciiCase c => c.maxRanges + 52
  | complement c => c.maxRanges + 1
  | union c d | intersection c d | difference c d | symmetricDifference c d =>
    c.maxRanges + d.maxRanges

end CharClass

end FederatedQuery
