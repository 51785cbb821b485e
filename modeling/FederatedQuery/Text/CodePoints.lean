/-
  Sets of code points.

  A property of characters that a standard gives as a table is kept as the ascending code points at
  which membership changes: the set of the lower-case Latin letters is `⟨[97, 123]⟩`.

  * `CodePoints`: such a set;
  * `CodePoints.contains`: membership, by walking the boundaries up to the code point, so that the
    answer for an ASCII character hangs on the first boundaries alone;
  * `CodePoints.combine`: the set of the code points for which membership in two sets is combined to
    `true`, by walking both lists of boundaries together;
  * `CodePoints.ofList`: the set of some code points;
  * `CodePoints.ranges`: the runs of a set, each by its first and last code point.
-/

namespace FederatedQuery

/-- A set of code points, given by the code points at which membership changes, in ascending order:
    the first one is in, the second one out again, and so on. -/
structure CodePoints where
  /-- Where membership changes. -/
  boundaries : List Nat
  deriving DecidableEq, Repr

namespace CodePoints

/-- Whether `n` lies in one of the runs that the boundaries open and close.  A run that is never
    closed goes on for ever. -/
def inside (n : Nat) : List Nat → Bool
  | [] => false
  | [first] => first ≤ n
  | first :: past :: rest => first ≤ n && (n < past || inside n rest)

/-- Whether the character `c` is in the set. -/
def contains (s : CodePoints) (c : Char) : Bool :=
  inside c.toNat s.boundaries

/-! ## Combination -/

/-- A boundary in front of others, if membership changes there. -/
def emit (before after : Bool) (n : Nat) (rest : List Nat) : List Nat :=
  if before = after then rest else n :: rest

/-- Walks two lists of boundaries; `a` and `b` tell whether the walk is inside the one set and the
    other. -/
def merge (op : Bool → Bool → Bool) (a b : Bool) : List Nat → List Nat → List Nat
  | [], [] => []
  | m :: ms, [] => emit (op a b) (op (!a) b) m (merge op (!a) b ms [])
  | [], n :: ns => emit (op a b) (op a (!b)) n (merge op a (!b) [] ns)
  | m :: ms, n :: ns =>
    if m < n then emit (op a b) (op (!a) b) m (merge op (!a) b ms (n :: ns))
    else if n < m then emit (op a b) (op a (!b)) n (merge op a (!b) (m :: ms) ns)
    else emit (op a b) (op (!a) (!b)) m (merge op (!a) (!b) ms ns)
termination_by ms ns => ms.length + ns.length

/-- The code points for which `op` combines membership in the one set and in the other to `true`. -/
def combine (op : Bool → Bool → Bool) (s t : CodePoints) : CodePoints :=
  let walked := merge op false false s.boundaries t.boundaries
  if op false false then
    match walked with
    | 0 :: rest => ⟨rest⟩
    | rest => ⟨0 :: rest⟩
  else ⟨walked⟩

/-- The code points of the one set or the other. -/
def union (s t : CodePoints) : CodePoints := combine or s t

/-! ## Lists -/

/-- The boundaries of the set of some code points in ascending order. -/
def boundariesOf (points : List Nat) : List Nat :=
  points.foldr (fun n rest =>
    match rest with
    | first :: more =>
      if first = n then rest else if first = n + 1 then n :: more else n :: (n + 1) :: rest
    | [] => [n, n + 1]) []

/-- The set of some code points. -/
def ofList (points : List Nat) : CodePoints := ⟨boundariesOf (points.mergeSort (· ≤ ·))⟩

/-- The entries of a table whose key is in the set.  The keys are in ascending order. -/
def keep {α : Type} (within : Bool) : List Nat → List (Nat × α) → List (Nat × α)
  | _, [] => []
  | [], entries => if within then entries else []
  | n :: ns, (key, value) :: entries =>
    if n ≤ key then keep (!within) ns ((key, value) :: entries)
    else if within then (key, value) :: keep within (n :: ns) entries
    else keep within (n :: ns) entries
termination_by ns entries => ns.length + entries.length

/-- The entries of a table whose key is in the set.  The keys are in ascending order. -/
def select {α : Type} (s : CodePoints) (entries : List (Nat × α)) : List (Nat × α) :=
  keep false s.boundaries entries

/-! ## Characters -/

/-- The code points that are characters: all of them but the halves of pairs. -/
def characters : CodePoints := ⟨[0, 0xd800, 0xe000, 0x110000]⟩

/-- The runs between boundaries, each by its first and last code point. -/
def rangesOf : List Nat → List (Nat × Nat)
  | first :: past :: rest => (first, past - 1) :: rangesOf rest
  | _ => []

/-- The runs of the characters in a set, each by its first and last code point. -/
def ranges (s : CodePoints) : List (Nat × Nat) := rangesOf (combine and s characters).boundaries

end CodePoints

end FederatedQuery
