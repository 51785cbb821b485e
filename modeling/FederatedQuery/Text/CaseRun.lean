/-
  Runs of a case mapping.

  A mapping of characters that a standard gives as a table is kept as runs: `⟨65, 90, 1, 97⟩` sends
  the 26 capital Latin letters to the small ones, `⟨256, 302, 2, 257⟩` every second code point from
  256 to 302 to its successor.

  * `CaseRun.image?`: where a run sends a code point of its own;
  * `CaseRun.apply`: the mapping of a list of runs, which leaves every other code point alone;
  * `CaseRun.source?`: the code point that a run sends to a given one.
-/

namespace FederatedQuery

/-- A run of a case mapping: every `step`-th code point from `first` to `last` is sent to the one
    as far above `target` as it is above `first`. -/
structure CaseRun where
  first : Nat
  last : Nat
  step : Nat
  target : Nat
  deriving DecidableEq, Repr

namespace CaseRun

/-- The code point to which the run sends `n`, if `n` is one of the run. -/
def image? (r : CaseRun) (n : Nat) : Option Nat :=
  if r.first ≤ n ∧ n ≤ r.last ∧ (n - r.first) % r.step = 0 then some (r.target + (n - r.first))
  else none

/-- The code point of the run that it sends to `n`, if there is one. -/
def source? (r : CaseRun) (n : Nat) : Option Nat :=
  if r.target ≤ n ∧ n - r.target ≤ r.last - r.first ∧ (n - r.target) % r.step = 0 then
    some (r.first + (n - r.target))
  else none

/-- The mapping of a list of runs in ascending order: the first run that holds `n` sends it on, and
    a code point in no run stays where it is. -/
def apply (n : Nat) : List CaseRun → Nat
  | [] => n
  | r :: rest => if n < r.first then n else (r.image? n).getD (apply n rest)

end CaseRun

end FederatedQuery
