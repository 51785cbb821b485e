/-
  Predicates as trees.

  The functions on predicates run through the children of a logical predicate by a recursion of
  their own.

  * `Predicate.treeInduction`: induction on a predicate, with the hypothesis for every child;
  * `comparedFields_logical`, `height_logical`, `holds_and`, `holds_or`: these functions through the
    operations on lists.
-/
import FederatedQuery.Query.Evaluate

namespace FederatedQuery

namespace Predicate

/-- Induction on a predicate: what holds of every comparison, and of a logical predicate when it
    holds of its children, holds of all predicates. -/
@[elab_as_elim]
theorem treeInduction {motive : Predicate → Prop}
    (comparison : ∀ op field value, motive (.comparison op field value))
    (logical : ∀ op children, (∀ c ∈ children, motive c) → motive (.logical op children)) :
    ∀ p, motive p
  | .comparison op field value => comparison op field value
  | .logical op children => logical op children fun c hc =>
    have : sizeOf c < sizeOf children := List.sizeOf_lt_of_mem hc
    treeInduction comparison logical c

/-! ## Fields and height -/

theorem comparedFieldsOf_eq (ps : List Predicate) :
    comparedFieldsOf ps = ps.flatMap comparedFields := by
  induction ps with
  | nil => rfl
  | cons p ps ih => rw [comparedFieldsOf, List.flatMap_cons, ih]

@[simp] theorem comparedFields_logical (op : Connective) (children : List Predicate) :
    (logical op children).comparedFields = children.flatMap comparedFields := by
  rw [comparedFields, comparedFieldsOf_eq]

theorem heightOf_le_iff {ps : List Predicate} {n : Nat} :
    heightOf ps ≤ n ↔ ∀ p ∈ ps, p.height ≤ n := by
  induction ps with
  | nil => simp [heightOf]
  | cons p ps ih => rw [heightOf, Nat.max_le, ih, List.forall_mem_cons]

theorem height_pair (op : Connective) (p q : Predicate) :
    (logical op [p, q]).height = max p.height q.height + 1 := by
  simp [height, heightOf]

/-! ## Meaning -/

theorem allHold_eq (row : Row) (ps : List Predicate) : allHold row ps = ps.all (·.holds row) := by
  induction ps with
  | nil => rfl
  | cons p ps ih => rw [allHold, List.all_cons, ih]

theorem anyHolds_eq (row : Row) (ps : List Predicate) : anyHolds row ps = ps.any (·.holds row) := by
  induction ps with
  | nil => rfl
  | cons p ps ih => rw [anyHolds, List.any_cons, ih]

@[simp] theorem holds_and (row : Row) (children : List Predicate) :
    (logical .and children).holds row = children.all (·.holds row) := by
  rw [holds, allHold_eq]

@[simp] theorem holds_or (row : Row) (children : List Predicate) :
    (logical .or children).holds row = children.any (·.holds row) := by
  rw [holds, anyHolds_eq]

end Predicate

end FederatedQuery
