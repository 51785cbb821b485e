/-
  Fields pinned to a value.

  * `Predicate.Conjunct c p`: `c` stands in `p` with no OR above it, so that it holds wherever `p`
    does (`Conjunct.holds`);
  * `Pins filters field value`: an equality between the field and the value is a conjunct of one of
    the filters;
  * `pins_of_requiredEquality`, `requiredEquality_eq_none_iff`: the search for a value finds one that
    is pinned, and fails only where none is;
  * `Pins.lowerCase_value`: in a row that meets the filters the field has that value.
-/
import FederatedQuery.Proofs.Predicate.Basic
import FederatedQuery.Query.Pinned

namespace FederatedQuery

namespace Predicate

/-! ## Conjuncts -/

/-- The first predicate stands in the second one, with no OR above it. -/
inductive Conjunct (c : Predicate) : Predicate → Prop
  | self : Conjunct c c
  | child {p children} : p ∈ children → Conjunct c p → Conjunct c (.logical .and children)

/-- A conjunct holds wherever the whole does. -/
theorem Conjunct.holds {row : Row} {c p : Predicate} (h : Conjunct c p) (hp : p.holds row = true) :
    c.holds row = true := by
  induction h with
  | self => exact hp
  | child hmem _ ih =>
    rw [holds_and, List.all_eq_true] at hp
    exact ih (hp _ hmem)

/-! ## The search -/

theorem firstPinned?_eq (field : String) (ps : List Predicate) :
    firstPinned? field ps = ps.findSome? (pinned? field) := by
  induction ps with
  | nil => rfl
  | cons p ps ih =>
    rw [firstPinned?, ih, List.findSome?_cons]
    cases pinned? field p <;> rfl

theorem pinned?_comparison {op : Comparator} {f field value v : String} :
    (comparison op f value).pinned? field = some v ↔ comparison op f value = .eq field v := by
  cases op with
  | eq =>
    simp only [pinned?, Predicate.eq, comparison.injEq, true_and]
    split
    · next h => simp [h]
    · next h => simp [h]
  | ne | found => simp [pinned?, Predicate.eq]

theorem pinned?_and (field : String) (children : List Predicate) :
    (logical .and children).pinned? field = children.findSome? (pinned? field) := by
  rw [pinned?, firstPinned?_eq]

/-- What the search finds is a conjunct. -/
theorem conjunct_of_pinned? {field v : String} {p : Predicate} :
    p.pinned? field = some v → Conjunct (.eq field v) p := by
  induction p using treeInduction with
  | comparison op f value =>
    intro h
    rw [pinned?_comparison] at h
    rw [h]
    exact .self
  | logical op children ih =>
    intro h
    cases op with
    | and =>
      rw [pinned?_and] at h
      obtain ⟨p, hp, hv⟩ := List.exists_of_findSome?_eq_some h
      exact .child hp (ih p hp hv)
    | or => cases h

/-- Where there is a conjunct to find, the search finds one. -/
theorem Conjunct.isSome_pinned? {field v : String} {p : Predicate} (h : Conjunct (.eq field v) p) :
    (p.pinned? field).isSome = true := by
  induction h with
  | self =>
    rw [Predicate.eq, pinned?_comparison.2 rfl]
    rfl
  | child hmem _ ih =>
    rw [pinned?_and, List.findSome?_isSome_iff]
    exact ⟨_, hmem, ih⟩

end Predicate

/-! ## Filters -/

/-- One of the filters has an equality between the field and the value among its conjuncts. -/
def Pins (filters : List Predicate) (field value : String) : Prop :=
  ∃ p ∈ filters, Predicate.Conjunct (.eq field value) p

theorem pins_of_requiredEquality {filters : List Predicate} {field v : String}
    (h : requiredEquality filters field = some v) : Pins filters field v := by
  rw [requiredEquality, Predicate.firstPinned?_eq] at h
  obtain ⟨p, hp, hv⟩ := List.exists_of_findSome?_eq_some h
  exact ⟨p, hp, Predicate.conjunct_of_pinned? hv⟩

/-- **The search fails** only where no value is pinned. -/
theorem requiredEquality_eq_none_iff {filters : List Predicate} {field : String} :
    requiredEquality filters field = none ↔ ¬ ∃ v, Pins filters field v := by
  constructor
  · rintro h ⟨v, p, hp, hc⟩
    have hsome := hc.isSome_pinned?
    rw [requiredEquality, Predicate.firstPinned?_eq, List.findSome?_eq_none_iff] at h
    rw [h p hp] at hsome
    cases hsome
  · intro h
    cases hv : requiredEquality filters field with
    | none => rfl
    | some v => exact absurd ⟨v, pins_of_requiredEquality hv⟩ h

/-- **A pinned field** has its value, letter case aside, in every row that meets the filters. -/
theorem Pins.lowerCase_value {filters : List Predicate} {field v : String} (h : Pins filters field v)
    {row : Row} (hrow : ∀ p ∈ filters, p.holds row = true) :
    Text.lowerCase (row.value field) = Text.lowerCase v := by
  obtain ⟨p, hp, hc⟩ := h
  have heq : (Predicate.eq field v).holds row = true := hc.holds (hrow p hp)
  simpa [Predicate.eq, Predicate.holds, Predicate.compares] using heq

end FederatedQuery
