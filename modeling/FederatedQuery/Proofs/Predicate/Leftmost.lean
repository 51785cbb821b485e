/-
  The first equality that pins a field.

  A place in a predicate is given by the numbers of the children that lead there.  Places are ordered
  from left to right as lists of numbers are.

  * `Predicate.ConjunctAt c path p`: the conjunct `c` of `p` at a place; `ConjunctAt.unique`;
  * `Predicate.FirstPin field value p`: of the equalities on the field among the conjuncts of `p`, the
    one that stands furthest to the left is that with the value; `firstPin_of_pinned?`;
  * `Predicate.SameConjuncts p q`: predicates that differ below ORs alone; `SameConjuncts.pinned?_eq`;
  * `requiredEquality_leftmost`: the search for a value finds the first one.
-/
import FederatedQuery.Proofs.Predicate.Filtering
import FederatedQuery.Proofs.Predicate.Pinned
import Mathlib.Data.List.Lex

namespace FederatedQuery

namespace Predicate

/-! ## Places -/

/-- The first predicate stands in the second one at a place with no OR above it. -/
inductive ConjunctAt (c : Predicate) : List Nat → Predicate → Prop
  | self : ConjunctAt c [] c
  | child {i path p children} : children[i]? = some p → ConjunctAt c path p →
      ConjunctAt c (i :: path) (.logical .and children)

theorem ConjunctAt.conjunct {c p : Predicate} {path : List Nat} (h : ConjunctAt c path p) :
    Conjunct c p := by
  induction h with
  | self => exact .self
  | child hi _ ih => exact .child (List.mem_of_getElem? hi) ih

/-- At a place there is only one predicate. -/
theorem ConjunctAt.unique {c d p : Predicate} {path : List Nat} (hc : ConjunctAt c path p)
    (hd : ConjunctAt d path p) : c = d := by
  induction hc with
  | self =>
    cases hd
    rfl
  | child hi _ ih =>
    cases hd with
    | child hi' hd =>
      obtain rfl := Option.some.inj (hi.symm.trans hi')
      exact ih hd

/-- The equality of the field with the value is the left-most one on the field that stands in the
    predicate with no OR above it. -/
def FirstPin (field value : String) (p : Predicate) : Prop :=
  ∃ path, ConjunctAt (.eq field value) path p ∧
    ∀ path' value', ConjunctAt (.eq field value') path' p →
      path' = path ∨ List.Lex (· < ·) path path'

theorem FirstPin.conjunct {field value : String} {p : Predicate} (h : FirstPin field value p) :
    Conjunct (.eq field value) p := by
  obtain ⟨path, hpath, -⟩ := h
  exact hpath.conjunct

theorem FirstPin.unique {field v w : String} {p : Predicate} (hv : FirstPin field v p)
    (hw : FirstPin field w p) : v = w := by
  obtain ⟨path, hpath, hfirst⟩ := hv
  obtain ⟨path', hpath', hfirst'⟩ := hw
  have heq : path' = path := by
    rcases hfirst _ _ hpath' with h | h
    · exact h
    rcases hfirst' _ _ hpath with h' | h'
    · exact h'.symm
    · exact absurd h' (asymm h)
  subst heq
  cases hpath.unique hpath'
  rfl

/-! ## The search -/

/-- The first child that has a pin holds the first pin of all. -/
theorem FirstPin.child {field value : String} {p : Predicate} {before after : List Predicate}
    (hbefore : ∀ q ∈ before, ∀ w, ¬ Conjunct (.eq field w) q) (h : FirstPin field value p) :
    FirstPin field value (.logical .and (before ++ p :: after)) := by
  obtain ⟨path, hpath, hfirst⟩ := h
  have hp : (before ++ p :: after)[before.length]? = some p := by simp
  refine ⟨before.length :: path, .child hp hpath, fun path' w h => ?_⟩
  cases h with
  | @child i path' q _ hi hq =>
    rcases Nat.lt_trichotomy i before.length with hlt | rfl | hgt
    · rw [List.getElem?_append_left hlt] at hi
      exact absurd hq.conjunct (hbefore q (List.mem_of_getElem? hi) w)
    · obtain rfl := Option.some.inj (hp.symm.trans hi)
      exact (hfirst _ _ hq).imp (congrArg _) .cons
    · exact Or.inr (.rel hgt)

/-- **What the search finds** stands furthest to the left. -/
theorem firstPin_of_pinned? {field v : String} {p : Predicate} :
    p.pinned? field = some v → FirstPin field v p := by
  induction p using treeInduction with
  | comparison op f value =>
    intro h
    rw [pinned?_comparison.1 h]
    refine ⟨[], .self, fun path' w hw => ?_⟩
    cases hw
    exact Or.inl rfl
  | logical op children ih =>
    intro h
    cases op with
    | and =>
      rw [pinned?_and] at h
      obtain ⟨before, p, after, rfl, hp, hbefore⟩ := List.findSome?_eq_some_iff.1 h
      refine .child (fun q hq w hc => ?_) (ih p (by simp) hp)
      have hsome := hc.isSome_pinned?
      rw [hbefore q hq] at hsome
      cases hsome
    | or => cases h

theorem pinned?_eq_some_iff {field v : String} {p : Predicate} :
    p.pinned? field = some v ↔ FirstPin field v p := by
  refine ⟨firstPin_of_pinned?, fun h => ?_⟩
  obtain ⟨w, hw⟩ := Option.isSome_iff_exists.1 h.conjunct.isSome_pinned?
  rw [hw, (firstPin_of_pinned? hw).unique h]

theorem isSome_pinned?_iff {field : String} {p : Predicate} :
    (p.pinned? field).isSome = true ↔ ∃ v path, ConjunctAt (.eq field v) path p := by
  rw [Option.isSome_iff_exists]
  constructor
  · rintro ⟨v, hv⟩
    obtain ⟨path, hpath, -⟩ := firstPin_of_pinned? hv
    exact ⟨v, path, hpath⟩
  · rintro ⟨v, path, hpath⟩
    exact Option.isSome_iff_exists.1 hpath.conjunct.isSome_pinned?

/-! ## Below an OR -/

/-- The two predicates are the same but for what stands below an OR. -/
inductive SameConjuncts : Predicate → Predicate → Prop
  | comparison {op field value} : SameConjuncts (.comparison op field value) (.comparison op field value)
  | and {children children'} : List.Forall₂ SameConjuncts children children' →
      SameConjuncts (.logical .and children) (.logical .and children')
  | or {children children'} : SameConjuncts (.logical .or children) (.logical .or children')

/-- **Nothing below an OR** makes a difference to the search. -/
theorem SameConjuncts.pinned?_eq {field : String} {p : Predicate} :
    ∀ {q : Predicate}, SameConjuncts p q → q.pinned? field = p.pinned? field := by
  induction p using treeInduction with
  | comparison =>
    intro q h
    cases h
    rfl
  | logical op children ih =>
    intro q h
    cases h with
    | or => rfl
    | @and _ children' hchildren =>
      rw [pinned?_and, pinned?_and]
      -- child by child
      induction hchildren with
      | nil => rfl
      | cons hchild _ ihs =>
        obtain ⟨hp, hps⟩ := List.forall_mem_cons.1 ih
        rw [List.findSome?_cons, List.findSome?_cons, hp hchild, ihs hps]

end Predicate

/-! ## Filters -/

theorem requiredEquality_eq (filters : List Predicate) (field : String) :
    requiredEquality filters field = (Predicate.and filters).pinned? field := rfl

/-- **A required equality** is the left-most one on the field that stands in the filters with no OR
    above it, and there is one whenever there is such an equality.  Its value is that of the field,
    letter case aside, in every row which all of the filters accept.  What stands below an OR makes
    no difference. -/
theorem requiredEquality_leftmost (filters : List Predicate) (field : String) :
    (∀ v, requiredEquality filters field = some v →
      ∀ row, (∀ p ∈ filters, p.evaluate row = true) →
        Text.lowerCase (row.value field) = Text.lowerCase v) ∧
    ((requiredEquality filters field).isSome = true ↔
      ∃ v path, Predicate.ConjunctAt (.eq field v) path (.and filters)) ∧
    (∀ v, requiredEquality filters field = some v ↔ Predicate.FirstPin field v (.and filters)) ∧
    ∀ filters', List.Forall₂ Predicate.SameConjuncts filters filters' →
      requiredEquality filters' field = requiredEquality filters field := by
  refine ⟨fun v hv row hrow => ?_, ?_, fun v => ?_, fun filters' h => ?_⟩
  · simp only [Predicate.evaluate_eq_holds] at hrow
    exact (pins_of_requiredEquality hv).lowerCase_value hrow
  · rw [requiredEquality_eq, Predicate.isSome_pinned?_iff]
  · rw [requiredEquality_eq, Predicate.pinned?_eq_some_iff]
  · exact (Predicate.SameConjuncts.and h).pinned?_eq

/-- Filters of which the first one is a choice, and the second one pins a field below two ANDs. -/
def choosing (choices : List Predicate) : List Predicate :=
  [.or choices, .and [.ne "f" "b", .and [.eq "g" "C", .eq "f" "D"]]]

/-- The choice has an equality on the field as well, or is left without any. -/
theorem requiredEquality_choosing :
    requiredEquality (choosing [.eq "f" "a", .eq "g" "c"]) "f" = some "D" ∧
      (∀ p ∈ choosing [.eq "f" "a", .eq "g" "c"],
        p.evaluate (.ofPairs [("f", "d"), ("g", "c")]) = true) ∧
      Text.lowerCase "d" = Text.lowerCase "D" ∧ requiredEquality (choosing []) "f" = some "D" := by
  have hpin : requiredEquality (choosing [.eq "f" "a", .eq "g" "c"]) "f" = some "D" := by
    decide +kernel
  have hrow : ∀ p ∈ choosing [.eq "f" "a", .eq "g" "c"],
      p.evaluate (.ofPairs [("f", "d"), ("g", "c")]) = true := by decide +kernel
  have hsame : List.Forall₂ Predicate.SameConjuncts (choosing [.eq "f" "a", .eq "g" "c"])
      (choosing []) :=
    .cons .or (.cons (.and (.cons .comparison (.cons (.and (.cons .comparison
      (.cons .comparison .nil))) .nil))) .nil)
  obtain ⟨hsound, -, -, hchoices⟩ :=
    requiredEquality_leftmost (choosing [.eq "f" "a", .eq "g" "c"]) "f"
  exact ⟨hpin, hrow, hsound "D" hpin _ hrow, (hchoices _ hsame).trans hpin⟩

end FederatedQuery
