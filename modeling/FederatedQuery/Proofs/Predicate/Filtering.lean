/-
  Filtering rows by predicates.

  * `accepts_prepare`, `evaluate_eq_holds`: a prepared predicate accepts the rows for which the
    predicate holds;
  * `log_prepare_logical`: a logical predicate logs what its children log;
  * `value_filterRows`, `log_filterRows`: filtering keeps, in order, the rows for which all predicates
    hold, and logs what they log;
  * `holds_congr`: rows that agree on the compared fields are judged alike.
-/
import FederatedQuery.Proofs.Predicate.Basic

namespace FederatedQuery

namespace Predicate

/-! ## Preparation -/

theorem value_prepareAll (ps : List Predicate) :
    (prepareAll ps).value = ps.map fun p => p.prepare.value := by
  induction ps with
  | nil => rfl
  | cons p ps ih => simp only [prepareAll, Logged.value_bind, Logged.value_pure, ih, List.map_cons]

theorem log_prepareAll (ps : List Predicate) :
    (prepareAll ps).log = ps.flatMap fun p => p.prepare.log := by
  induction ps with
  | nil => rfl
  | cons p ps ih =>
    simp only [prepareAll, Logged.log_bind, Logged.log_pure, ih, List.append_nil, List.flatMap_cons]

theorem log_prepare_logical (op : Connective) (children : List Predicate) :
    (logical op children).prepare.log = children.flatMap fun p => p.prepare.log := by
  cases op <;>
    simp only [prepare, Logged.log_bind, Logged.log_pure, List.append_nil, log_prepareAll]

theorem allAccept_eq (row : Row) (tests : List RowTest) :
    RowTest.allAccept row tests = tests.all (·.accepts row) := by
  induction tests with
  | nil => rfl
  | cons t ts ih => rw [RowTest.allAccept, List.all_cons, ih]

theorem anyAccepts_eq (row : Row) (tests : List RowTest) :
    RowTest.anyAccepts row tests = tests.any (·.accepts row) := by
  induction tests with
  | nil => rfl
  | cons t ts ih => rw [RowTest.anyAccepts, List.any_cons, ih]

theorem value_readPattern (pattern : String) :
    (readPattern pattern).value = Pattern.read? pattern := by
  unfold readPattern
  split
  · next p h => rw [h]; rfl
  · next h => rw [h]; rfl

/-- **Preparing keeps the meaning.** -/
theorem accepts_prepare (row : Row) (p : Predicate) : p.prepare.value.accepts row = p.holds row := by
  induction p using treeInduction with
  | comparison op field value =>
    cases op with
    | eq | ne => rfl
    | found =>
      simp only [prepare, Logged.value_bind, Logged.value_pure, RowTest.accepts, value_readPattern,
        holds, compares]
  | logical op children ih =>
    cases op with
    | and =>
      simp only [prepare, Logged.value_bind, Logged.value_pure, RowTest.accepts, allAccept_eq,
        value_prepareAll, List.all_map, holds_and]
      rw [Bool.eq_iff_iff, List.all_eq_true, List.all_eq_true]
      exact forall₂_congr fun c hc => by rw [Function.comp, ih c hc]
    | or =>
      simp only [prepare, Logged.value_bind, Logged.value_pure, RowTest.accepts, anyAccepts_eq,
        value_prepareAll, List.any_map, holds_or]
      rw [Bool.eq_iff_iff, List.any_eq_true, List.any_eq_true]
      exact exists_congr fun c => and_congr_right fun hc => by rw [Function.comp, ih c hc]

theorem evaluate_eq_holds (p : Predicate) (row : Row) : p.evaluate row = p.holds row :=
  accepts_prepare row p

/-! ## Fields -/

/-- A predicate only reads the fields that it compares. -/
theorem holds_congr {row row' : Row} (p : Predicate) :
    (∀ f ∈ p.comparedFields, row.value f = row'.value f) → p.holds row = p.holds row' := by
  induction p using treeInduction with
  | comparison op field value =>
    intro h
    simp only [holds, h field (by simp [comparedFields])]
  | logical op children ih =>
    intro h
    have hc : ∀ c ∈ children, c.holds row = c.holds row' := fun c hc =>
      ih c hc fun f hf => h f (by simpa using ⟨c, hc, hf⟩)
    cases op with
    | and =>
      rw [holds_and, holds_and, Bool.eq_iff_iff, List.all_eq_true, List.all_eq_true]
      exact forall₂_congr fun c hm => by rw [hc c hm]
    | or =>
      rw [holds_or, holds_or, Bool.eq_iff_iff, List.any_eq_true, List.any_eq_true]
      exact exists_congr fun c => and_congr_right fun hm => by rw [hc c hm]

end Predicate

/-- **Filtering** keeps, in order, the rows for which all predicates hold. -/
theorem value_filterRows (predicates : List Predicate) (rows : List Row) :
    (filterRows predicates rows).value = rows.filter fun row => predicates.all (·.holds row) := by
  unfold filterRows
  split
  · next h =>
    rw [List.isEmpty_iff.1 h]
    exact (List.filter_eq_self.2 fun _ _ => rfl).symm
  · simp only [Logged.value_bind, Logged.value_pure, Predicate.value_prepareAll, List.all_map,
      Function.comp_def, Predicate.accepts_prepare]

theorem log_filterRows (predicates : List Predicate) (rows : List Row) :
    (filterRows predicates rows).log = predicates.flatMap fun p => p.prepare.log := by
  unfold filterRows
  split
  · next h =>
    rw [List.isEmpty_iff.1 h]
    rfl
  · rw [Logged.log_bind, Logged.log_pure, List.append_nil, Predicate.log_prepareAll]

end FederatedQuery
