/-
  What predicates say of rows, and what lists of them keep.

  * `Predicate.Judges row judge`: a judgement of predicates that goes by their structure alone;
  * `judges_evaluate`, `Judges.unique`: what prepared predicates accept is such a judgement, and
    there is no other one;
  * `filterRows_append`, `filterRows_and`: filters in sequence, and joined to a single one, make the
    same of all rows, and log the same;
  * `value_filterRows_perm`, `value_filterRows_filterRows`: the order of filters does not matter for
    the rows that are kept, nor does it to filter twice;
  * `filterRows_laws`: all of it.
-/
import FederatedQuery.Proofs.Pattern.Search
import FederatedQuery.Proofs.Predicate.Filtering

namespace FederatedQuery

namespace Predicate

/-! ## One predicate -/

/-- A judgement of predicates on a row that goes by their structure: a comparison by the text in its
    field, which is empty where the row has none, a logical predicate by its children. -/
structure Judges (row : Row) (judge : Predicate → Prop) : Prop where
  eq : ∀ field value,
    judge (.eq field value) ↔ Text.lowerCase (row.value field) = Text.lowerCase value
  ne : ∀ field value, judge (.ne field value) ↔ ¬ judge (.eq field value)
  found : ∀ field pattern, judge (.found field pattern) ↔
    ∃ p, Pattern.read? pattern = some p ∧ p.Occurs (row.value field).toList
  and : ∀ children, judge (.and children) ↔ ∀ c ∈ children, judge c
  or : ∀ children, judge (.or children) ↔ ∃ c ∈ children, judge c

theorem judges_evaluate (row : Row) : Judges row fun p => p.evaluate row = true where
  eq field value := by
    simp [evaluate_eq_holds, Predicate.eq, holds, compares]
  ne field value := by
    simp [evaluate_eq_holds, Predicate.eq, Predicate.ne, holds, compares]
  found field pattern := by
    simp only [evaluate_eq_holds, Predicate.found, holds, compares, Option.any_eq_true,
      Pattern.isIn_iff_occurs]
  and children := by
    simp only [evaluate_eq_holds, Predicate.and, holds_and, List.all_eq_true]
  or children := by
    simp only [evaluate_eq_holds, Predicate.or, holds_or, List.any_eq_true]

/-- The structure of predicates leaves no choice. -/
theorem Judges.unique {row : Row} {judge judge' : Predicate → Prop} (h : Judges row judge)
    (h' : Judges row judge') (p : Predicate) : judge p ↔ judge' p := by
  induction p using treeInduction with
  | comparison op field value =>
    have heq : judge (.eq field value) ↔ judge' (.eq field value) :=
      (h.eq field value).trans (h'.eq field value).symm
    cases op with
    | eq => exact heq
    | ne => exact (h.ne field value).trans ((not_congr heq).trans (h'.ne field value).symm)
    | found => exact (h.found field value).trans (h'.found field value).symm
  | logical op children ih =>
    cases op with
    | and => exact (h.and children).trans ((forall₂_congr ih).trans (h'.and children).symm)
    | or =>
      have hor : (∃ c ∈ children, judge c) ↔ ∃ c ∈ children, judge' c :=
        exists_congr fun c => and_congr_right (ih c)
      exact (h.or children).trans (hor.trans (h'.or children).symm)

end Predicate

/-! ## Lists of predicates -/

theorem value_filterRows_evaluate (ps : List Predicate) (rows : List Row) :
    (filterRows ps rows).value = rows.filter fun row => ps.all (·.evaluate row) := by
  simp only [value_filterRows, Predicate.evaluate_eq_holds]

/-- **Filters in sequence.** -/
theorem filterRows_append (ps qs : List Predicate) (rows : List Row) :
    filterRows (ps ++ qs) rows = filterRows ps rows >>= filterRows qs := by
  refine Logged.ext ?_ ?_
  · simp only [Logged.value_bind, value_filterRows, List.all_append, List.filter_filter, Bool.and_comm]
  · rw [Logged.log_bind, log_filterRows, log_filterRows, log_filterRows, List.flatMap_append]

/-- **Filters joined** to a single one. -/
theorem filterRows_and (ps : List Predicate) (rows : List Row) :
    filterRows [.and ps] rows = filterRows ps rows := by
  refine Logged.ext ?_ ?_
  · simp only [value_filterRows, Predicate.and, List.all_cons, List.all_nil, Predicate.holds_and,
      Bool.and_true]
  · rw [log_filterRows, log_filterRows, List.flatMap_singleton, Predicate.and,
      Predicate.log_prepare_logical]

theorem value_filterRows_perm {ps qs : List Predicate} (h : ps.Perm qs) (rows : List Row) :
    (filterRows ps rows).value = (filterRows qs rows).value := by
  simp only [value_filterRows, h.all_eq]

theorem value_filterRows_filterRows (ps : List Predicate) (rows : List Row) :
    (filterRows ps (filterRows ps rows).value).value = (filterRows ps rows).value := by
  simp only [value_filterRows, List.filter_filter, Bool.and_self]

/-- **Filtering by predicates.**  Filters keep, in order, the rows of which all of them, prepared,
    say yes, and what they say follows their structure.  So filters may be applied one after the
    other, joined to a single one, put in another order or applied again. -/
theorem filterRows_laws (ps qs : List Predicate) (rows : List Row) :
    (∀ row, Predicate.Judges row fun p => p.evaluate row = true) ∧
    (∀ row judge, Predicate.Judges row judge → ∀ p, judge p ↔ p.evaluate row = true) ∧
    (filterRows ps rows).value = rows.filter (fun row => ps.all (·.evaluate row)) ∧
    filterRows (ps ++ qs) rows = (filterRows ps rows >>= filterRows qs) ∧
    filterRows (ps ++ qs) rows = filterRows [.and (ps ++ qs)] rows ∧
    (∀ ps', ps'.Perm ps → (filterRows ps' rows).value = (filterRows ps rows).value) ∧
    (filterRows ps (filterRows ps rows).value).value = (filterRows ps rows).value :=
  ⟨Predicate.judges_evaluate, fun row _ h => h.unique (Predicate.judges_evaluate row),
    value_filterRows_evaluate ps rows, filterRows_append ps qs rows, (filterRows_and _ rows).symm,
    fun _ h => value_filterRows_perm h rows, value_filterRows_filterRows ps rows⟩

/-- Two filters the other way round, on rows of which one is short of a field. -/
theorem filterRows_swapped :
    [Predicate.ne "b" "", .eq "a" "X"].Perm [.eq "a" "X", .ne "b" ""] ∧
      (filterRows [.ne "b" "", .eq "a" "X"] [.ofPairs [("a", "x"), ("b", "1")],
          .ofPairs [("a", "X")], .ofPairs [("a", "y"), ("b", "1")]]).value.map Dict.entries =
        [[("a", "x"), ("b", "1")]] := by
  have hswap : [Predicate.ne "b" "", .eq "a" "X"].Perm [.eq "a" "X", .ne "b" ""] :=
    .swap _ _ _
  obtain ⟨-, -, -, -, -, hperm, -⟩ := filterRows_laws [.eq "a" "X", .ne "b" ""] []
    [.ofPairs [("a", "x"), ("b", "1")], .ofPairs [("a", "X")], .ofPairs [("a", "y"), ("b", "1")]]
  refine ⟨hswap, ?_⟩
  rw [hperm _ hswap]
  decide +kernel

end FederatedQuery
