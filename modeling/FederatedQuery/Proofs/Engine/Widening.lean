/-
  The columns that a request needs.

  So that the filters can be applied to the answer, the engine asks for the columns of the query and,
  behind them, for those that the filters read.

  * `FirstSeen all shown`: each member of a list once, in the order in which they first appear in it;
  * `Columns.exists_addAll`: adding columns puts the new ones, first seen, behind those that are there;
  * `Predicate.firstSeen_fields`: the fields of a predicate are those that it compares, first seen;
  * `filterRows_map_restrict`: filters do not tell a row from one cut down to columns that they read;
  * `widenColumns_enough`: the widened columns are those of the query and those that the filters read,
    which is enough to filter rows that are cut down to them.
-/
import FederatedQuery.Proofs.Engine.Residual
import Mathlib.Data.List.Induction

namespace FederatedQuery

/-! ## First appearances -/

/-- The members of a list, each once, in the order in which they first appear in it. -/
structure FirstSeen (all shown : List String) : Prop where
  mem : ∀ c, c ∈ shown ↔ c ∈ all
  order : shown.Pairwise fun c d => all.idxOf c < all.idxOf d

namespace FirstSeen

variable {all shown : List String} {c : String}

theorem nil : FirstSeen [] [] := ⟨fun _ => Iff.rfl, .nil⟩

/-- One more member at the end of the list does not change where the others appear first. -/
theorem order_concat (h : FirstSeen all shown) (c : String) :
    shown.Pairwise fun d e => (all ++ [c]).idxOf d < (all ++ [c]).idxOf e := by
  refine h.order.imp_of_mem fun hd he hlt => ?_
  rwa [List.idxOf_append_of_mem ((h.mem _).1 hd), List.idxOf_append_of_mem ((h.mem _).1 he)]

theorem concat_old (h : FirstSeen all shown) (hc : c ∈ all) : FirstSeen (all ++ [c]) shown where
  mem d := by
    rw [h.mem, List.mem_append, List.mem_singleton]
    exact ⟨Or.inl, fun hd => hd.elim id fun he => he ▸ hc⟩
  order := h.order_concat c

theorem concat_new (h : FirstSeen all shown) (hc : c ∉ all) :
    FirstSeen (all ++ [c]) (shown ++ [c]) where
  mem d := by simp only [List.mem_append, h.mem]
  order := by
    refine List.pairwise_append.2 ⟨h.order_concat c, List.pairwise_singleton _ _, ?_⟩
    intro d hd e he
    have hd := (h.mem _).1 hd
    rw [List.mem_singleton.1 he, List.idxOf_append_of_mem hd, List.idxOf_append_of_notMem hc]
    exact Nat.lt_of_lt_of_le (List.idxOf_lt_length_of_mem hd) (Nat.le_add_right _ _)

end FirstSeen

namespace Columns

theorem addAll_concat (columns more : List String) (c : String) :
    addAll columns (more ++ [c]) = add (addAll columns more) c := by
  rw [addAll, List.foldl_append]
  rfl

/-- Adding columns puts those that are new behind the others, each where it appears first. -/
theorem exists_addAll (columns more : List String) :
    ∃ added, addAll columns more = columns ++ added ∧
      FirstSeen (more.filter (· ∉ columns)) added := by
  induction more using List.reverseRecOn with
  | nil => exact ⟨[], (List.append_nil _).symm, .nil⟩
  | append_singleton more c ih =>
    obtain ⟨added, hadded, hseen⟩ := ih
    rw [addAll_concat, hadded, List.filter_append, add]
    by_cases hc : c ∈ columns
    · refine ⟨added, if_pos (List.mem_append_left _ hc), ?_⟩
      rwa [List.filter_cons_of_neg (by simpa using hc), List.filter_nil, List.append_nil]
    · rw [List.filter_cons_of_pos (by simpa using hc), List.filter_nil]
      by_cases hold : c ∈ added
      · exact ⟨added, if_pos (List.mem_append_right _ hold),
          hseen.concat_old ((hseen.mem c).1 hold)⟩
      · refine ⟨added ++ [c], ?_, hseen.concat_new (mt (hseen.mem c).2 hold)⟩
        rw [if_neg (by simp [hc, hold]), List.append_assoc]

theorem addAll_append (columns more others : List String) :
    addAll columns (more ++ others) = addAll (addAll columns more) others := List.foldl_append

/-- Repeats among the columns that are added make no difference. -/
theorem addAll_addAll (columns some more : List String) :
    addAll columns (addAll some more) = addAll (addAll columns some) more := by
  induction more using List.reverseRecOn with
  | nil => rfl
  | append_singleton more c ih =>
    rw [addAll_concat, addAll_concat, ← ih, add]
    split
    · next hc => rw [add, if_pos (mem_addAll.2 (Or.inr hc))]
    · rw [addAll_concat]

end Columns

/-! ## The widened columns -/

theorem Predicate.firstSeen_fields (p : Predicate) : FirstSeen p.comparedFields p.fields := by
  obtain ⟨added, hadded, hseen⟩ := Columns.exists_addAll [] p.comparedFields
  rw [fields, hadded]
  simpa using hseen

/-- It makes no difference that the fields of each predicate come without repeats. -/
theorem addAll_fields (columns : List String) (filters : List Predicate) :
    Columns.addAll columns (filters.flatMap Predicate.fields) =
      Columns.addAll columns (filters.flatMap Predicate.comparedFields) := by
  induction filters generalizing columns with
  | nil => rfl
  | cons p ps ih =>
    have hfirst : Columns.addAll columns p.fields = Columns.addAll columns p.comparedFields :=
      Columns.addAll_addAll columns [] p.comparedFields
    rw [List.flatMap_cons, List.flatMap_cons, Columns.addAll_append, Columns.addAll_append, hfirst, ih]

/-! ## Rows cut down -/

/-- Filters do not tell a row from the same row cut down to columns among which are those that they
    read. -/
theorem filterRows_map_restrict {filters : List Predicate} {wide : List String}
    (h : ∀ p ∈ filters, p.comparedFields ⊆ wide) (rows : List Row) :
    (filterRows filters (rows.map (Row.restrict wide))).value =
      (filterRows filters rows).value.map (Row.restrict wide) := by
  have hjudged (r : Row) : filters.all (·.holds (r.restrict wide)) = filters.all (·.holds r) := by
    rw [Bool.eq_iff_iff, List.all_eq_true, List.all_eq_true]
    refine forall₂_congr fun p hp => ?_
    rw [Predicate.holds_congr p fun f hf => ?_]
    rw [Row.value, Row.get?_restrict, if_pos (Or.inr (h p hp hf)), Row.value]
  rw [value_filterRows, value_filterRows, List.filter_map]
  simp only [Function.comp_def, hjudged]

/-- **The widened columns** are those of the query and, behind them, the fields that the filters read
    and that are not among them, each once, in the order in which the comparisons of all filters
    first name them.  With these columns, or any others among which the fields are, filtering rows
    that are cut down keeps the rows that filtering the whole ones keeps. -/
theorem widenColumns_enough {columns : List String} (h : columns ≠ []) (filters : List Predicate)
    (rows : List Row) :
    (∃ added, widenColumns columns filters = columns ++ added ∧
      FirstSeen ((filters.flatMap Predicate.comparedFields).filter (· ∉ columns)) added) ∧
    (∀ p : Predicate, FirstSeen p.comparedFields p.fields) ∧
    ∀ wide : List String, (∀ p ∈ filters, p.fields ⊆ wide) →
      (filterRows filters (rows.map (Row.restrict wide))).value =
        (filterRows filters rows).value.map (Row.restrict wide) := by
  refine ⟨?_, Predicate.firstSeen_fields, fun wide hwide => ?_⟩
  · rw [widenColumns, if_neg (by simpa using h), addAll_fields]
    exact Columns.exists_addAll columns _
  · refine filterRows_map_restrict (fun p hp f hf => ?_) rows
    exact hwide p hp (Predicate.mem_fields.2 hf)

/-- A field is read twice, another one is asked for already, and a row lacks a third one. -/
theorem widenColumns_enough_twice :
    let filters : List Predicate := [.or [.eq "c" "1", .eq "b" "2"], .ne "c" "2", .eq "a" ""]
    let rows : List Row := [.ofPairs [("a", ""), ("c", "1"), ("d", "x")],
      .ofPairs [("a", "y"), ("b", "2")], .ofPairs [("b", "2")]]
    (∃ added, widenColumns ["b", "d"] filters = ["b", "d"] ++ added ∧
      FirstSeen ["c", "c", "a"] added) ∧
    (filterRows filters (rows.map (Row.restrict ["a", "b", "c"]))).value.map Dict.entries =
      [[("a", ""), ("c", "1")], [("b", "2")]] := by
  intro filters rows
  obtain ⟨hwidened, -, hrows⟩ := @widenColumns_enough ["b", "d"] (by decide) filters rows
  refine ⟨hwidened, ?_⟩
  rw [hrows ["a", "b", "c"] (by decide)]
  decide +kernel

end FederatedQuery
