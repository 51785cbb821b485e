/-
  What a query means once it is read back from its text.

  A logical predicate may have any number of children, and a query any number of filters.  In the text
  they stand in chains, which are read as predicates with two children each.

  * `Predicate.Joins measure join`: the measure of a logical predicate joins those of its children,
    however these are grouped; `Joins.folded` says that folding does not change it;
  * `holds_folded`, `log_prepare_folded`: nor, therefore, what a predicate says of a row and what is
    logged when it is prepared;
  * `filterRows_folded`: the filters of a folded query keep the same rows as those of the query;
  * `Predicate.parentheses`: how deeply the parentheses in the text of a predicate nest;
  * `Query.parse_text_meaning`: a query is read back from its text as one that asks for the same.
-/
import FederatedQuery.Proofs.Predicate.Filtering
import FederatedQuery.Proofs.Query.RoundTrip

namespace FederatedQuery

namespace Predicate

/-! ## Folding -/

theorem foldedOf_eq (ps : List Predicate) : foldedOf ps = ps.map folded := by
  induction ps with
  | nil => rfl
  | cons p ps ih => rw [foldedOf, List.map_cons, ih]

/-- The measure of a logical predicate joins those of its children, however these are grouped. -/
structure Joins {β : Type} (measure : Predicate → β) (join : Connective → List β → β) : Prop where
  logical : ∀ op children, measure (.logical op children) = join op (children.map measure)
  single : ∀ op b, join op [b] = b
  pair : ∀ op b c bs, join op (join op [b, c] :: bs) = join op (b :: c :: bs)

namespace Joins

variable {β : Type} {measure : Predicate → β} {join : Connective → List β → β}

theorem foldl (h : Joins measure join) (op : Connective) (p : Predicate) (ps : List Predicate) :
    measure (ps.foldl (fun left right => .logical op [left, right]) p) =
      join op ((p :: ps).map measure) := by
  induction ps generalizing p with
  | nil => exact (h.single op _).symm
  | cons q ps ih =>
    rw [List.foldl_cons, ih, List.map_cons, h.logical]
    exact h.pair op _ _ _

theorem fold (h : Joins measure join) (op : Connective) (ps : List Predicate) :
    measure (Predicate.fold op ps) = join op (ps.map measure) := by
  cases ps with
  | nil => exact h.logical op []
  | cons p ps => exact h.foldl op p ps

/-- **Folding** does not change the measure. -/
theorem folded (h : Joins measure join) (p : Predicate) : measure p.folded = measure p := by
  induction p using treeInduction with
  | comparison => rfl
  | logical op children ih =>
    have hchildren : (children.map Predicate.folded).map measure = children.map measure := by
      rw [List.map_map]
      exact List.map_congr_left ih
    rw [Predicate.folded, foldedOf_eq, h.fold, hchildren, h.logical]

end Joins

/-! ## What is said and what is logged -/

/-- Whether all or one of some truth values. -/
def decides : Connective → List Bool → Bool
  | .and, bs => bs.all id
  | .or, bs => bs.any id

theorem joins_holds (row : Row) : Joins (holds row) decides where
  logical op children := by
    cases op with
    | and => rw [holds_and, decides, List.all_map, Function.id_comp]
    | or => rw [holds_or, decides, List.any_map, Function.id_comp]
  single op b := by cases op <;> simp [decides]
  pair op b c bs := by cases op <;> simp [decides, Bool.and_assoc, Bool.or_assoc]

/-- A folded predicate says the same of every row. -/
theorem holds_folded (row : Row) (p : Predicate) : p.folded.holds row = p.holds row :=
  (joins_holds row).folded p

theorem joins_log : Joins (fun p => p.prepare.log) fun _ => List.flatten where
  logical op children := by rw [← List.flatMap_def, log_prepare_logical]
  single op log := by simp
  pair op log log' logs := by simp

/-- Preparing a folded predicate logs the same. -/
theorem log_prepare_folded (p : Predicate) : p.folded.prepare.log = p.prepare.log :=
  joins_log.folded p

end Predicate

/-! ## Parentheses -/

namespace Predicate

mutual

/-- How deeply the parentheses in the text of a predicate nest. -/
def parentheses : Predicate → Nat
  | .comparison .. => 0
  | .logical _ children => parenthesesOf children + 1

/-- How deeply the parentheses in the texts of some predicates nest. -/
def parenthesesOf : List Predicate → Nat
  | [] => 0
  | p :: ps => max p.parentheses (parenthesesOf ps)

end

theorem heightOf_eq {ps : List Predicate} (hne : ps ≠ [])
    (h : ∀ p ∈ ps, p.height = p.parentheses + 1) : heightOf ps = parenthesesOf ps + 1 := by
  induction ps with
  | nil => exact absurd rfl hne
  | cons p ps ih =>
    obtain ⟨hp, hps⟩ := List.forall_mem_cons.1 h
    cases ps with
    | nil => simp [heightOf, parenthesesOf, hp]
    | cons q ps =>
      rw [heightOf, parenthesesOf, hp, ih (List.cons_ne_nil q ps) hps, Nat.add_max_add_right]

/-- All but the comparison at the end of a branch stand in parentheses. -/
theorem Spellable.height_eq {p : Predicate} (h : p.Spellable) : p.height = p.parentheses + 1 := by
  induction h with
  | comparison => rfl
  | logical hne _ ih => rw [height, parentheses, heightOf_eq hne ih]

end Predicate

/-! ## Reading queries back -/

namespace Query

theorem holds_folded_and (row : Row) (ps : List Predicate) :
    (Predicate.fold .and (ps.map Predicate.folded)).holds row = ps.all (·.holds row) := by
  rw [(Predicate.joins_holds row).fold, List.map_map, Predicate.decides, List.all_map]
  exact List.all_congr rfl fun p => Predicate.holds_folded row p

theorem log_prepare_folded_and (ps : List Predicate) :
    (Predicate.fold .and (ps.map Predicate.folded)).prepare.log =
      ps.flatMap fun p => p.prepare.log := by
  rw [Predicate.joins_log.fold, List.map_map, List.flatMap_def]
  exact congrArg List.flatten (List.map_congr_left fun p _ => Predicate.log_prepare_folded p)

/-- **The filters of a folded query** keep the same rows as those of the query, and log the same. -/
theorem filterRows_folded (q : Query) (rows : List Row) :
    filterRows q.folded.filters rows = filterRows q.filters rows := by
  rw [folded, Predicate.foldedOf_eq]
  split
  · next h => rw [List.isEmpty_iff.1 h]
  refine Logged.ext ?_ ?_
  · simp only [value_filterRows, List.all_cons, List.all_nil, Bool.and_true, holds_folded_and]
  · rw [log_filterRows, log_filterRows, List.flatMap_singleton, log_prepare_folded_and]

/-- **A query is read back** from its text as one that asks for the same: for the same columns of the
    same table, and for the rows that the filters of the query keep. -/
theorem parse_text_meaning {q : Query} (h : q.Spellable) (hs : Text.lowerCase q.source = q.source)
    (ht : Text.lowerCase q.table = q.table) (hp : ∀ p ∈ q.filters, p.parentheses ≤ maxParentheses)
    (hh : ∀ p ∈ q.folded.filters, p.height ≤ maxHeight) :
    ∃ q', (Statement.parse q.text).value = .ok q' ∧ q'.source = q.source ∧ q'.table = q.table ∧
      q'.columns = q.columns ∧ q'.limit = q.limit ∧
      ∀ rows, filterRows q'.filters rows = filterRows q.filters rows := by
  have hdepth : Predicate.heightOf q.filters ≤ maxParentheses + 1 := by
    refine Predicate.heightOf_le_iff.2 fun p hmem => ?_
    rw [(h.filters p hmem).height_eq]
    exact Nat.succ_le_succ (hp p hmem)
  have hread := parse_text_folded h (qualified_of_lower h hs ht) hdepth hh
  exact ⟨_, hread, rfl, rfl, rfl, rfl, filterRows_folded q⟩

/-- A query with a choice of three between two other filters, the last of them a single child. -/
def several : Query where
  source := "s"
  table := "t"
  columns := ["b", "a"]
  limit := 5
  filters := [.ne "a" "x", .or [.eq "a" "y", .eq "b" "it's", .eq "b" "w"], .and [.or [.ne "b" "z"]]]

theorem isName_several : IsName "a" ∧ IsName "b" :=
  ⟨⟨by decide +kernel, by decide +kernel, by decide +kernel⟩,
    ⟨by decide +kernel, by decide +kernel, by decide +kernel⟩⟩

theorem spellable_several : several.Spellable where
  source_word := by decide +kernel
  source_plain := by decide
  table_ne := by decide
  table_word := by decide +kernel
  table_plain := by decide
  columns := by simpa [several] using isName_several.symm
  filters := by
    obtain ⟨ha, hb⟩ := isName_several
    have hne : (Predicate.ne "a" "x").Spellable := .comparison (by decide) ha (by decide)
    have hor : (Predicate.or [.eq "a" "y", .eq "b" "it's", .eq "b" "w"]).Spellable :=
      .logical (by simp) (by
        simpa using ⟨.comparison (by decide) ha (by decide), .comparison (by decide) hb (by decide),
          .comparison (by decide) hb (by decide)⟩)
    have hsingle : (Predicate.or [.ne "b" "z"]).Spellable :=
      .logical (by simp) (by simpa using .comparison (by decide) hb (by decide))
    have hand : (Predicate.and [.or [.ne "b" "z"]]).Spellable :=
      .logical (by simp) (by simpa using hsingle)
    simpa [several] using ⟨hne, hor, hand⟩
  limit_le := by decide

/-- Of four rows, those that meet every filter. -/
theorem parse_several_text :
    several.text = "SELECT b, a FROM s.t WHERE a != 'x' AND (a = 'y' OR b = 'it''s' OR b = 'w') AND " ++
        "((b != 'z')) LIMIT 5" ∧
      ∃ q', (Statement.parse several.text).value = .ok q' ∧ q'.columns = ["b", "a"] ∧ q'.limit = 5 ∧
        (filterRows q'.filters [.ofPairs [("a", "x"), ("b", "w")], .ofPairs [("a", "1"), ("b", "It's")],
            .ofPairs [("b", "z")], .ofPairs [("a", "Y")]]).value.map Dict.entries =
          [[("a", "1"), ("b", "It's")], [("a", "Y")]] := by
  obtain ⟨q', hread, -, -, hcolumns, hlimit, hrows⟩ := parse_text_meaning spellable_several
    (by decide +kernel) (by decide +kernel) (by decide +kernel) (by decide +kernel)
  refine ⟨by decide +kernel, q', hread, hcolumns, hlimit, ?_⟩
  rw [hrows]
  decide +kernel

end Query

end FederatedQuery
