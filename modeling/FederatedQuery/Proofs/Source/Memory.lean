/-
  Tables in memory, as they are declared.

  A source in memory is built by declarations: the columns and rows of a table, or a field of a table
  that has to be pinned.  They may come in any order, and tables may be declared again.

  * `Declaration`, `MemorySource.built`: the declarations, and the source that they build;
  * `about name ds`: the declarations for one table, in whatever letter case;
  * `table?_built`: a table has the rows declared last and all of the fields ever required, and no
    declaration for another table matters;
  * `value_fetch_unknown`, `value_fetch_unpinned`, `value_fetch_pinned`: the answers to requests;
  * `fetch_of_required`: a required field stays required, and all rows of an answer agree in it.
-/
import FederatedQuery.Proofs.Predicate.Filtering
import FederatedQuery.Proofs.Predicate.Pinned
import FederatedQuery.Source.Memory
import Mathlib.Data.List.Induction

namespace FederatedQuery

namespace MemorySource

/-! ## Declarations -/

/-- What is said of a table. -/
inductive Declaration where
  /-- The columns and rows, in the place of earlier ones. -/
  | table (name : String) (columns : List String) (rows : List Row)
  /-- A field that every request has to pin. -/
  | required (name field : String)

namespace Declaration

/-- The name of the table, in lower case. -/
def key : Declaration → String
  | table name _ _ | required name _ => Text.lowerCase name

/-- The columns that are declared. -/
def columns? : Declaration → Option (List String)
  | table _ columns _ => some columns
  | required .. => none

/-- The rows that are declared. -/
def rows? : Declaration → Option (List Row)
  | table _ _ rows => some rows
  | required .. => none

/-- The field that has to be pinned, in lower case. -/
def field? : Declaration → Option String
  | table .. => none
  | required _ field => some (Text.lowerCase field)

end Declaration

/-- The source with one more declaration. -/
def declare (m : MemorySource) : Declaration → MemorySource
  | .table name columns rows => m.withTable name columns rows
  | .required name field => m.requireEquality name field

/-- The source that declarations build, the first one first. -/
def built (ds : List Declaration) : MemorySource := ds.foldl declare {}

/-- The declarations for the table with the given name. -/
def about (name : String) (ds : List Declaration) : List Declaration :=
  ds.filter fun d => d.key = Text.lowerCase name

/-- The table that declarations describe, all of them for the same table. -/
def tableOf (ds : List Declaration) : MemoryTable where
  columns := (ds.filterMap Declaration.columns?).getLast?.getD []
  rows := (ds.filterMap Declaration.rows?).getLast?.getD []
  required := ds.filterMap Declaration.field?

/-- The rows that were declared last for the table with the given name. -/
def lastRows (name : String) (ds : List Declaration) : List Row := (tableOf (about name ds)).rows

theorem mem_about {name : String} {ds : List Declaration} {d : Declaration} :
    d ∈ about name ds ↔ d ∈ ds ∧ d.key = Text.lowerCase name := by
  simp [about]

/-! ## The tables of a source -/

theorem table?_change (m : MemorySource) (name other : String) (f : MemoryTable → MemoryTable) :
    (m.change name f).table? other =
      if Text.lowerCase other = Text.lowerCase name then some (f ((m.table? name).getD {}))
      else m.table? other := by
  rw [table?, change, Dict.get?_insert]
  rfl

/-- A declaration adds to its own table. -/
theorem table?_declare {m : MemorySource} {d : Declaration} {name : String}
    {ds : List Declaration} (hd : d.key = Text.lowerCase name)
    (hm : (m.table? name).getD {} = tableOf ds) :
    (m.declare d).table? name = some (tableOf (ds ++ [d])) := by
  cases d with
  | table name' columns rows =>
    have hkey : Text.lowerCase name = Text.lowerCase name' := hd.symm
    have hname : m.table? name' = m.table? name := congrArg m.tables.get? hd
    rw [declare, withTable, table?_change, if_pos hkey, hname, hm]
    simp [tableOf, Declaration.columns?, Declaration.rows?, Declaration.field?]
  | required name' field =>
    have hkey : Text.lowerCase name = Text.lowerCase name' := hd.symm
    have hname : m.table? name' = m.table? name := congrArg m.tables.get? hd
    rw [declare, requireEquality, table?_change, if_pos hkey, hname, hm]
    simp [tableOf, Declaration.columns?, Declaration.rows?, Declaration.field?]

theorem table?_declare_other {d : Declaration} {name : String} (hd : d.key ≠ Text.lowerCase name)
    (m : MemorySource) : (m.declare d).table? name = m.table? name := by
  cases d with
  | table => rw [declare, withTable, table?_change, if_neg fun h => hd h.symm]
  | required => rw [declare, requireEquality, table?_change, if_neg fun h => hd h.symm]

/-- **The tables of a source** are those that are declared, each as its own declarations describe
    it. -/
theorem table?_built (ds : List Declaration) (name : String) :
    (built ds).table? name = if about name ds = [] then none else some (tableOf (about name ds)) := by
  -- on the number of declarations, the last one taken off
  induction ds using List.reverseRecOn with
  | nil => rfl
  | append_singleton ds d ih =>
    have hbuilt : built (ds ++ [d]) = (built ds).declare d := List.foldl_append
    by_cases hd : d.key = Text.lowerCase name
    · have habout : about name (ds ++ [d]) = about name ds ++ [d] := by simp [about, hd]
      have hsofar : ((built ds).table? name).getD {} = tableOf (about name ds) := by
        rw [ih]
        split
        · next h => rw [h]; rfl
        · rfl
      rw [hbuilt, table?_declare hd hsofar, habout, if_neg (by simp)]
    · have habout : about name (ds ++ [d]) = about name ds := by simp [about, hd]
      rw [hbuilt, table?_declare_other hd, ih, habout]

/-! ## Requests -/

theorem value_fetch_toSource (m : MemorySource) (request : SourceRequest) :
    (m.toSource.fetch request).value = (m.fetch request).value := by
  rw [toSource]
  rfl

/-- An unknown table has no rows. -/
theorem value_fetch_unknown {m : MemorySource} {request : SourceRequest}
    (ht : m.table? request.table = none) : (m.fetch request).value = .ok [] := by
  simp only [fetch, ht, Logged.value_pure]

/-- A request is refused for the first field that it does not pin. -/
theorem value_fetch_unpinned {m : MemorySource} {request : SourceRequest} {t : MemoryTable}
    {field : String} (ht : m.table? request.table = some t)
    (hu : MemoryTable.unpinned? t request.filters = some field) :
    (m.fetch request).value = .error (.source (.unpinned request.table field)) := by
  simp only [fetch, ht, hu, Logged.value_pure]

/-- Otherwise the answer is made of the rows that meet the filters, cut down to the columns asked
    for. -/
theorem value_fetch_pinned {m : MemorySource} {request : SourceRequest} {t : MemoryTable}
    (ht : m.table? request.table = some t)
    (hu : MemoryTable.unpinned? t request.filters = none) :
    (m.fetch request).value =
      .ok ((t.rows.filter fun row => request.filters.all (·.holds row)).map
        (Row.restrict request.columns)) := by
  simp only [fetch, ht, hu, Logged.value_bind, Logged.value_pure, value_filterRows]

theorem unpinned?_eq_none_iff {t : MemoryTable} {filters : List Predicate} :
    MemoryTable.unpinned? t filters = none ↔ ∀ field ∈ t.required, ∃ v, Pins filters field v := by
  rw [MemoryTable.unpinned?, List.find?_eq_none]
  refine forall₂_congr fun field _ => ?_
  rw [Option.isNone_iff_eq_none, requiredEquality_eq_none_iff, Classical.not_not]

/-- What is said of one table alone decides the answers to requests for it. -/
theorem fetch_congr {ds ds' : List Declaration} {request : SourceRequest}
    (h : about request.table ds' = about request.table ds) :
    (built ds').fetch request = (built ds).fetch request := by
  simp only [fetch, table?_built, h]

/-- A required field is one of those that the table asks for. -/
theorem mem_required {ds : List Declaration} {table name field : String}
    (h : .required table field ∈ ds) (hname : Text.lowerCase name = Text.lowerCase table) :
    Text.lowerCase field ∈ (tableOf (about name ds)).required :=
  List.mem_filterMap.2 ⟨_, mem_about.2 ⟨h, hname.symm⟩, rfl⟩

/-- **A required field stays required**, wherever its declaration stands among others.  A request that
    does not pin it is refused; all rows of an answer come from the rows declared last and have the
    one value to which the request pins it; and nothing that is said of other tables changes the
    answer. -/
theorem fetch_of_required {ds : List Declaration} {table field : String}
    (h : .required table field ∈ ds) {request : SourceRequest}
    (hname : Text.lowerCase request.table = Text.lowerCase table) :
    ((¬ ∃ v, Pins request.filters (Text.lowerCase field) v) →
      ∃ other, ((built ds).fetch request).value = .error (.source (.unpinned request.table other))) ∧
    (∀ rows, ((built ds).fetch request).value = .ok rows →
      ∃ v, Pins request.filters (Text.lowerCase field) v ∧
        ∀ r ∈ rows, ∃ full ∈ lastRows request.table ds, r = full.restrict request.columns ∧
          Text.lowerCase (full.value (Text.lowerCase field)) = Text.lowerCase v) ∧
    ∀ ds', about request.table ds' = about request.table ds →
      (built ds').fetch request = (built ds).fetch request := by
  have htable : (built ds).table? request.table = some (tableOf (about request.table ds)) := by
    rw [table?_built, if_neg (List.ne_nil_of_mem (mem_about.2 ⟨h, hname.symm⟩))]
  refine ⟨fun hpins => ?_, fun rows hrows => ?_, fun ds' => fetch_congr⟩
  · cases hu : MemoryTable.unpinned? (tableOf (about request.table ds)) request.filters with
    | some other => exact ⟨other, value_fetch_unpinned htable hu⟩
    | none => exact absurd (unpinned?_eq_none_iff.1 hu _ (mem_required h hname)) hpins
  · cases hu : MemoryTable.unpinned? (tableOf (about request.table ds)) request.filters with
    | some other => cases (value_fetch_unpinned htable hu).symm.trans hrows
    | none =>
      cases (value_fetch_pinned htable hu).symm.trans hrows
      obtain ⟨v, hv⟩ := unpinned?_eq_none_iff.1 hu _ (mem_required h hname)
      refine ⟨v, hv, fun r hr => ?_⟩
      obtain ⟨full, hfull, rfl⟩ := List.mem_map.1 hr
      obtain ⟨hmem, hmeets⟩ := List.mem_filter.1 hfull
      exact ⟨full, hmem, rfl, hv.lowerCase_value (List.all_eq_true.1 hmeets)⟩

/-- Pipelines of two projects, declared after the field that has to be pinned. -/
def pipelines : List Declaration :=
  [.required "PIPELINES" "Project",
    .table "pipelines" ["id", "project"]
      [.ofPairs [("id", "1"), ("project", "web")], .ofPairs [("id", "2"), ("project", "api")]],
    .required "builds" "id"]

/-- A request for the pipelines of one project. -/
def pipelinesOf (project : String) : SourceRequest where
  table := "PipeLines"
  columns := ["id"]
  filters := [.and [.eq "project" project]]

/-- An equality below an OR does not pin the project, one below an AND does. -/
theorem fetch_of_required_pipelines :
    (∃ other, ((built pipelines).fetch { pipelinesOf "api" with
        filters := [.or [.eq "project" "api"]] }).value =
      .error (.source (.unpinned "PipeLines" other))) ∧
    ∃ rows v, ((built pipelines).fetch (pipelinesOf "API")).value = .ok rows ∧ rows.length = 1 ∧
      ∀ r ∈ rows, ∃ full ∈ lastRows "PipeLines" pipelines, r = full.restrict ["id"] ∧
        Text.lowerCase (full.value (Text.lowerCase "Project")) = Text.lowerCase v := by
  have hmem : Declaration.required "PIPELINES" "Project" ∈ pipelines := List.mem_cons_self
  have hname : Text.lowerCase "PipeLines" = Text.lowerCase "PIPELINES" := by decide +kernel
  constructor
  · have hfree : ¬ ∃ v, Pins [.or [.eq "project" "api"]] (Text.lowerCase "Project") v :=
      requiredEquality_eq_none_iff.1 rfl
    exact (fetch_of_required hmem (by exact hname)).1 hfree
  · have hlength : (((built pipelines).fetch (pipelinesOf "API")).value.map List.length).toOption =
        some 1 := by decide +kernel
    cases hrows : ((built pipelines).fetch (pipelinesOf "API")).value with
    | error e => rw [hrows] at hlength; cases hlength
    | ok rows =>
      rw [hrows] at hlength
      obtain ⟨v, -, hv⟩ := (fetch_of_required hmem (by exact hname)).2.1 rows hrows
      exact ⟨rows, v, rfl, Option.some.inj hlength, hv⟩

end MemorySource

end FederatedQuery
