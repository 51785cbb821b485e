/-
  Engines as finite maps.

  What an engine answers hangs on its settings, on the sources under names in lower case and on what
  these give when they are asked, and not on how it keeps them.

  * `reports`: what sources report of a run; `Reply`: what can be seen of a step, its answer and what
    sources report;
  * `Source.reply`: what comes of a query that goes to a source;
  * `Registry`: settings and a finite map of sources; `Registry.reply` and `Registry.after` say what
    comes of a step and what it leaves behind;
  * `Machine`: a registry for each family of handles: a clone joins the family of its original, a
    default handle begins one;
  * `Represents`: the registry that an engine stands for, `Related`: the machine that a session
    stands for;
  * `Related.stepOn`, `Related.next?`: a step of the session is one of the machine;
  * `Related.run?`: so is a run.
-/
import FederatedQuery.Engine.Session
import FederatedQuery.Proofs.Engine.Residual
import Mathlib.Data.Finmap
import Mathlib.Data.Finset.Sort
import Mathlib.Data.List.Forall2
import Mathlib.Data.String.Basic

namespace FederatedQuery

/-! ## Reports -/

/-- Whether a source reports that it was asked. -/
def Activity.isReport : Activity → Bool
  | .event _ => false
  | .fetched _ | .askedColumns _ => true

/-- What sources report of a run, in order. -/
def reports {α : Type} (x : Logged Activity α) : List Activity := x.log.filter Activity.isReport

section

variable {α β : Type}

theorem reports_pure (a : α) : reports (pure a) = [] := rfl

theorem reports_bind (x : Logged Activity α) (f : α → Logged Activity β) :
    reports (x >>= f) = reports x ++ reports (f x.value) := List.filter_append ..

theorem reports_bind_pure (x : Logged Activity α) (f : α → β) :
    reports (x >>= fun a => pure (f a)) = reports x := by
  rw [reports_bind, reports_pure, List.append_nil]

/-- Entries of the log are no reports. -/
theorem reports_relabel (x : Logged Event α) : reports (x.relabel .event) = [] := by
  rw [reports, Logged.relabel, List.filter_map]
  exact List.map_eq_nil_iff.2 (List.filter_eq_nil_iff.2 fun _ _ => Bool.false_ne_true)

end

/-- What can be seen of a step: its answer, and what sources report. -/
structure Reply where
  answer : Answer
  reports : List Activity := []

/-- An answer for which no source is asked. -/
def Reply.silent (answer : Answer) : Reply where
  answer := answer

/-- What can be seen of a query. -/
def Reply.ofResult (x : Logged Activity (Except QueryError QueryResult)) : Reply where
  answer := .ofResult x.value
  reports := FederatedQuery.reports x

/-- What comes of a query that goes to a source.  The source is asked for the request.  An error that
    it gives is passed on; of the rows that it gives the answer shows those that the query selects,
    if the filters are applied once more, and otherwise the first ones. -/
def Source.reply (s : Source) (config : EngineConfig) (q : Query) : Reply :=
  let asked := s.fetch (Engine.requestUnder config q)
  match asked.value with
  | .error error => { answer := .failed error, reports := reports asked }
  | .ok given => {
      answer := .result {
        columns := if q.columns = [] then (s.columns q.table).value else q.columns
        rows := (if config.residualFiltering then q.select given else Engine.cut q.limit given).map
          (Row.restrict q.columns) }
      reports := reports asked ++ if q.columns = [] then reports (s.columns q.table) else [] }

/-! ## Registries -/

/-- Settings, and sources under names in lower case. -/
structure Registry where
  config : EngineConfig := {}
  sources : Finmap fun _ : String => Source := ∅

namespace Registry

/-- What comes of a query: it goes to the source stored under its name, if there is one. -/
def resolve (r : Registry) (q : Query) : Reply :=
  match r.sources.lookup (Text.lowerCase q.source) with
  | some source => source.reply r.config q
  | none => .silent (.failed (.unknownSource (Text.lowerCase q.source)))

/-- What comes of a statement: what comes of its query, if it may be read and can be. -/
def resolveText (r : Registry) (text : String) : Reply :=
  match validateStatement text r.config.maxStatementLength, (Statement.parse text).value with
  | .error error, _ => .silent (.failed error)
  | .ok (), .error error => .silent (.failed (.statement error))
  | .ok (), .ok q => r.resolve q

/-- What comes of a step, given the number of a new handle. -/
def reply (r : Registry) (handle : Nat) : Step → Reply
  | .register name _ => .silent <|
    if Text.lowerCase name ∈ r.sources then .failed (.duplicateSource (Text.lowerCase name)) else .done
  | .replace name _ | .deregister name => .silent (.changed (Text.lowerCase name ∈ r.sources))
  | .sources => .silent (.names r.sources.keys.sort)
  | .query text => r.resolveText text
  | .execute q => r.resolve q
  | .config => .silent (.config r.config)
  | .clone | .default_ => .silent (.handle handle)

/-- What a step leaves behind: only three kinds of steps change the map. -/
def after (r : Registry) : Step → Registry
  | .register name source =>
    if Text.lowerCase name ∈ r.sources then r
    else { r with sources := r.sources.insert (Text.lowerCase name) source }
  | .replace name source => { r with sources := r.sources.insert (Text.lowerCase name) source }
  | .deregister name => { r with sources := r.sources.erase (Text.lowerCase name) }
  | _ => r

/-- A query goes to the source that was stored last under its name. -/
theorem resolve_replace (r : Registry) (source : Source) {name : String} {q : Query}
    (h : Text.lowerCase q.source = Text.lowerCase name) :
    (r.after (.replace name source)).resolve q = source.reply r.config q := by
  rw [resolve, after, h]
  dsimp only
  rw [Finmap.lookup_insert]

end Registry

/-- A registry for each family of handles. -/
structure Machine where
  families : List Registry
  /-- The number of the family of each handle. -/
  handles : List Nat

namespace Machine

/-- One family with one handle. -/
def start (config : EngineConfig) : Machine where
  families := [{ config }]
  handles := [0]

/-- What a step through a handle of a family leaves behind. -/
def after (m : Machine) (family : Nat) (r : Registry) : Step → Machine
  | .clone => { m with handles := m.handles ++ [family] }
  | .default_ =>
    { families := m.families ++ [{}], handles := m.handles ++ [m.families.length] }
  | step => { m with families := m.families.set family (r.after step) }

/-- A step through a handle, if there is such a handle. -/
def next? (m : Machine) (handle : Nat) (step : Step) : Option (Reply × Machine) := do
  let family ← m.handles[handle]?
  let r ← m.families[family]?
  some (r.reply m.handles.length step, m.after family r step)

/-- Steps through handles one after the other. -/
def run? (m : Machine) : List (Nat × Step) → Option (List Reply × Machine)
  | [] => some ([], m)
  | (handle, step) :: steps => do
    let (reply, m) ← m.next? handle step
    let (replies, m) ← m.run? steps
    some (reply :: replies, m)

end Machine

namespace Session

/-- What can be seen of a step, and what it leaves behind. -/
def seen (x : Logged Activity (Answer × Session)) : Reply × Session :=
  ({ answer := x.value.1, reports := reports x }, x.value.2)

/-- A step through a handle, if there is such a handle. -/
def next? (s : Session) (handle : Nat) (step : Step) : Option (Reply × Session) :=
  (s.step? handle step).map seen

theorem seen_ofResult (x : Logged Activity (Except QueryError QueryResult)) (s : Session) :
    seen (do
      let result ← x
      pure (.ofResult result, s)) = (Reply.ofResult x, s) := by
  rw [seen, reports_bind_pure]
  rfl

/-- Steps through handles one after the other. -/
def run? (s : Session) : List (Nat × Step) → Option (List Reply × Session)
  | [] => some ([], s)
  | (handle, step) :: steps => do
    let (reply, s) ← s.next? handle step
    let (replies, s) ← s.run? steps
    some (reply :: replies, s)

end Session

/-! ## Queries -/

theorem Engine.cut_map (limit : Nat) (f : Row → Row) (rows : List Row) :
    cut limit (rows.map f) = (cut limit rows).map f := by
  rw [cut, cut]
  split
  · rfl
  · exact List.map_take.symm

theorem Query.select_eq_cut (q : Query) (rows : List Row) :
    q.select rows = Engine.cut q.limit (rows.filter fun r => r.Meets q.filters) := rfl

namespace Engine

variable {config : EngineConfig} {s : Source} {q : Query}

theorem reports_secondPass (config : EngineConfig) (filters : List Predicate) (rows : List Row) :
    reports (secondPass config filters rows) = [] := by
  rw [secondPass]
  split
  · rw [refilter, reports_bind, reports_relabel]
    rfl
  · rfl

theorem reports_shownColumns (s : Source) (q : Query) :
    reports (shownColumns s q) = if q.columns = [] then reports (s.columns q.table) else [] := by
  simp only [shownColumns, List.isEmpty_iff, apply_ite reports, reports_pure]

/-- **An answer** is what comes of asking the source. -/
theorem reply_answer (config : EngineConfig) (s : Source) (q : Query) :
    Reply.ofResult (answer config s q) = s.reply config q := by
  rw [Source.reply, Reply.ofResult]
  cases h : (s.fetch (requestUnder config q)).value with
  | error error =>
    rw [answer_of_error h, reports_bind_pure]
    rfl
  | ok given =>
    have hreports : reports (answer config s q) = reports (s.fetch (requestUnder config q)) ++
        if q.columns = [] then reports (s.columns q.table) else [] := by
      have hcompleted (n : Nat) : reports (log (.completed n)) = [] := rfl
      simp only [answer_of_ok h, reports_bind, reports_secondPass, reports_shownColumns, hcompleted,
        reports_pure, List.append_nil, List.nil_append]
    rw [hreports, value_answer h, cut_map]
    simp only [Answer.ofResult, List.isEmpty_iff, Query.select_eq_cut, apply_ite (cut q.limit)]

variable {e : Engine}

theorem reply_execute (known : e.sources.get? (Text.lowerCase q.source) = some s) :
    Reply.ofResult (e.execute q) = s.reply e.config q := by
  rw [execute_of_known known, ← reply_answer, Reply.ofResult, reports_bind]
  rfl

theorem reply_execute_unknown (unknown : e.sources.get? (Text.lowerCase q.source) = none) :
    Reply.ofResult (e.execute q) = .silent (.failed (.unknownSource (Text.lowerCase q.source))) := by
  rw [execute_of_unknown unknown]
  rfl

end Engine

/-! ## Engines and registries -/

theorem Dict.mem_names {α : Type} {d : Dict α} {name : String} :
    name ∈ d.names ↔ ∃ a, d.get? name = some a := by
  rw [names, get?]
  induction d.entries with
  | nil => simp
  | cons entry rest ih =>
    obtain ⟨n, v⟩ := entry
    rw [lookup_cons_eq, List.map_cons, List.mem_cons, ih]
    by_cases h : name = n <;> simp [h]

/-- An engine and a registry hold the same. -/
structure Represents (e : Engine) (r : Registry) : Prop where
  config_eq : r.config = e.config
  lookup_eq : ∀ key, r.sources.lookup key = e.sources.get? key

namespace Represents

variable {e : Engine} {r : Registry}

theorem mem_iff (h : Represents e r) {key : String} :
    key ∈ r.sources ↔ e.sources.contains key = true := by
  rw [Finmap.mem_iff, Dict.contains, Option.isSome_iff_exists, h.lookup_eq]

theorem contains_eq (h : Represents e r) {key : String} :
    e.sources.contains key = decide (key ∈ r.sources) := by
  rw [Bool.eq_iff_iff, decide_eq_true_iff, h.mem_iff]

theorem names_eq (h : Represents e r) : e.names = r.sources.keys.sort := by
  have hmem : ∀ key, key ∈ e.sources.names ↔ key ∈ r.sources.keys.sort := fun key => by
    rw [Finset.mem_sort, Finmap.mem_keys, Finmap.mem_iff, h.lookup_eq, Dict.mem_names]
  have hperm : e.sources.names.Perm r.sources.keys.sort :=
    (List.perm_ext_iff_of_nodup e.sources.nodup (Finset.sort_nodup _ _)).2 hmem
  have hsorted : e.names.Pairwise (· ≤ ·) := by
    have hle : ∀ a b c : String, decide (a ≤ b) → decide (b ≤ c) → decide (a ≤ c) := by
      simpa using fun a b c => le_trans
    have htotal : ∀ a b : String, decide (a ≤ b) || decide (b ≤ a) := by simpa using le_total
    exact (List.pairwise_mergeSort hle htotal _).imp of_decide_eq_true
  refine List.Perm.eq_of_pairwise (fun _ _ _ _ hab hba => le_antisymm hab hba) hsorted
    (Finset.pairwise_sort _ _) ?_
  exact (List.mergeSort_perm _ _).trans hperm

theorem execute_eq (h : Represents e r) (q : Query) : Reply.ofResult (e.execute q) = r.resolve q := by
  rw [Registry.resolve, h.lookup_eq, h.config_eq]
  cases hs : e.sources.get? (Text.lowerCase q.source) with
  | some source => exact Engine.reply_execute hs
  | none => exact Engine.reply_execute_unknown hs

theorem query_eq (h : Represents e r) (text : String) :
    Reply.ofResult (e.query text) = r.resolveText text := by
  rw [Registry.resolveText, h.config_eq, Engine.query]
  cases validateStatement text e.config.maxStatementLength with
  | error => rfl
  | ok =>
    have hvalue : ((Statement.parse text).relabel Activity.event).value =
      (Statement.parse text).value := rfl
    dsimp only
    rw [Reply.ofResult, reports_bind, reports_relabel, Logged.value_bind, hvalue, List.nil_append]
    cases (Statement.parse text).value with
    | error => rfl
    | ok q => exact h.execute_eq q

theorem insert (h : Represents e r) (key : String) (source : Source) :
    Represents { e with sources := e.sources.insert key source }
      { r with sources := r.sources.insert key source } where
  config_eq := h.config_eq
  lookup_eq key' := by
    rw [Dict.get?_insert]
    split
    · next heq => rw [heq, Finmap.lookup_insert]
    · next hne => rw [Finmap.lookup_insert_of_ne _ hne, h.lookup_eq]

theorem erase (h : Represents e r) (key : String) :
    Represents { e with sources := e.sources.erase key }
      { r with sources := r.sources.erase key } where
  config_eq := h.config_eq
  lookup_eq key' := by
    rw [Dict.get?_erase]
    split
    · next heq => rw [heq, Finmap.lookup_erase]
    · next hne => rw [Finmap.lookup_erase_ne hne, h.lookup_eq]

theorem erase_of_absent (h : Represents e r) {key : String}
    (ha : e.sources.contains key = false) :
    Represents e { r with sources := r.sources.erase key } where
  config_eq := h.config_eq
  lookup_eq key' := by
    by_cases heq : key' = key
    · rw [heq, Finmap.lookup_erase]
      exact (Option.isSome_eq_false_iff.1 ha |> Option.isNone_iff_eq_none.1).symm
    · rw [Finmap.lookup_erase_ne heq, h.lookup_eq]

theorem withConfig (config : EngineConfig) : Represents (.withConfig config) { config } where
  config_eq := rfl
  lookup_eq _ := rfl

end Represents

/-! ## Sessions and machines -/

/-- A session and a machine with the same handles, whose engines and families hold the same. -/
structure Related (s : Session) (m : Machine) : Prop where
  handles_eq : m.handles = s.handles
  families : List.Forall₂ Represents s.engines m.families

theorem forall₂_set {α β : Type} {R : α → β → Prop} {l : List α} {l' : List β}
    (h : List.Forall₂ R l l') (i : Nat) {a : α} {b : β} (hab : R a b) :
    List.Forall₂ R (l.set i a) (l'.set i b) := by
  induction h generalizing i with
  | nil => exact .nil
  | cons hr hrs ih =>
    cases i with
    | zero => exact .cons hab hrs
    | succ i => exact .cons hr (ih i)

theorem forall₂_getElem?_eq_some {α β : Type} {R : α → β → Prop} {l : List α} {l' : List β}
    (h : List.Forall₂ R l l') {i : Nat} {a : α} (ha : l[i]? = some a) :
    ∃ b, l'[i]? = some b ∧ R a b := by
  induction h generalizing i with
  | nil => cases ha
  | cons hr _ ih =>
    cases i with
    | zero => cases ha; exact ⟨_, rfl, hr⟩
    | succ i => exact ih ha

namespace Related

variable {s : Session} {m : Machine}

theorem start (config : EngineConfig) : Related (.start config) (.start config) where
  handles_eq := rfl
  families := .cons (.withConfig config) .nil

theorem put (h : Related s m) {e : Engine} {r : Registry} (her : Represents e r) (number : Nat) :
    Related (s.put number e) { m with families := m.families.set number r } where
  handles_eq := h.handles_eq
  families := forall₂_set h.families number her

/-- A step that leaves everything as it is. -/
theorem keep (h : Related s m) {r : Registry} {number : Nat} (hr : m.families[number]? = some r) :
    Related s { m with families := m.families.set number r } := by
  obtain ⟨hlt, rfl⟩ := List.getElem?_eq_some_iff.1 hr
  rw [List.set_getElem_self]
  exact h

theorem addHandle (h : Related s m) (number : Nat) :
    Related { s with handles := s.handles ++ [number] } { m with handles := m.handles ++ [number] } where
  handles_eq := congrArg (· ++ [number]) h.handles_eq
  families := h.families

/-- **A step of an engine** is answered as its registry says, and leaves that registry behind. -/
theorem stepOn (h : Related s m) {e : Engine} {r : Registry} {number : Nat} (her : Represents e r)
    (hr : m.families[number]? = some r) (step : Step) :
    (Session.seen (s.stepOn number e step)).1 = r.reply m.handles.length step ∧
      Related (Session.seen (s.stepOn number e step)).2 (m.after number r step) := by
  have hnew : Reply.silent (.handle s.handles.length) = .silent (.handle m.handles.length) := by
    rw [h.handles_eq]
  have hchanged (key : String) : Reply.silent (.changed (e.sources.contains key)) =
      .silent (.changed (key ∈ r.sources)) := by rw [her.contains_eq]
  cases step with
  | register name source =>
    have hmem : Text.lowerCase name ∈ r.sources ↔
        e.sources.contains (Text.lowerCase name) = true := her.mem_iff
    simp only [Session.stepOn, Engine.register, Registry.reply, Machine.after, Registry.after, hmem]
    split
    · exact ⟨rfl, h.keep hr⟩
    · exact ⟨rfl, h.put (her.insert _ source) number⟩
  | replace name source => exact ⟨hchanged _, h.put (her.insert _ source) number⟩
  | deregister name =>
    have hreply := hchanged (Text.lowerCase name)
    simp only [Session.stepOn, Engine.deregister, Registry.reply, Machine.after, Registry.after,
      ← hreply]
    split
    · next hpresent =>
      rw [hpresent]
      exact ⟨rfl, h.put (her.erase _) number⟩
    · next habsent =>
      have hfalse := Bool.eq_false_iff.2 habsent
      rw [hfalse]
      exact ⟨rfl, h.put (her.erase_of_absent hfalse) number⟩
  | sources => exact ⟨congrArg (Reply.silent ∘ Answer.names) her.names_eq, h.keep hr⟩
  | query text =>
    rw [Session.stepOn, Session.seen_ofResult]
    exact ⟨her.query_eq text, h.keep hr⟩
  | execute q =>
    rw [Session.stepOn, Session.seen_ofResult]
    exact ⟨her.execute_eq q, h.keep hr⟩
  | config => exact ⟨congrArg (Reply.silent ∘ Answer.config) her.config_eq.symm, h.keep hr⟩
  | clone => exact ⟨hnew, h.addHandle number⟩
  | default_ =>
    have hlength := h.families.length_eq
    have hgrown : Related { s with engines := s.engines ++ [.withConfig {}] }
        { m with families := m.families ++ [{}] } :=
      ⟨h.handles_eq, List.rel_append h.families (.cons (.withConfig {}) .nil)⟩
    refine ⟨hnew, ?_⟩
    rw [Machine.after, ← hlength]
    exact hgrown.addHandle s.engines.length

/-- **A step of a session** is one of its machine. -/
theorem next? (h : Related s m) (handle : Nat) (step : Step) :
    Option.Rel (fun a b => a.1 = b.1 ∧ Related a.2 b.2) (s.next? handle step) (m.next? handle step) := by
  unfold Session.next? Session.step? Session.engine? Machine.next?
  rw [h.handles_eq]
  cases hn : s.handles[handle]? with
  | none => exact .none
  | some number =>
    cases he : s.engines[number]? with
    | none =>
      have hm : m.families[number]? = none := by
        rw [List.getElem?_eq_none_iff] at he ⊢
        rwa [← h.families.length_eq]
      simp [hm, he]
    | some e =>
      obtain ⟨r, hr, her⟩ := forall₂_getElem?_eq_some h.families he
      have hstep := h.stepOn her hr step
      rw [h.handles_eq] at hstep
      simpa [hr, he] using hstep

/-- **A run of a session** is one of its machine. -/
theorem run? (h : Related s m) (steps : List (Nat × Step)) :
    Option.Rel (fun a b => a.1 = b.1 ∧ Related a.2 b.2) (s.run? steps) (m.run? steps) := by
  induction steps generalizing s m with
  | nil => exact .some ⟨rfl, h⟩
  | cons x steps ih =>
    obtain ⟨handle, step⟩ := x
    rw [Session.run?, Machine.run?]
    have hnext := h.next? handle step
    generalize s.next? handle step = a at hnext ⊢
    generalize m.next? handle step = b at hnext ⊢
    cases hnext with
    | none => exact .none
    | @some a b hab =>
      obtain ⟨answer, s'⟩ := a
      obtain ⟨answer', m'⟩ := b
      obtain ⟨rfl, hrel⟩ := hab
      have hrest := ih hrel
      simp only [bind, Option.bind_some]
      generalize s'.run? steps = a at hrest ⊢
      generalize m'.run? steps = b at hrest ⊢
      cases hrest with
      | none => exact .none
      | some hab => exact .some ⟨congrArg _ hab.1, hab.2⟩

end Related

end FederatedQuery
