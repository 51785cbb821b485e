/-
  Runs of a session.

  * `Session.Sound`: every handle leads to an engine, and all names are in lower case; runs keep it
    (`Sound.run?`);
  * `run?_of_family`: through which of the handles of an engine a step goes makes no difference;
  * `run?_own`: nor do the steps of other engines in between;
  * `found_of_listed`: a source is found again by every name that is listed;
  * `sessions_are_machines`: a session answers as a machine of finite maps does, with these
    consequences.
-/
import FederatedQuery.Proofs.Engine.Registry
import FederatedQuery.Proofs.Text.LowerCase
import FederatedQuery.Source.Memory

namespace FederatedQuery

/-- The steps that neither make a handle nor an engine. -/
def Step.isLocal : Step → Bool
  | .clone | .default_ => false
  | _ => true

namespace Session

variable {s t : Session}

/-! ## Steps -/

theorem next?_eq_some {handle : Nat} {step : Step} {x : Reply × Session} :
    s.next? handle step = some x ↔ ∃ number e, s.handles[handle]? = some number ∧
      s.engines[number]? = some e ∧ seen (s.stepOn number e step) = x := by
  simp only [next?, step?, engine?, Option.map_map, Option.map_eq_some_iff, Option.bind_eq_bind,
    Option.bind_eq_some_iff, Option.some.injEq, Prod.exists, Function.comp_apply]
  constructor
  · rintro ⟨_, _, ⟨number, hn, e, he, heq⟩, h⟩
    cases heq
    exact ⟨_, _, hn, he, h⟩
  · rintro ⟨number, e, hn, he, h⟩
    exact ⟨number, e, ⟨number, hn, e, he, rfl⟩, h⟩

theorem put_self {number : Nat} {e : Engine} (he : s.engines[number]? = some e) :
    s.put number e = s := by
  obtain ⟨hlt, rfl⟩ := List.getElem?_eq_some_iff.1 he
  rw [put, List.set_getElem_self]

/-- A local step depends on nothing but its engine, and changes nothing else. -/
theorem stepOn_local (e : Engine) {step : Step} (hl : step.isLocal = true) :
    ∃ reply e', ∀ (s : Session) (number : Nat), s.engines[number]? = some e →
      seen (s.stepOn number e step) = (reply, s.put number e') := by
  cases step with
  | register name source =>
    simp only [stepOn, Engine.register]
    split
    · refine ⟨.silent (.failed (.duplicateSource (Text.lowerCase name))), e, fun s number hs => ?_⟩
      rw [put_self hs]
      rfl
    · exact ⟨.silent .done, { e with sources := e.sources.insert (Text.lowerCase name) source },
        fun _ _ _ => rfl⟩
  | replace name source =>
    exact ⟨.silent (.changed (e.sources.contains (Text.lowerCase name))),
      { e with sources := e.sources.insert (Text.lowerCase name) source }, fun _ _ _ => rfl⟩
  | deregister name =>
    simp only [stepOn, Engine.deregister]
    split
    · exact ⟨.silent (.changed true), { e with sources := e.sources.erase (Text.lowerCase name) },
        fun _ _ _ => rfl⟩
    · exact ⟨.silent (.changed false), e, fun _ _ _ => rfl⟩
  | sources =>
    refine ⟨.silent (.names e.names), e, fun s number hs => ?_⟩
    rw [put_self hs]
    rfl
  | query text => exact ⟨_, e, fun s number hs => by rw [put_self hs, stepOn, seen_ofResult]⟩
  | execute q => exact ⟨_, e, fun s number hs => by rw [put_self hs, stepOn, seen_ofResult]⟩
  | config =>
    refine ⟨.silent (.config e.config), e, fun s number hs => ?_⟩
    rw [put_self hs]
    rfl
  | clone | default_ => cases hl

theorem handles_stepOn (s : Session) (number : Nat) (e : Engine) (step : Step) :
    s.handles <+: (seen (s.stepOn number e step)).2.handles := by
  cases step with
  | register name source =>
    cases he : (e.register name source).value <;> simp [seen, stepOn, he, put]
  | clone | default_ => exact List.prefix_append _ _
  | _ => exact List.prefix_rfl

theorem handles_next? {handle : Nat} {step : Step} {reply : Reply}
    (h : s.next? handle step = some (reply, t)) : s.handles <+: t.handles := by
  obtain ⟨number, e, -, -, hstep⟩ := next?_eq_some.1 h
  have hprefix := s.handles_stepOn number e step
  rwa [hstep] at hprefix

theorem getElem?_put {number : Nat} {e : Engine} (he : s.engines[number]? = some e) (e' : Engine) :
    (s.put number e').engines[number]? = some e' := by
  obtain ⟨hlt, -⟩ := List.getElem?_eq_some_iff.1 he
  exact List.getElem?_set_self hlt

/-- A step changes no other engine, and only local steps change their own. -/
theorem engines_stepOn {number other : Nat} {e e' : Engine} (he : s.engines[number]? = some e)
    (he' : s.engines[other]? = some e') {step : Step}
    (hne : number = other → step.isLocal = false) :
    (seen (s.stepOn number e step)).2.engines[other]? = some e' := by
  cases hl : step.isLocal with
  | true =>
    obtain ⟨reply, changed, hstep⟩ := stepOn_local e hl
    have hother : number ≠ other := fun h => by simp [hne h] at hl
    rw [hstep s number he, ← he']
    exact List.getElem?_set_ne hother
  | false =>
    cases step with
    | clone => exact he'
    | default_ =>
      obtain ⟨hlt, -⟩ := List.getElem?_eq_some_iff.1 he'
      exact (List.getElem?_append_left hlt).trans he'
    | _ => cases hl

/-! ## Runs -/

theorem run?_cons_eq_some {handle : Nat} {step : Step} {steps : List (Nat × Step)}
    {replies : List Reply} :
    s.run? ((handle, step) :: steps) = some (replies, t) ↔ ∃ reply s' rest,
      s.next? handle step = some (reply, s') ∧ s'.run? steps = some (rest, t) ∧
        replies = reply :: rest := by
  simp only [run?, Option.bind_eq_bind, Option.bind_eq_some_iff, Prod.exists, Option.some.injEq,
    Prod.mk.injEq]
  constructor
  · rintro ⟨reply, s', hnext, rest, t', hrest, rfl, rfl⟩
    exact ⟨reply, s', rest, hnext, hrest, rfl⟩
  · rintro ⟨reply, s', rest, hnext, hrest, rfl⟩
    exact ⟨reply, s', hnext, rest, t, hrest, rfl, rfl⟩

theorem handles_run? {steps : List (Nat × Step)} {replies : List Reply}
    (h : s.run? steps = some (replies, t)) : s.handles <+: t.handles := by
  induction steps generalizing s replies with
  | nil => cases h; exact List.prefix_rfl
  | cons x steps ih =>
    obtain ⟨reply, s', rest, hnext, hrest, -⟩ := run?_cons_eq_some.1 h
    exact (handles_next? hnext).trans (ih hrest)

theorem getElem?_handles {handle number : Nat} (h : s.handles[handle]? = some number)
    (hp : s.handles <+: t.handles) : t.handles[handle]? = some number := by
  obtain ⟨more, hmore⟩ := hp
  rw [← hmore, List.getElem?_append_left (List.getElem?_eq_some_iff.1 h).1, h]

/-- **Handles of one engine** are as good as a single one: the same steps have the same replies and
    lead to the same session. -/
theorem run?_of_family {steps : List (Nat × Step)} {replies : List Reply} {handle number : Nat}
    (hhandle : s.handles[handle]? = some number) (hrun : s.run? steps = some (replies, t))
    (hsteps : ∀ x ∈ steps, t.handles[x.1]? = some number) :
    s.run? (steps.map fun x => (handle, x.2)) = some (replies, t) := by
  induction steps generalizing s replies with
  | nil => exact hrun
  | cons x steps ih =>
    obtain ⟨handle', step⟩ := x
    obtain ⟨reply, s', rest, hnext, hrest, rfl⟩ := run?_cons_eq_some.1 hrun
    obtain ⟨hx, hxs⟩ := List.forall_mem_cons.1 hsteps
    obtain ⟨number', e, hn, he, hstep⟩ := next?_eq_some.1 hnext
    have hnumber : number' = number :=
      Option.some.inj ((getElem?_handles hn (handles_run? hrun)).symm.trans hx)
    subst hnumber
    refine run?_cons_eq_some.2 ⟨reply, s', rest, ?_, ih ?_ hrest hxs, rfl⟩
    · exact next?_eq_some.2 ⟨_, e, hhandle, he, hstep⟩
    · exact getElem?_handles hhandle (handles_next? hnext)

/-- The steps of a run that are local to an engine, with their replies. -/
def own (handles : List Nat) (number : Nat) (steps : List (Nat × Step)) (replies : List Reply) :
    List ((Nat × Step) × Reply) :=
  (steps.zip replies).filter fun x => handles[x.1.1]? = some number && x.1.2.isLocal

/-- **Engines do not disturb each other**: the replies to the steps that are local to an engine are
    those of the same steps done alone, through a single handle. -/
theorem run?_own {v : Session} {steps : List (Nat × Step)} {replies : List Reply}
    {handle number : Nat} {e : Engine} (hs : s.engines[number]? = some e)
    (hv : v.engines[number]? = some e) (hhandle : v.handles[handle]? = some number)
    (hrun : s.run? steps = some (replies, t)) :
    ∃ u, v.run? ((own t.handles number steps replies).map fun x => (handle, x.1.2)) =
      some ((own t.handles number steps replies).map Prod.snd, u) ∧
        u.engines[number]? = t.engines[number]? := by
  induction steps generalizing s v e replies with
  | nil =>
    cases hrun
    exact ⟨v, rfl, hv.trans hs.symm⟩
  | cons x steps ih =>
    obtain ⟨handle', step⟩ := x
    obtain ⟨reply, s', rest, hnext, hrest, rfl⟩ := run?_cons_eq_some.1 hrun
    obtain ⟨number', e', hn, he, hstep⟩ := next?_eq_some.1 hnext
    have hfinal := getElem?_handles hn (handles_run? hrun)
    by_cases hown : number' = number ∧ step.isLocal = true
    · obtain ⟨rfl, hl⟩ := hown
      cases hs.symm.trans he
      obtain ⟨reply', changed, hlocal⟩ := stepOn_local e hl
      cases (hlocal s _ hs).symm.trans hstep
      obtain ⟨u, hu, hengine⟩ := ih (getElem?_put hs changed) (getElem?_put hv changed) hhandle hrest
      have hfirst : v.next? handle step = some (reply, v.put number' changed) :=
        next?_eq_some.2 ⟨number', e, hhandle, hv, hlocal v _ hv⟩
      refine ⟨u, ?_, hengine⟩
      rw [own, List.zip_cons_cons, List.filter_cons_of_pos (by simp [hfinal, hl])]
      exact run?_cons_eq_some.2 ⟨reply, _, _, hfirst, hu, rfl⟩
    · have hother := engines_stepOn he hs fun h => by simpa [h] using hown
      rw [hstep] at hother
      have hskip : ¬ (t.handles[handle']? = some number && step.isLocal) = true := by
        rw [hfinal]
        simpa using hown
      rw [own, List.zip_cons_cons, List.filter_cons_of_neg (by exact hskip)]
      exact ih hother hv hhandle hrest

end Session

/-! ## Sound sessions -/

/-- All sources stand under names in lower case. -/
def Engine.Lower (e : Engine) : Prop := ∀ name ∈ e.sources.names, Text.lowerCase name = name

namespace Engine.Lower

variable {e : Engine}

theorem insert (h : e.Lower) (name : String) (source : Source) :
    Lower { e with sources := e.sources.insert (Text.lowerCase name) source } := by
  intro name' hname
  obtain ⟨source', hsource⟩ := Dict.mem_names.1 hname
  rw [Dict.get?_insert] at hsource
  split at hsource
  · next heq => rw [heq, Text.lowerCase_lowerCase]
  · exact h name' (Dict.mem_names.2 ⟨_, hsource⟩)

theorem erase (h : e.Lower) (key : String) : Lower { e with sources := e.sources.erase key } := by
  intro name' hname
  obtain ⟨source', hsource⟩ := Dict.mem_names.1 hname
  rw [Dict.get?_erase] at hsource
  split at hsource
  · cases hsource
  · exact h name' (Dict.mem_names.2 ⟨_, hsource⟩)

theorem withConfig (config : EngineConfig) : (Engine.withConfig config).Lower :=
  fun _ hname => absurd hname List.not_mem_nil

end Engine.Lower

namespace Session

/-- A name, as it is, leads to a source: queries for it are answered from the source, no other source
    can be registered under it, and it can be removed by it. -/
def Finds (s : Session) (handle : Nat) (name : String) : Prop :=
  ∃ config source, s.next? handle .config = some (.silent (.config config), s) ∧
    (∀ q : Query, q.source = name → s.next? handle (.execute q) =
      some (Source.reply source config q, s)) ∧
    (∀ other, s.next? handle (.register name other) =
      some (.silent (.failed (.duplicateSource name)), s)) ∧
    ∃ t, s.next? handle (.deregister name) = some (.silent (.changed true), t)

/-- Every handle leads to an engine, and all names are in lower case. -/
structure Sound (s : Session) : Prop where
  handles : ∀ number ∈ s.handles, number < s.engines.length
  lower : ∀ e ∈ s.engines, e.Lower

namespace Sound

variable {s t : Session}

theorem start (config : EngineConfig) : Sound (.start config) where
  handles := by simp [Session.start]
  lower := by simpa [Session.start] using Engine.Lower.withConfig config

theorem put (h : Sound s) {e : Engine} (he : e.Lower) (number : Nat) : Sound (s.put number e) where
  handles := by simpa [Session.put] using h.handles
  lower e' hmem := (List.mem_or_eq_of_mem_set hmem).elim (h.lower e') fun heq => heq ▸ he

theorem addHandle (h : Sound s) {number : Nat} (hn : number < s.engines.length) :
    Sound (s.addHandle number).2 where
  handles number' hmem := by
    rcases List.mem_append.1 hmem with hmem | hmem
    · exact h.handles number' hmem
    · rwa [List.mem_singleton.1 hmem]
  lower := h.lower

theorem grow (h : Sound s) : Sound { s with engines := s.engines ++ [.withConfig {}] } where
  handles number hmem := by
    have hlt := h.handles number hmem
    simp only [List.length_append, List.length_singleton]
    omega
  lower e he := by
    rcases List.mem_append.1 he with he | he
    · exact h.lower e he
    · exact List.mem_singleton.1 he ▸ Engine.Lower.withConfig {}

/-- A step leaves a sound session behind. -/
theorem stepOn (h : Sound s) {number : Nat} {e : Engine} (he : s.engines[number]? = some e)
    (step : Step) : Sound (seen (s.stepOn number e step)).2 := by
  have hlower := h.lower e (List.mem_of_getElem? he)
  cases step with
  | register name source =>
    simp only [Session.stepOn, Engine.register]
    split
    · exact h
    · exact h.put (hlower.insert name source) number
  | replace name source => exact h.put (hlower.insert name source) number
  | deregister name =>
    simp only [Session.stepOn, Engine.deregister]
    split
    · exact h.put (hlower.erase _) number
    · exact h.put hlower number
  | clone => exact h.addHandle (List.getElem?_eq_some_iff.1 he).1
  | default_ => exact h.grow.addHandle (by simp)
  | _ => exact h

theorem run? (h : Sound s) {steps : List (Nat × Step)} {replies : List Reply}
    (hrun : s.run? steps = some (replies, t)) : Sound t := by
  induction steps generalizing s replies with
  | nil => cases hrun; exact h
  | cons x steps ih =>
    obtain ⟨reply, s', rest, hnext, hrest, -⟩ := run?_cons_eq_some.1 hrun
    obtain ⟨number, e, -, he, hstep⟩ := next?_eq_some.1 hnext
    have hnext := h.stepOn he x.2
    rw [hstep] at hnext
    exact ih hnext hrest

/-- Every handle can be used, for any step. -/
theorem exists_next? (h : Sound s) {handle number : Nat} (hn : s.handles[handle]? = some number) :
    ∃ e, s.engines[number]? = some e ∧
      ∀ step, s.next? handle step = some (seen (s.stepOn number e step)) := by
  have hlt := h.handles number (List.mem_of_getElem? hn)
  have he := List.getElem?_eq_getElem hlt
  exact ⟨_, he, fun step => next?_eq_some.2 ⟨number, _, hn, he, rfl⟩⟩

/-- **Listed names** are names by which their sources are found again. -/
theorem found_of_listed (h : Sound s) {handle number : Nat} (hn : s.handles[handle]? = some number)
    {names : List String} (hnames : s.next? handle .sources = some (.silent (.names names), s)) {name : String}
    (hname : name ∈ names) : s.Finds handle name := by
  obtain ⟨e, he, hstep⟩ := h.exists_next? hn
  rw [hstep] at hnames
  cases hnames
  have hmem : name ∈ e.sources.names := List.mem_mergeSort.1 hname
  have hlower : Text.lowerCase name = name := h.lower e (List.mem_of_getElem? he) name hmem
  obtain ⟨source, hsource⟩ := Dict.mem_names.1 hmem
  have hcontains : e.sources.contains name = true := by rw [Dict.contains, hsource]; rfl
  refine ⟨e.config, source, hstep _, fun q hq => ?_, fun other => ?_, ?_⟩
  · have hfound : e.sources.get? (Text.lowerCase q.source) = some source := by rw [hq, hlower, hsource]
    rw [hstep, Session.stepOn, seen_ofResult, Engine.reply_execute hfound]
  · rw [hstep]
    simp only [Session.stepOn, Engine.register, hlower, hcontains, if_true]
    rfl
  · rw [hstep]
    simp only [Session.stepOn, Engine.deregister, hlower, hcontains, if_true]
    exact ⟨_, rfl⟩

end Sound

end Session

/-! ## Sessions as machines -/

theorem replies_eq (config : EngineConfig) (steps : List (Nat × Step)) :
    ((Session.start config).run? steps).map Prod.fst =
      ((Machine.start config).run? steps).map Prod.fst := by
  have hrel := (Related.start config).run? steps
  generalize (Session.start config).run? steps = a at hrel ⊢
  generalize (Machine.start config).run? steps = b at hrel ⊢
  cases hrel with
  | none => rfl
  | some hab => exact congrArg some hab.1

/-- **A session is a machine of finite maps.**  Every run has the answers of the machine, and sources
    report what they report there: a query goes to the source that was stored last under its name.
    Wherever a run has led, every handle can be used for any step; steps through several handles of
    an engine have the replies, and leave the session, that they would through one of them; what is
    done to other engines changes neither the engine nor its replies; and listed names are found. -/
theorem sessions_are_machines (config : EngineConfig) :
    (∀ steps, ((Session.start config).run? steps).map Prod.fst =
      ((Machine.start config).run? steps).map Prod.fst) ∧
    ∀ earlier before s, (Session.start config).run? earlier = some (before, s) →
      ∀ handle number, s.handles[handle]? = some number →
        (∀ step, ∃ reply t, s.next? handle step = some (reply, t)) ∧
        (∀ steps replies t, s.run? steps = some (replies, t) →
          ((∀ x ∈ steps, t.handles[x.1]? = some number) →
            s.run? (steps.map fun x => (handle, x.2)) = some (replies, t)) ∧
          ∃ u, s.run? ((Session.own t.handles number steps replies).map fun x => (handle, x.1.2)) =
              some ((Session.own t.handles number steps replies).map Prod.snd, u) ∧
            u.engines[number]? = t.engines[number]?) ∧
        ∀ names, s.next? handle .sources = some (.silent (.names names), s) →
          ∀ name ∈ names, s.Finds handle name := by
  refine ⟨replies_eq config, fun earlier before s hearlier handle number hn => ?_⟩
  have hsound := (Session.Sound.start config).run? hearlier
  obtain ⟨e, he, hstep⟩ := hsound.exists_next? hn
  refine ⟨fun step => ⟨_, _, hstep step⟩, fun steps replies t hrun => ⟨?_, ?_⟩, ?_⟩
  · exact Session.run?_of_family hn hrun
  · exact Session.run?_own he he hn hrun
  · exact fun names hnames name hname => hsound.found_of_listed hn hnames hname

/-- Two handles of an engine that knows a source, and one of another engine. -/
def Session.shared (source : Source) : Session where
  engines := [{ sources := Dict.empty.insert (Text.lowerCase "A") source }, .withConfig {}]
  handles := [0, 0, 1]

/-- A source without tables that reports what it is asked for. -/
def Source.blank : Source where
  columns table := do
    Logged.note (.askedColumns table)
    pure []
  fetch request := do
    Logged.note (.fetched request)
    pure (.ok [])

/-- Steps through both handles of the first engine, with one of the other engine in between, and a
    query for a source that reports that it was asked. -/
theorem sessions_are_machines_shared :
    (Session.start {}).run? [(0, .register "A" .blank), (0, .clone), (1, .default_)] =
        some ([.silent .done, .silent (.handle 1), .silent (.handle 2)], .shared .blank) ∧
      ((Session.start {}).run? [(0, .replace "A" .blank),
          (0, .execute { source := "a", table := "t" })]).map Prod.fst =
        some [.silent (.changed false), {
          answer := .result { columns := [], rows := [] }
          reports := [.fetched { table := "t", columns := [], filters := [] }, .askedColumns "t"] }] ∧
      (Session.shared .blank).Finds 1 "a" ∧
      (∃ replies t,
        (Session.shared .blank).run? [(0, .replace "B" .blank), (1, .sources)] = some (replies, t) ∧
        (Session.shared .blank).run? [(1, .replace "B" .blank), (1, .sources)] = some (replies, t)) ∧
      ∃ first second third t u,
        (Session.shared .blank).run?
            [(0, .replace "B" .blank), (2, .register "C" .blank), (1, .sources)] =
          some ([first, second, third], t) ∧
        (Session.shared .blank).run? [(1, .replace "B" .blank), (1, .sources)] =
          some ([first, third], u) := by
  have hlower : Text.lowerCase "A" = "a" := by decide +kernel
  have hsame : Text.lowerCase "a" = Text.lowerCase "A" := by decide +kernel
  have hearlier : (Session.start {}).run? [(0, .register "A" .blank), (0, .clone), (1, .default_)] =
      some ([.silent .done, .silent (.handle 1), .silent (.handle 2)], .shared .blank) := rfl
  have hnames : (Session.shared .blank).next? 1 .sources =
      some (.silent (.names [Text.lowerCase "A"]), .shared .blank) :=
    congrArg (fun names => some (Reply.silent (.names names), Session.shared .blank))
      (List.mergeSort_singleton _)
  have hboth : (Session.shared .blank).run? [(0, .replace "B" .blank), (1, .sources)] =
      some (_, _) := rfl
  have hmixed : (Session.shared .blank).run?
      [(0, .replace "B" .blank), (2, .register "C" .blank), (1, .sources)] = some ([_, _, _], _) := rfl
  obtain ⟨hruns, hsound⟩ := sessions_are_machines {}
  obtain ⟨-, hrun, hfound⟩ := hsound _ _ _ hearlier 1 0 rfl
  obtain ⟨u, hown, -⟩ := (hrun _ _ _ hmixed).2
  refine ⟨hearlier, ?_, hfound _ hnames "a" (by simp [hlower]),
    ⟨_, _, hboth, (hrun _ _ _ hboth).1 ?_⟩, ⟨_, _, _, _, u, hmixed, hown⟩⟩
  · have hmachine : ((Machine.start {}).run? [(0, .replace "A" .blank),
        (0, .execute { source := "a", table := "t" })]).map Prod.fst =
        some [Registry.reply {} 1 (.replace "A" .blank),
          (Registry.after {} (.replace "A" .blank)).resolve { source := "a", table := "t" }] := rfl
    have hfirst : Registry.reply {} 1 (.replace "A" .blank) = .silent (.changed false) :=
      congrArg (Reply.silent ∘ Answer.changed) (decide_eq_false Finmap.notMem_empty)
    have hsecond := @Registry.resolve_replace {} .blank "A" { source := "a", table := "t" } hsame
    rw [hruns, hmachine, hfirst, hsecond]
    rfl
  · exact List.forall_mem_cons.2 ⟨rfl, List.forall_mem_cons.2 ⟨rfl, nofun⟩⟩

end FederatedQuery
