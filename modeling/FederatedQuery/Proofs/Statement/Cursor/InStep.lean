/-
  Readings with a cursor keep in step with readings from a list.

  * `Cursor.Sound`: what holds of a cursor at all times;
  * `Stands all ts d c`: a sound cursor on the tokens `all`, in front of `ts`, with `d` parentheses
    open.  There it cannot fault, and its position is known;
  * `Tracks all x ts d out`: from there the reading `x` comes to an end, with the result of `out`,
    in front of the tokens that `out` leaves.  `Tracks.bind`, `Tracks.next` and `Tracks.stop` put
    readings in sequence;
  * `tracks_columns`, `tracks_chain`: loops.  Every round takes them further, so that there is enough
    fuel when there is more of it than tokens;
  * `tracks_primary`: conditions, as far as parentheses may be opened;
  * `tracks_parse`: statements.
-/
import FederatedQuery.Proofs.Statement.Cursor
import FederatedQuery.Proofs.Statement.Repeated

namespace FederatedQuery

/-! ## Runs -/

namespace Reading

variable {α β : Type} {x : Reading α} {f : α → Reading β} {c c' : Cursor}

theorem runFrom_bind_ok {a : α} (h : x.runFrom c = some (.ok a, c')) :
    runFrom (x >>= f) c = (f a).runFrom c' := by
  have hx : (ExceptT.run x).run c = some (.ok a, c') := h
  simp [runFrom, ExceptT.run_bind, StateT.run_bind, hx]

theorem runFrom_bind_error {e : Cursor.Halt} (h : x.runFrom c = some (.error e, c')) :
    runFrom (x >>= f) c = some (.error e, c') := by
  have hx : (ExceptT.run x).run c = some (.error e, c') := h
  simp [runFrom, ExceptT.run_bind, StateT.run_bind, hx]

theorem runFrom_bind_none (h : x.runFrom c = none) : runFrom (x >>= f) c = none := by
  have hx : (ExceptT.run x).run c = none := h
  simp [runFrom, ExceptT.run_bind, StateT.run_bind, hx]

end Reading

namespace Cursor

/-- To move on does not fault where there is a token at all, the end of the text counted. -/
theorem runFrom_advance {c : Cursor} (h : 0 < c.tokens.length) : advance.runFrom c =
    some (.ok (), if c.place.position < c.tokens.length - 1 then
      { c with
        place := { c.place with position := c.place.position + 1 }
        passed := c.place :: c.passed }
      else c) := by
  have hlast : (minus c.tokens.length 1).runFrom c = some (.ok (c.tokens.length - 1), c) := by
    rw [minus, if_pos (Nat.succ_le_of_lt h)]
    rfl
  change Reading.runFrom (minus c.tokens.length 1 >>= fun last =>
    if c.place.position < last then goTo { c.place with position := c.place.position + 1 }
    else pure ()) c = _
  rw [Reading.runFrom_bind_ok hlast]
  split <;> rfl

theorem runFrom_closeParenthesis (c : Cursor) : closeParenthesis.runFrom c =
    if 1 ≤ c.place.openParentheses then
      some (.ok (), { c with
        place := { c.place with openParentheses := c.place.openParentheses - 1 }
        passed := c.place :: c.passed })
    else some (.error .fault, c) := by
  change Reading.runFrom (minus c.place.openParentheses 1 >>= fun n =>
    goTo { c.place with openParentheses := n }) c = _
  rw [minus]
  split <;> rfl

/-- The number of tokens between that at the cursor and the end of the text. -/
def remaining : Reading Nat := do
  let c ← get
  minus (← minus c.tokens.length c.place.position) 2

/-- To count them faults at the end of the text alone. -/
theorem runFrom_remaining (c : Cursor) : remaining.runFrom c =
    some (if c.place.position < c.tokens.length - 1 then
      .ok (c.tokens.length - c.place.position - 2) else .error .fault, c) := by
  change Reading.runFrom (minus c.tokens.length c.place.position >>= fun n => minus n 2) c = _
  by_cases h : c.place.position ≤ c.tokens.length
  · rw [minus, if_pos h]
    change Reading.runFrom (minus (c.tokens.length - c.place.position) 2) c = _
    rw [minus]
    split
    · rw [if_pos (by omega)]
      rfl
    · rw [if_neg (by omega)]
      rfl
  · rw [minus, if_neg h, if_neg (by omega)]
    rfl

/-! ## The invariant -/

/-- The places at which a cursor is and has been, the latest one first. -/
def places (c : Cursor) : List Place := c.place :: c.passed

/-- What holds of a cursor at all times. -/
structure Sound (c : Cursor) : Prop where
  /-- All of its places are among the tokens. -/
  inside : ∀ p ∈ c.places, p.position < c.tokens.length
  /-- It never goes back. -/
  forward : c.places.Pairwise fun later earlier => earlier.position ≤ later.position
  /-- No more parentheses are open than are allowed. -/
  within : ∀ p ∈ c.places, p.openParentheses ≤ maxParentheses
  /-- Every round of a loop takes it further. -/
  advancing : ∀ r ∈ c.rounds, r.start < r.stop

theorem Sound.goTo {c : Cursor} (h : c.Sound) {place : Place}
    (hforward : c.place.position ≤ place.position) (hinside : place.position < c.tokens.length)
    (hwithin : place.openParentheses ≤ maxParentheses) :
    Sound { c with place, passed := c.place :: c.passed } where
  inside := List.forall_mem_cons.2 ⟨hinside, h.inside⟩
  forward := by
    refine List.pairwise_cons.2 ⟨fun p hp => ?_, h.forward⟩
    rcases List.mem_cons.1 hp with rfl | hp
    · exact hforward
    · exact Nat.le_trans ((List.pairwise_cons.1 h.forward).1 p hp) hforward
  within := List.forall_mem_cons.2 ⟨hwithin, h.within⟩
  advancing := h.advancing

theorem Sound.endRound {c : Cursor} (h : c.Sound) {start : Nat} (hs : start < c.place.position)
    (loop : Loop) : Sound { c with rounds := { loop, start, stop := c.place.position } :: c.rounds } where
  inside := h.inside
  forward := h.forward
  within := h.within
  advancing := List.forall_mem_cons.2 ⟨hs, h.advancing⟩

/-- Nothing is struck from the record. -/
structure Keeps (c c' : Cursor) : Prop where
  places : c.places <:+ c'.places
  rounds : c.rounds <:+ c'.rounds

namespace Keeps

theorem refl (c : Cursor) : c.Keeps c := ⟨List.suffix_refl _, List.suffix_refl _⟩

theorem trans {c c' c'' : Cursor} (h : c.Keeps c') (h' : c'.Keeps c'') : c.Keeps c'' :=
  ⟨h.places.trans h'.places, h.rounds.trans h'.rounds⟩

theorem goTo (c : Cursor) (place : Place) : c.Keeps { c with place, passed := c.place :: c.passed } :=
  ⟨List.suffix_cons _ _, List.suffix_refl _⟩

theorem endRound (c : Cursor) (loop : Loop) (start : Nat) :
    c.Keeps { c with rounds := { loop, start, stop := c.place.position } :: c.rounds } :=
  ⟨List.suffix_refl _, List.suffix_cons _ _⟩

end Keeps

/-- The cursor stands in front of `ts`, with `d` parentheses open. -/
structure Stands (all : List (Option Token)) (ts : List Token) (d : Nat) (c : Cursor) : Prop where
  sound : c.Sound
  tokens_eq : c.tokens = all
  rest_eq : all.drop c.place.position = ts.map some ++ [none]
  open_eq : c.place.openParentheses = d

variable {all : List (Option Token)} {ts : List Token} {d : Nat}

namespace Stands

variable {c : Cursor}

theorem position_eq (h : Stands all ts d c) : c.place.position + ts.length + 1 = all.length := by
  have hlength := congrArg List.length h.rest_eq
  simp only [List.length_drop, List.length_append, List.length_map, List.length_singleton] at hlength
  omega

theorem getElem?_eq (h : Stands all ts d c) : c.tokens[c.place.position]? = some ts.head? := by
  rw [h.tokens_eq, ← List.head?_drop, h.rest_eq]
  cases ts <;> rfl

theorem within (h : Stands all ts d c) : d ≤ maxParentheses :=
  h.open_eq ▸ h.sound.within c.place List.mem_cons_self

theorem goNext {t : Token} (h : Stands all (t :: ts) d c) :
    Stands all ts d
      { c with
        place := { c.place with position := c.place.position + 1 }
        passed := c.place :: c.passed } where
  sound := by
    have hposition := h.position_eq
    have hwithin := h.within
    rw [List.length_cons] at hposition
    refine h.sound.goTo (Nat.le_succ _) ?_ (h.open_eq.symm ▸ hwithin)
    rw [h.tokens_eq]
    show c.place.position + 1 < all.length
    omega
  tokens_eq := h.tokens_eq
  rest_eq := by
    have hrest := congrArg List.tail h.rest_eq
    rwa [List.tail_drop] at hrest
  open_eq := h.open_eq

/-- The number of open parentheses changes, and nothing else. -/
theorem openTo (h : Stands all ts d c) {d' : Nat} (hd' : d' ≤ maxParentheses) :
    Stands all ts d'
      { c with
        place := { c.place with openParentheses := d' }
        passed := c.place :: c.passed } where
  sound := h.sound.goTo (Nat.le_refl _) (h.sound.inside c.place List.mem_cons_self) hd'
  tokens_eq := h.tokens_eq
  rest_eq := h.rest_eq
  open_eq := rfl

end Stands

/-! ## Readings that keep in step -/

variable {α β : Type}

/-- How a reading ends when the outcome is the given one. -/
def ending : Except Stop (α × List Token) → Except Halt α
  | .ok (a, _) => .ok a
  | .error s => .error (.refused s.error)

/-- The parentheses that an outcome leaves open. -/
def unclosed : Except Stop (α × List Token) → Nat
  | .ok _ => 0
  | .error s => s.unclosed

/-- From any place in front of `ts` with `d` open parentheses, `x` comes to an end, and that is the
    one of the outcome `out`. -/
def Tracks (all : List (Option Token)) (x : Reading α) (ts : List Token) (d : Nat)
    (out : Except Stop (α × List Token)) : Prop :=
  ∀ c, Stands all ts d c → ∃ c', x.runFrom c = some (ending out, c') ∧
    Stands all (Nesting.left out) (d + unclosed out) c' ∧ c.Keeps c'

theorem tracks_pure (a : α) : Tracks all (pure a) ts d (.ok (a, ts)) :=
  fun c h => ⟨c, rfl, h, .refl c⟩

theorem tracks_refuse (error : StatementError) :
    Tracks all (refuse error : Reading α) ts d (.error { error, rest := ts }) :=
  fun c h => ⟨c, rfl, h, .refl c⟩

/-- What comes after a reading goes on from where that one ends. -/
theorem Tracks.next {x : Reading α} {f : α → Reading β} {a : α} {rest : List Token}
    {out : Except Stop (β × List Token)} (hx : Tracks all x ts d (.ok (a, rest)))
    (hf : Tracks all (f a) rest d out) : Tracks all (x >>= f) ts d out := by
  intro c h
  obtain ⟨c₁, hrun, h₁, hkeeps⟩ := hx c h
  obtain ⟨c₂, hrun', h₂, hkeeps'⟩ := hf c₁ h₁
  exact ⟨c₂, (Reading.runFrom_bind_ok hrun).trans hrun', h₂, hkeeps.trans hkeeps'⟩

theorem Tracks.stop {x : Reading α} {s : Stop} (hx : Tracks all x ts d (.error s))
    (f : α → Reading β) : Tracks all (x >>= f) ts d (.error s) := by
  intro c h
  obtain ⟨c₁, hrun, h₁, hkeeps⟩ := hx c h
  exact ⟨c₁, Reading.runFrom_bind_error hrun, h₁, hkeeps⟩

/-- **Two readings** in sequence. -/
theorem Tracks.bind {x : Reading α} {f : α → Reading β} {out : Except Stop (α × List Token)}
    {g : α × List Token → Except Stop (β × List Token)} (hx : Tracks all x ts d out)
    (hf : ∀ a rest, out = .ok (a, rest) → Tracks all (f a) rest d (g (a, rest))) :
    Tracks all (x >>= f) ts d (out.bind g) := by
  cases out with
  | error s => exact hx.stop f
  | ok found => exact hx.next (hf found.1 found.2 rfl)

/-! ## Steps -/

theorem tracks_current : Tracks all current ts d (.ok (ts.head?, ts)) := by
  intro c h
  have hrun : current.runFrom c = some (.ok ts.head?, c) := by
    change Reading.runFrom (entry c.tokens[c.place.position]?) c = _
    rw [h.getElem?_eq]
    rfl
  exact ⟨c, hrun, h, .refl c⟩

/-- The position is known from what is in front of the cursor. -/
theorem Tracks.position {f : Nat → Reading β} {out : Except Stop (β × List Token)}
    (hf : ∀ start, start + ts.length + 1 = all.length → Tracks all (f start) ts d out) :
    Tracks all (position >>= f) ts d out :=
  fun c h => hf c.place.position h.position_eq c h

theorem tracks_openParentheses : Tracks all openParentheses ts d (.ok (d, ts)) := by
  intro c h
  refine ⟨c, ?_, h, .refl c⟩
  rw [← h.open_eq]
  rfl

theorem tracks_endRound {loop : Loop} {start : Nat} (hs : start + ts.length + 1 < all.length) :
    Tracks all (endRound loop start) ts d (.ok ((), ts)) := by
  intro c h
  have hposition := h.position_eq
  exact ⟨_, rfl, ⟨h.sound.endRound (by omega) loop, h.tokens_eq, h.rest_eq, h.open_eq⟩,
    .endRound c loop start⟩

/-- A cursor in front of a token moves past it. -/
theorem tracks_advance {t : Token} : Tracks all advance (t :: ts) d (.ok ((), ts)) := by
  intro c h
  have hposition := h.position_eq
  rw [List.length_cons, ← h.tokens_eq] at hposition
  refine ⟨_, (runFrom_advance (by omega)).trans ?_, h.goNext, .goTo c _⟩
  rw [if_pos (by omega)]
  rfl

theorem tracks_missing (expected : Expected) :
    Tracks all (missing expected : Reading α) ts d (.error (.missing expected ts)) := by
  refine tracks_current.next ?_
  have hmissing : Stop.missing expected ts =
      { error := (Stop.missing expected ts.head?.toList).error, rest := ts } := by
    cases ts with
    | nil => rfl
    | cons t ts =>
      simp only [Stop.missing, List.head?_cons, Option.toList_some]
      split <;> rfl
  rw [hmissing]
  exact tracks_refuse _

theorem tracks_first (expected : Expected) (f : Token → Option α) :
    Tracks all (first expected f) ts d (plain (TokenReader.first expected f ts)) := by
  refine tracks_current.next ?_
  cases ts with
  | nil => exact tracks_missing expected
  | cons t ts =>
    rw [TokenReader.first, List.head?_cons, Option.bind_some]
    cases f t with
    | none => exact tracks_missing expected
    | some a => exact tracks_advance.next (tracks_pure a)

theorem tracks_expect (t : Token) :
    Tracks all (expect t) ts d (plain (TokenReader.token t ts)) := tracks_first _ _

/-- A token that is there. -/
theorem tracks_accept {t : Token} : Tracks all (accept t) (t :: ts) d (.ok (true, ts)) := by
  refine tracks_current.next ?_
  rw [List.head?_cons, if_pos rfl]
  exact tracks_advance.next (tracks_pure true)

/-- A token that is not there. -/
theorem tracks_accept_other {t : Token} (h : ts.head? ≠ some t) :
    Tracks all (accept t) ts d (.ok (false, ts)) := by
  refine tracks_current.next ?_
  rw [if_neg h]
  exact tracks_pure false

/-! ## Clauses -/

/-- A name takes at least one token, so that there are no more rounds than tokens. -/
theorem tracks_columns {fuel : Nat} (hfuel : ts.length < fuel) (done : List String) :
    Tracks all (columns fuel done) ts d (Clause.columns done ts) := by
  induction fuel generalizing ts done with
  | zero => exact absurd hfuel (Nat.not_lt_zero _)
  | succ fuel ih =>
    refine Tracks.position fun start hstart => ?_
    fun_cases Clause.columns done ts with
    | case1 name rest =>
      simp only [List.length_cons] at hfuel hstart
      refine (tracks_first .columnName Clause.name?).next (tracks_accept.next ?_)
      exact (tracks_endRound (by omega)).next (ih (by omega) _)
    | case2 name rest hc =>
      have hcomma : rest.head? ≠ some .comma := fun h => by
        obtain ⟨after, rfl⟩ := List.head?_eq_some_iff.1 h
        exact hc after rfl
      simp only [List.length_cons] at hstart
      refine (tracks_first .columnName Clause.name?).next ((tracks_accept_other hcomma).next ?_)
      exact (tracks_endRound (by omega)).next (tracks_pure _)
    | case3 _ _ hne =>
      have hfirst : plain (TokenReader.first .columnName Clause.name? ts) =
          .error (.missing .columnName ts) := by
        cases ts with
        | nil => rfl
        | cons t ts =>
          cases t with
          | ident name => exact absurd rfl (hne name ts)
          | _ => rfl
      exact (hfirst ▸ tracks_first .columnName Clause.name?).stop _

theorem tracks_selection {fuel : Nat} (hfuel : ts.length < fuel) :
    Tracks all (selection fuel) ts d (Clause.selection ts) := by
  rw [Clause.selection_eq]
  refine (tracks_expect _).bind fun _ rest hrest => ?_
  have hshorter : rest.length < ts.length := of_plain_eq_ok hrest
  by_cases hs : rest.head? = some .star
  · obtain ⟨rest, rfl⟩ := List.head?_eq_some_iff.1 hs
    exact tracks_accept.next (tracks_pure [])
  refine (tracks_accept_other hs).next (tracks_current.next ?_)
  by_cases hf : rest.head? = some (.keyword .from_)
  · obtain ⟨rest, rfl⟩ := List.head?_eq_some_iff.1 hf
    exact tracks_refuse _
  · dsimp only
    rw [if_neg hf]
    split
    · exact absurd rfl hs
    · exact absurd rfl hf
    · exact tracks_columns (by omega) []

theorem tracks_table : Tracks all table ts d (Clause.table ts) := by
  rw [Clause.table_eq]
  refine (tracks_expect _).bind fun _ rest _ => ?_
  refine (tracks_first _ _).bind fun name rest _ => ?_
  dsimp only
  cases Clause.splitQualified? name with
  | none => exact tracks_refuse _
  | some qualified =>
    refine tracks_current.next ?_
    by_cases hc : rest.head? = some .comma
    · simp only [if_pos hc]
      exact tracks_refuse _
    · simp only [if_neg hc]
      exact tracks_pure qualified

theorem tracks_limit : Tracks all limit ts d (Clause.limit ts) := by
  fun_cases Clause.limit ts with
  | case1 n rest hn =>
    refine tracks_accept.next (tracks_current.next ?_)
    dsimp only [List.head?_cons]
    rw [if_pos hn]
    exact tracks_refuse _
  | case2 n rest hn ho =>
    refine tracks_accept.next (tracks_current.next ?_)
    dsimp only [List.head?_cons]
    rw [if_neg hn]
    refine tracks_advance.next (tracks_current.next ?_)
    rw [if_pos ho]
    exact tracks_refuse _
  | case3 n rest hn ho =>
    refine tracks_accept.next (tracks_current.next ?_)
    dsimp only [List.head?_cons]
    rw [if_neg hn]
    refine tracks_advance.next (tracks_current.next ?_)
    rw [if_neg ho]
    exact tracks_pure _
  | case4 rest hne =>
    refine tracks_accept.next (tracks_current.next ?_)
    split
    · next n hn =>
      obtain ⟨after, rfl⟩ := List.head?_eq_some_iff.1 hn
      exact absurd rfl (hne n after)
    · exact tracks_missing .integer
  | case5 ts hne hne' =>
    have hlimit : ts.head? ≠ some (.keyword .limit) := fun h => by
      obtain ⟨after, rfl⟩ := List.head?_eq_some_iff.1 h
      exact hne' after rfl
    exact (tracks_accept_other hlimit).next (tracks_pure 0)

/-- The difference is taken where the semicolon is not the last entry, and so it is never below
    zero. -/
theorem tracks_finish :
    Tracks all finish ts d ((Clause.end_ ts).map fun ignored => (ignored, ts)) := by
  fun_cases Clause.end_ ts with
  | case1 => exact tracks_current.next (tracks_pure 0)
  | case2 rest =>
    refine tracks_current.next ?_
    intro c h
    have hposition := h.position_eq
    rw [List.length_cons, ← h.tokens_eq] at hposition
    have hremaining : c.tokens.length - c.place.position - 2 = rest.length := by omega
    refine ⟨c, (runFrom_remaining c).trans ?_, h, .refl c⟩
    rw [if_pos (by omega), hremaining]
    rfl
  | case3 ts hne hne' =>
    refine tracks_current.next ?_
    split
    · next hnone => exact absurd (List.head?_eq_none_iff.1 hnone) hne
    · next hsome =>
      obtain ⟨after, rfl⟩ := List.head?_eq_some_iff.1 hsome
      exact absurd rfl (hne' after)
    · exact tracks_missing .endOfStatement

/-! ## Conditions -/

theorem tracks_support (h : ∀ t, ts.head? = some t → t.isUnsupported = false) :
    Tracks all support ts d (.ok ((), ts)) := by
  refine tracks_current.next ?_
  cases ts with
  | nil => exact tracks_pure ()
  | cons t ts =>
    have ht := h t rfl
    simp only [List.head?_cons, ht, Bool.false_eq_true, if_false]
    exact tracks_pure ()

theorem tracks_support_refused {t : Token} (h : t.isUnsupported = true) :
    Tracks all support (t :: ts) d
      (.error { error := .unsupported (.token t), rest := t :: ts }) := by
  refine tracks_current.next ?_
  simp only [List.head?_cons, h, if_true]
  exact tracks_refuse _

/-- To refuse what is not supported beforehand makes no difference. -/
theorem tracks_comparison : Tracks all comparison ts d (plain (Condition.comparison ts)) := by
  rw [Condition.plain_comparison]
  by_cases hu : ∃ t, ts.head? = some t ∧ t.isUnsupported = true
  · obtain ⟨t, ht, hu⟩ := hu
    obtain ⟨rest, rfl⟩ := List.head?_eq_some_iff.1 ht
    have hnone : Condition.Operand.ofToken? t = none := by
      cases t <;> first | rfl | cases hu
    have hmissing : plain (TokenReader.first .operand Condition.Operand.ofToken? (t :: rest)) =
        .error { error := .unsupported (.token t), rest := t :: rest } := by
      simp only [TokenReader.first, hnone, plain_error, Stop.missing, hu, Expected.refusesByName,
        Bool.and_self, if_true]
    rw [hmissing]
    exact (tracks_support_refused hu).stop _
  · refine (tracks_support fun t ht => ?_).next ?_
    · exact Bool.eq_false_iff.2 fun h => hu ⟨t, ht, h⟩
    refine (tracks_first _ _).bind fun left rest₁ _ => ?_
    refine (tracks_first _ _).bind fun op rest₂ _ => ?_
    refine (tracks_first _ _).bind fun right rest₃ _ => ?_
    dsimp only
    cases op.apply left right with
    | error error => exact tracks_refuse error
    | ok compared => exact tracks_pure compared

/-- **Parentheses** are counted up and down again, unless the reading halts between. -/
theorem Tracks.parentheses {x : Reading Measured} {out : Except Stop (Measured × List Token)}
    (hd : d < maxParentheses) (hx : Tracks all x ts (d + 1) out) :
    Tracks all (do
      openParenthesis
      let inner ← x
      closeParenthesis
      expect .closeParen
      pure inner) ts d (Nesting.close out) := by
  intro c h
  have hopened := h.openTo (Nat.succ_le_of_lt hd)
  have hopen : openParenthesis.runFrom c = some (.ok (), { c with
      place := { c.place with openParentheses := d + 1 }
      passed := c.place :: c.passed }) := by
    rw [← h.open_eq]
    rfl
  obtain ⟨c₁, hrun, h₁, hkeeps⟩ := hx _ hopened
  replace hkeeps := (Keeps.goTo c _).trans hkeeps
  cases out with
  | error s =>
    refine ⟨c₁, (Reading.runFrom_bind_ok hopen).trans (Reading.runFrom_bind_error hrun), ?_, hkeeps⟩
    have hd' : d + (s.unclosed + 1) = d + 1 + s.unclosed := by omega
    show Stands all s.rest (d + (s.unclosed + 1)) c₁
    rw [hd']
    exact h₁
  | ok found =>
    obtain ⟨inner, rest⟩ := found
    change Stands all rest (d + 1) c₁ at h₁
    have hclosed := h₁.openTo (Nat.le_of_lt hd)
    have hclose : closeParenthesis.runFrom c₁ = some (.ok (), { c₁ with
        place := { c₁.place with openParentheses := d }
        passed := c₁.place :: c₁.passed }) := by
      rw [runFrom_closeParenthesis, h₁.open_eq, if_pos (Nat.succ_le_succ (Nat.zero_le d))]
      rfl
    have hlast : Tracks all (do expect .closeParen; pure inner) rest d
        (Nesting.close (.ok (inner, rest))) :=
      (tracks_expect .closeParen).bind fun _ last _ => tracks_pure inner
    obtain ⟨c₂, hrun', h₂, hkeeps'⟩ := hlast _ hclosed
    refine ⟨c₂, ?_, h₂, hkeeps.trans ((Keeps.goTo c₁ _).trans hkeeps')⟩
    rw [Reading.runFrom_bind_ok hopen, Reading.runFrom_bind_ok hrun,
      Reading.runFrom_bind_ok hclose, hrun']

/-- A chain keeps in step when its operands do, on fewer than `n` tokens. -/
theorem tracks_chain {op : Connective} {x : Reading Measured} {r : TokenReader Measured} {n : Nat}
    (hr : ∀ us : List Token, us.length < n → Tracks all x us d (plain (r us))) {fuel : Nat}
    (hn : ts.length < n) (hfuel : ts.length < fuel) (left : Measured) :
    Tracks all (chain op x fuel left) ts d (plain (Condition.chain op r left ts)) := by
  induction fuel generalizing ts left with
  | zero => exact absurd hfuel (Nat.not_lt_zero _)
  | succ fuel ih =>
    refine Tracks.position fun start hstart => ?_
    by_cases hk : ts.head? = some (Grammar.keyword op)
    · obtain ⟨after, rfl⟩ := List.head?_eq_some_iff.1 hk
      rw [List.length_cons] at hn hfuel hstart
      rw [Condition.plain_chain_cons, Condition.keyword_eq]
      refine tracks_accept.next ((hr after (by omega)).bind fun right rest hright => ?_)
      have hshorter : rest.length < after.length := of_plain_eq_ok hright
      dsimp only
      cases left.join op right with
      | error error => exact (tracks_refuse error).stop _
      | ok joined =>
        refine (tracks_pure joined).next ((tracks_endRound (by omega)).next ?_)
        exact ih (by omega) (by omega) joined
    · rw [Condition.plain_chain_of_head hk]
      rw [Condition.keyword_eq] at hk
      exact (tracks_accept_other hk).next (tracks_pure left)

theorem tracks_chained {op : Connective} {x : Reading Measured} {r : TokenReader Measured} {fuel : Nat}
    (hr : ∀ us : List Token, us.length < fuel → Tracks all x us d (plain (r us)))
    (hfuel : ts.length < fuel) :
    Tracks all (chained fuel op x) ts d (plain (Condition.chained op r ts)) := by
  rw [Condition.plain_chained]
  refine (hr ts hfuel).bind fun left rest hleft => ?_
  have hshorter : rest.length < ts.length := of_plain_eq_ok hleft
  exact tracks_chain hr (by omega) (by omega) left

/-- A condition keeps in step when its primaries do. -/
theorem tracks_condition {levels fuel : Nat}
    (hp : ∀ us : List Token, us.length < fuel →
      Tracks all (primary fuel) us d (plain (Condition.primary levels us)))
    (hfuel : ts.length < fuel) :
    Tracks all (chained fuel .or (chained fuel .and (primary fuel))) ts d
      (plain (Condition.reader levels (.chain .or) ts)) :=
  tracks_chained (fun _ hus => tracks_chained hp hus) hfuel

/-- The cursor counts how many parentheses are open, the list reader how many may still be opened. -/
theorem tracks_primary {levels fuel : Nat} (hd : levels + d = maxParentheses)
    (hfuel : ts.length < fuel) :
    Tracks all (primary fuel) ts d (plain (Condition.primary levels ts)) := by
  -- inside of parentheses there is less fuel, and there are fewer tokens
  induction fuel generalizing levels d ts with
  | zero => exact absurd hfuel (Nat.not_lt_zero _)
  | succ fuel ih =>
    refine tracks_current.next ?_
    by_cases ho : ts.head? = some .openParen
    · obtain ⟨inner, rfl⟩ := List.head?_eq_some_iff.1 ho
      rw [List.length_cons] at hfuel
      rw [if_pos ho]
      refine tracks_openParentheses.next ?_
      cases levels with
      | zero =>
        rw [if_pos (by omega), Condition.plain_primary_zero]
        exact tracks_refuse _
      | succ levels =>
        rw [if_neg (by omega), Nesting.plain_primary_openParen]
        refine tracks_advance.next (Tracks.parentheses (by omega) ?_)
        exact tracks_condition (fun us hus => ih (by omega) hus) (by omega)
    · rw [if_neg ho, Condition.primary_of_head ho]
      exact tracks_comparison

theorem tracks_filters {levels fuel : Nat} (hd : levels + d = maxParentheses)
    (hfuel : ts.length < fuel) : Tracks all (filters fuel) ts d (Clause.filters levels ts) := by
  by_cases hw : ts.head? = some (.keyword .where_)
  · obtain ⟨rest, rfl⟩ := List.head?_eq_some_iff.1 hw
    rw [List.length_cons] at hfuel
    rw [Clause.filters_where]
    refine tracks_accept.next ?_
    refine (tracks_condition (fun us hus => tracks_primary hd hus) (by omega)).bind ?_
    exact fun condition rest _ => tracks_pure [condition.predicate]
  · rw [Clause.filters_of_head hw]
    exact (tracks_accept_other hw).next (tracks_pure [])

/-! ## Statements -/

/-- **A statement** is read by the cursor as it is read from the list of tokens. -/
theorem tracks_parse {levels fuel : Nat} (hd : levels + d = maxParentheses)
    (hfuel : ts.length < fuel) : Tracks all (parse fuel) ts d (Nesting.statement levels ts) := by
  rw [Nesting.statement_eq]
  refine (tracks_selection hfuel).bind fun columns ts₁ hselection => ?_
  refine tracks_table.bind fun qualified ts₂ htable => ?_
  have hrest : ts₂.length < ts.length := by
    obtain ⟨used, rfl, -⟩ := Clause.selection_sound hselection
    obtain ⟨name, rfl, -⟩ := Clause.table_eq_ok.1 htable
    simp only [List.length_append, List.length_cons]
    omega
  refine (tracks_filters hd (by omega)).bind fun filters ts₃ _ => ?_
  refine tracks_limit.bind fun limit ts₄ _ => ?_
  refine tracks_finish.bind fun ignored ts₅ _ => ?_
  exact tracks_pure _

end Cursor

end FederatedQuery
