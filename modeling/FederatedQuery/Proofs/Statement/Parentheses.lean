/-
  Parentheses that are open while tokens are read.

  How many parentheses may be opened makes a difference to a reader only where it comes to one too
  many.  Everything else that it reads, leaves and says of errors is the same under every bound.

  * `openAfter n d ts`: the parentheses open behind `ts`, of which there were `d` in front and never
    more than `n` in between; none if it does not come out;
  * `Unmatched n used rest`: a whole condition stands behind the last open parenthesis of `used`, and
    what follows it is no closing one;
  * `Reads n ts used out`: `used` was taken off `ts`, with at most `n` parentheses open at a time;
  * `Gated n used out out'`: with `n` as the bound the outcome is the same as long as `used` keeps
    within it, and otherwise the error that stops in front of the parenthesis too many;
  * `Phrase f m ts`: what `f` reads under the bound `m`, and under every lower one; `Phrase.bind`
    and its like put phrases together;
  * `phrase_reader`, `phrase_statement`: conditions and statements.
-/
import FederatedQuery.Proofs.Statement.Parsing

namespace FederatedQuery

namespace Nesting

/-! ## Open parentheses -/

/-- The parentheses that are open behind a token when `d` are open in front of it. -/
def step (n d : Nat) : Token → Option Nat
  | .openParen => if d < n then some (d + 1) else none
  | .closeParen => if d = 0 then none else some (d - 1)
  | _ => some d

/-- The parentheses that are open behind the tokens when `d` are open in front of them; none if more
    than `n` were open somewhere, or one was closed that was not open. -/
def openAfter (n d : Nat) (ts : List Token) : Option Nat := ts.foldlM (step n) d

theorem openAfter_cons (n d : Nat) (t : Token) (ts : List Token) :
    openAfter n d (t :: ts) = (step n d t).bind fun e => openAfter n e ts :=
  List.foldlM_cons

theorem openAfter_append (n d : Nat) (ts us : List Token) :
    openAfter n d (ts ++ us) = (openAfter n d ts).bind fun e => openAfter n e us :=
  List.foldlM_append

theorem openAfter_cons_eq_some {n d e : Nat} {t : Token} {ts : List Token} :
    openAfter n d (t :: ts) = some e ↔ ∃ d', step n d t = some d' ∧ openAfter n d' ts = some e := by
  rw [openAfter_cons, Option.bind_eq_some_iff]

theorem openAfter_append_eq_some {n d e : Nat} {ts us : List Token} :
    openAfter n d (ts ++ us) = some e ↔
      ∃ d', openAfter n d ts = some d' ∧ openAfter n d' us = some e := by
  rw [openAfter_append, Option.bind_eq_some_iff]

theorem step_of_ne {n d : Nat} {t : Token} (ho : t ≠ .openParen) (hc : t ≠ .closeParen) :
    step n d t = some d := by
  cases t <;> first | rfl | contradiction

theorem step_shift {n d e : Nat} {t : Token} (h : step n d t = some e) (k : Nat) :
    step (n + k) (d + k) t = some (e + k) := by
  cases t with
  | openParen =>
    simp only [step] at h ⊢
    split at h
    · cases h
      rw [if_pos (by omega)]
      exact congrArg some (by omega)
    · cases h
  | closeParen =>
    simp only [step] at h ⊢
    split at h
    · cases h
    · cases h
      rw [if_neg (by omega)]
      exact congrArg some (by omega)
  | _ => cases h; rfl

/-- More parentheses around the tokens, with a bound that leaves room for them. -/
theorem openAfter_shift {n d e : Nat} {ts : List Token} (h : openAfter n d ts = some e) (k : Nat) :
    openAfter (n + k) (d + k) ts = some (e + k) := by
  induction ts generalizing d with
  | nil => cases h; rfl
  | cons t ts ih =>
    obtain ⟨d', hd', h⟩ := openAfter_cons_eq_some.1 h
    exact openAfter_cons_eq_some.2 ⟨d' + k, step_shift hd' k, ih h⟩

theorem step_lower {n m d e e' k : Nat} {t : Token} (h : step m d t = some e)
    (h' : step (n + k) (d + k) t = some e') : step n d t = some e ∧ e' = e + k := by
  cases t with
  | openParen =>
    simp only [step] at h h' ⊢
    split at h <;> cases h
    split at h' <;> cases h'
    exact ⟨if_pos (by omega), by omega⟩
  | closeParen =>
    simp only [step] at h h' ⊢
    split at h <;> cases h
    split at h' <;> cases h'
    exact ⟨if_neg ‹_›, by omega⟩
  | _ => cases h; cases h'; exact ⟨rfl, rfl⟩

/-- Tokens that close no more than they open keep within a bound when they do so inside of more
    parentheses. -/
theorem openAfter_lower {n m d e e' k : Nat} {ts : List Token} (h : openAfter m d ts = some e)
    (h' : openAfter (n + k) (d + k) ts = some e') : openAfter n d ts = some e ∧ e' = e + k := by
  induction ts generalizing d with
  | nil => cases h; cases h'; exact ⟨rfl, rfl⟩
  | cons t ts ih =>
    obtain ⟨d₁, hd₁, h⟩ := openAfter_cons_eq_some.1 h
    obtain ⟨d₂, hd₂, h'⟩ := openAfter_cons_eq_some.1 h'
    obtain ⟨hstep, rfl⟩ := step_lower hd₁ hd₂
    obtain ⟨hrest, he⟩ := ih h h'
    exact ⟨openAfter_cons_eq_some.2 ⟨d₁, hstep, hrest⟩, he⟩

theorem openAfter_unique {n m d e e' : Nat} {ts : List Token} (h : openAfter m d ts = some e)
    (h' : openAfter n d ts = some e') : e' = e := (openAfter_lower (k := 0) h h').2

theorem step_le {n d e : Nat} {t : Token} (hd : d ≤ n) (h : step n d t = some e) : e ≤ n := by
  cases t with
  | openParen | closeParen =>
    simp only [step] at h
    split at h <;> cases h
    omega
  | _ => cases h; exact hd

theorem openAfter_le {n d e : Nat} {ts : List Token} (hd : d ≤ n) (h : openAfter n d ts = some e) :
    e ≤ n := by
  induction ts generalizing d with
  | nil => cases h; exact hd
  | cons t ts ih =>
    obtain ⟨d', hd', h⟩ := openAfter_cons_eq_some.1 h
    exact ih (step_le hd hd') h

/-- Tokens between parentheses. -/
theorem openAfter_parentheses {n e : Nat} {ts : List Token} (h : openAfter n 0 ts = some e) :
    openAfter (n + 1) 0 (.openParen :: ts) = some (e + 1) := by
  have hopen : step (n + 1) 0 .openParen = some 1 := by
    rw [step, if_pos (Nat.succ_pos n)]
  have hshift := openAfter_shift h 1
  rw [Nat.zero_add] at hshift
  exact openAfter_cons_eq_some.2 ⟨1, hopen, hshift⟩

/-! ## Parentheses that are not closed -/

/-- A whole condition was read behind the last open parenthesis, which may have opened as many more as
    the bound still allowed there; but what follows it is not the closing parenthesis. -/
def Unmatched (n : Nat) (used rest : List Token) : Prop :=
  ∃ before inside d c, used = before ++ .openParen :: inside ∧ openAfter n 0 before = some d ∧
    openAfter (n - (d + 1)) 0 inside = some 0 ∧
    plain (Condition.read (n - (d + 1)) (inside ++ rest)) = .ok (c, rest) ∧
    rest.head? ≠ some .closeParen

/-- The parentheses that an error keeps open, out of those that are open behind the tokens `used` in
    front of it: all, but for the one whose closing parenthesis is missing there. -/
def Keeps (n : Nat) (used rest : List Token) (unclosed : Nat) : Prop :=
  ∃ e, openAfter n 0 used = some e ∧
    ((Unmatched n used rest ∧ e = unclosed + 1) ∨ (¬ Unmatched n used rest ∧ e = unclosed))

theorem not_unmatched_nil (n : Nat) (rest : List Token) : ¬ Unmatched n [] rest := by
  rintro ⟨before, inside, d, c, hused, -⟩
  cases before <;> cases hused

/-- In front of an open parenthesis there may stand what closes all of its own. -/
theorem unmatched_append_iff {n : Nat} {used used' rest : List Token}
    (he : openAfter n 0 used = some 0) :
    Unmatched n (used ++ used') rest ↔ Unmatched n used' rest := by
  constructor
  · rintro ⟨before, inside, d, c, hused, hbefore, hinside, hread, hhead⟩
    rcases List.append_eq_append_iff.1 hused with ⟨x, rfl, rfl⟩ | ⟨x, rfl, hx⟩
    · obtain ⟨d', hd', hx⟩ := openAfter_append_eq_some.1 hbefore
      obtain rfl := Option.some.inj (he.symm.trans hd')
      exact ⟨x, inside, d, c, rfl, hx, hinside, hread, hhead⟩
    · cases x with
      | nil =>
        rw [List.append_nil] at he
        obtain rfl := Option.some.inj (he.symm.trans hbefore)
        exact ⟨[], inside, 0, c, hx.symm, rfl, hinside, hread, hhead⟩
      | cons t x =>
        -- the parenthesis would be closed within `used`, and so by what stands behind it
        obtain ⟨rfl, rfl⟩ := List.cons.inj hx
        obtain ⟨k, hk, -⟩ := openAfter_append_eq_some.1 hinside
        obtain ⟨d', hd', hrest⟩ := openAfter_append_eq_some.1 he
        obtain rfl := Option.some.inj (hbefore.symm.trans hd')
        obtain ⟨d', hopen, hrest⟩ := openAfter_cons_eq_some.1 hrest
        simp only [step, Option.ite_none_right_eq_some, Option.some.injEq] at hopen
        obtain ⟨-, rfl⟩ := hopen
        have hshift := openAfter_shift hk (d + 1)
        rw [Nat.zero_add] at hshift
        have hzero := openAfter_unique hshift hrest
        omega
  · rintro ⟨before, inside, d, c, rfl, hbefore, hinside, hread, hhead⟩
    exact ⟨used ++ before, inside, d, c, by rw [List.append_assoc],
      openAfter_append_eq_some.2 ⟨0, he, hbefore⟩, hinside, hread, hhead⟩

/-- What closes all of its parentheses leaves none open. -/
theorem keeps_zero {n : Nat} {used : List Token} (he : openAfter n 0 used = some 0)
    (rest : List Token) : Keeps n used rest 0 := by
  have hmatched := mt (unmatched_append_iff he).1 (not_unmatched_nil n rest)
  rw [List.append_nil] at hmatched
  exact ⟨0, he, .inr ⟨hmatched, rfl⟩⟩

theorem Keeps.append {n k : Nat} {used used' rest : List Token} (he : openAfter n 0 used = some 0)
    (h : Keeps n used' rest k) : Keeps n (used ++ used') rest k := by
  obtain ⟨e, he', hkeeps⟩ := h
  refine ⟨e, openAfter_append_eq_some.2 ⟨0, he, he'⟩, ?_⟩
  rwa [unmatched_append_iff he]

/-- Inside of an open parenthesis there is one parenthesis that is not closed, and that is another one
    if there was no whole condition. -/
theorem Keeps.openParen {n k : Nat} {used rest : List Token} (h : Keeps n used rest k)
    (hread : ∀ c, plain (Condition.read n (used ++ rest)) ≠ .ok (c, rest)) :
    Keeps (n + 1) (.openParen :: used) rest (k + 1) := by
  obtain ⟨e, he, hkeeps⟩ := h
  have hlevels (d : Nat) : n + 1 - (d + 1 + 1) = n - (d + 1) := Nat.add_sub_add_right n 1 (d + 1)
  have hunmatched : Unmatched (n + 1) (.openParen :: used) rest ↔ Unmatched n used rest := by
    constructor
    · rintro ⟨before, inside, d, c, hused, hbefore, hinside, hcondition, hhead⟩
      cases before with
      | nil =>
        cases hbefore
        cases hused
        exact absurd hcondition (hread c)
      | cons t before =>
        obtain ⟨rfl, rfl⟩ := List.cons.inj hused
        obtain ⟨d', hd', -⟩ := openAfter_append_eq_some.1 he
        obtain rfl := Option.some.inj ((openAfter_parentheses hd').symm.trans hbefore)
        rw [hlevels] at hinside hcondition
        exact ⟨before, inside, d', c, rfl, hd', hinside, hcondition, hhead⟩
    · rintro ⟨before, inside, d, c, rfl, hbefore, hinside, hcondition, hhead⟩
      refine ⟨.openParen :: before, inside, d + 1, c, rfl, openAfter_parentheses hbefore, ?_, ?_, hhead⟩
      · rwa [hlevels]
      · rwa [hlevels]
  refine ⟨e + 1, openAfter_parentheses he, ?_⟩
  rw [hunmatched, Nat.add_right_cancel_iff, Nat.add_right_cancel_iff]
  exact hkeeps

/-- The closing parenthesis behind a whole condition is missing. -/
theorem keeps_of_missing {n : Nat} {used rest : List Token} {c : Measured}
    (he : openAfter n 0 used = some 0)
    (hread : plain (Condition.read n (used ++ rest)) = .ok (c, rest))
    (hhead : rest.head? ≠ some .closeParen) : Keeps (n + 1) (.openParen :: used) rest 0 :=
  ⟨1, openAfter_parentheses he, .inl ⟨⟨[], used, 0, c, rfl, rfl, he, hread, hhead⟩, rfl⟩⟩

/-- No more are kept than were open. -/
theorem Keeps.le {n k : Nat} {used rest : List Token} (h : Keeps n used rest k) : k ≤ n := by
  obtain ⟨e, he, hkeeps⟩ := h
  have hle := openAfter_le (Nat.zero_le n) he
  omega

/-! ## Outcomes -/

variable {α β : Type}

/-- The tokens that an outcome leaves. -/
def left : Except Stop (α × List Token) → List Token
  | .ok (_, rest) => rest
  | .error s => s.rest

/-- `used` was taken off `ts`, with at most `n` parentheses open at a time.  What is read closes all
    of its parentheses.  An error keeps those open in which it stopped, but for one whose closing
    parenthesis is missing there. -/
inductive Reads (n : Nat) (ts used : List Token) : Except Stop (α × List Token) → Prop
  | ok {a rest} : ts = used ++ rest → openAfter n 0 used = some 0 → Reads n ts used (.ok (a, rest))
  | error {s} : ts = used ++ s.rest → Keeps n used s.rest s.unclosed → Reads n ts used (.error s)

/-- The error that stops in front of the parenthesis after `n` open ones. -/
def tooDeep (n : Nat) (rest : List Token) : Stop where
  error := .tooDeep maxParentheses
  rest := rest
  unclosed := n

/-- The second outcome is the first one, in which `used` was read, with `n` as the bound. -/
inductive Gated (n : Nat) (used : List Token) (out : Except Stop (α × List Token)) :
    Except Stop (α × List Token) → Prop
  | within {e} : openAfter n 0 used = some e → Gated n used out out
  | beyond (before after : List Token) :
    used = before ++ .openParen :: after → openAfter n 0 before = some n →
      Gated n used out (.error (tooDeep n (.openParen :: after ++ left out)))

theorem Reads.eq_append {n : Nat} {ts used : List Token} {out : Except Stop (α × List Token)}
    (h : Reads n ts used out) : ts = used ++ left out := by
  cases h with
  | ok h _ => exact h
  | error h _ => exact h

/-- What was read before closed all of its parentheses. -/
theorem Reads.append {n : Nat} {ts used used' rest : List Token}
    {out : Except Stop (α × List Token)} (hts : ts = used ++ rest)
    (he : openAfter n 0 used = some 0) (h : Reads n rest used' out) :
    Reads n ts (used ++ used') out := by
  cases h with
  | ok hrest he' =>
    exact .ok (by rw [hts, hrest, List.append_assoc]) (openAfter_append_eq_some.2 ⟨0, he, he'⟩)
  | error hrest hkeeps => exact .error (by rw [hts, hrest, List.append_assoc]) (hkeeps.append he)

theorem Gated.append {n : Nat} {used used' : List Token} {out out' : Except Stop (α × List Token)}
    (he : openAfter n 0 used = some 0) (h : Gated n used' out out') :
    Gated n (used ++ used') out out' := by
  cases h with
  | within he' => exact .within (openAfter_append_eq_some.2 ⟨0, he, he'⟩)
  | beyond before after hused hbefore =>
    refine .beyond (used ++ before) after ?_ (openAfter_append_eq_some.2 ⟨0, he, hbefore⟩)
    rw [hused, List.append_assoc]

/-- What `f` reads off `ts` under the bound `m`, and under every lower bound. -/
def Phrase (f : Nat → List Token → Except Stop (α × List Token)) (m : Nat) (ts : List Token) : Prop :=
  ∃ used, Reads m ts used (f m ts) ∧ ∀ n ≤ m, Gated n used (f m ts) (f n ts)

/-! ## Phrases -/

theorem phrase_congr {f g : Nat → List Token → Except Stop (α × List Token)} {m : Nat}
    {ts : List Token} (h : Phrase f m ts) (heq : ∀ n ≤ m, g n ts = f n ts) : Phrase g m ts := by
  obtain ⟨used, hreads, hgated⟩ := h
  refine ⟨used, (heq m (Nat.le_refl m)) ▸ hreads, fun n hn => ?_⟩
  rw [heq m (Nat.le_refl m), heq n hn]
  exact hgated n hn

/-- Nothing is read. -/
theorem phrase_ok (m : Nat) (ts : List Token) (a : α) : Phrase (fun _ ts => .ok (a, ts)) m ts :=
  ⟨[], .ok rfl rfl, fun _ _ => .within rfl⟩

theorem phrase_error (m : Nat) (ts : List Token) (error : StatementError) :
    Phrase (fun _ rest => (.error { error, rest } : Except Stop (α × List Token))) m ts :=
  ⟨[], .error rfl (keeps_zero rfl ts), fun _ _ => .within rfl⟩

theorem missing_eq (expected : Expected) (ts : List Token) :
    ∃ error, Stop.missing expected ts = { error, rest := ts } := by
  unfold Stop.missing
  split
  · split
    · exact ⟨_, rfl⟩
    · exact ⟨_, rfl⟩
  · exact ⟨_, rfl⟩

theorem phrase_missing (m : Nat) (ts : List Token) (expected : Expected) :
    Phrase (fun _ ts => (.error (.missing expected ts) : Except Stop (α × List Token))) m ts := by
  obtain ⟨error, herror⟩ := missing_eq expected ts
  exact phrase_congr (phrase_error m ts error) fun _ _ => by rw [herror]

theorem Gated.bind_error {n : Nat} {used : List Token} {s : Stop}
    {small : Except Stop (α × List Token)} (h : Gated n used (.error s) small)
    (k : α × List Token → Except Stop (β × List Token)) :
    Gated n used (.error s) (small.bind k) := by
  cases h with
  | within he => exact .within he
  | beyond before after hused hbefore => exact .beyond before after hused hbefore

/-- What comes after a phrase is read as well, unless the phrase already has a parenthesis too many. -/
theorem Gated.bind_ok {n m : Nat} {used used' rest : List Token} {a : α}
    {small : Except Stop (α × List Token)} {k : α × List Token → Except Stop (β × List Token)}
    {out : Except Stop (β × List Token)} (h : Gated n used (.ok (a, rest)) small)
    (he : openAfter m 0 used = some 0) (hrest : rest = used' ++ left out)
    (hk : Gated n used' out (k (a, rest))) : Gated n (used ++ used') out (small.bind k) := by
  cases h with
  | within he' =>
    obtain rfl := openAfter_unique he he'
    exact hk.append he'
  | beyond before after hused hbefore =>
    have hleft : left (.ok (a, rest) : Except Stop (α × List Token)) = used' ++ left out := hrest
    rw [hleft, ← List.append_assoc, List.cons_append]
    refine .beyond before (after ++ used') ?_ hbefore
    rw [hused, List.append_assoc, List.cons_append]

/-- **Two phrases** in sequence. -/
theorem Phrase.bind {f : Nat → List Token → Except Stop (α × List Token)}
    {g : Nat → α × List Token → Except Stop (β × List Token)} {m : Nat} {ts : List Token}
    (hf : Phrase f m ts)
    (hg : ∀ a rest, f m ts = .ok (a, rest) → Phrase (fun n rest => g n (a, rest)) m rest) :
    Phrase (fun n ts => (f n ts).bind (g n)) m ts := by
  obtain ⟨used, hreads, hgated⟩ := hf
  show ∃ used, Reads m ts used ((f m ts).bind (g m)) ∧
    ∀ n ≤ m, Gated n used ((f m ts).bind (g m)) ((f n ts).bind (g n))
  cases hout : f m ts with
  | error s =>
    rw [hout] at hreads hgated
    refine ⟨used, ?_, fun n hn => (hgated n hn).bind_error (g n)⟩
    cases hreads with
    | error hts hkeeps => exact .error hts hkeeps
  | ok x =>
    obtain ⟨a, rest⟩ := x
    rw [hout] at hreads hgated
    obtain ⟨used', hreads', hgated'⟩ := hg a rest hout
    cases hreads with
    | ok hts he =>
      exact ⟨used ++ used', hreads'.append hts he, fun n hn =>
        (hgated n hn).bind_ok he hreads'.eq_append (hgated' n hn)⟩

/-- **A token in front** that is no parenthesis. -/
theorem Phrase.cons {f : Nat → List Token → Except Stop (α × List Token)} {t : Token} {m : Nat}
    {ts : List Token} (h : Phrase f m ts) (ho : t ≠ .openParen) (hc : t ≠ .closeParen) :
    Phrase (fun n _ => f n ts) m (t :: ts) := by
  obtain ⟨used, hreads, hgated⟩ := h
  have hfront : ∀ n, openAfter n 0 [t] = some 0 := fun n =>
    openAfter_cons_eq_some.2 ⟨0, step_of_ne ho hc, rfl⟩
  exact ⟨[t] ++ used, hreads.append rfl (hfront m), fun n hn => (hgated n hn).append (hfront n)⟩

/-- A token that is no parenthesis. -/
theorem phrase_first {expected : Expected} {f : Token → Option α}
    (hf : ∀ t a, f t = some a → t ≠ .openParen ∧ t ≠ .closeParen) (m : Nat) (ts : List Token) :
    Phrase (fun _ ts => plain (TokenReader.first expected f ts)) m ts := by
  cases ts with
  | nil => exact phrase_missing m [] expected
  | cons t ts =>
    cases h : f t with
    | none =>
      refine phrase_congr (phrase_missing m (t :: ts) expected) fun n _ => ?_
      simp only [TokenReader.first, h, plain_error]
    | some a =>
      obtain ⟨ho, hc⟩ := hf t a h
      refine phrase_congr ((phrase_ok m ts a).cons ho hc) fun n _ => ?_
      simp only [TokenReader.first, h, plain_ok]

theorem phrase_token {t : Token} (ho : t ≠ .openParen) (hc : t ≠ .closeParen) (m : Nat)
    (ts : List Token) : Phrase (fun _ ts => plain (TokenReader.token t ts)) m ts := by
  refine phrase_first (fun u a h => ?_) m ts
  split at h
  · next heq => rw [heq]; exact ⟨ho, hc⟩
  · cases h

/-! ## Conditions -/

section Conditions

open Condition

theorem phrase_operand (m : Nat) (ts : List Token) :
    Phrase (fun _ ts => plain (TokenReader.first .operand Operand.ofToken? ts)) m ts := by
  refine phrase_first (fun t operand h => ?_) m ts
  constructor
  · rintro rfl
    cases h
  · rintro rfl
    cases h

theorem phrase_operator (m : Nat) (ts : List Token) :
    Phrase (fun _ ts => plain (TokenReader.first .comparisonOperator Operator.ofToken? ts)) m ts := by
  refine phrase_first (fun t op h => ?_) m ts
  constructor
  · rintro rfl
    cases h
  · rintro rfl
    cases h

theorem phrase_comparison (m : Nat) (ts : List Token) :
    Phrase (fun _ ts => plain (comparison ts)) m ts := by
  rw [funext plain_comparison]
  refine (phrase_operand m ts).bind fun left rest₁ _ => ?_
  refine (phrase_operator m rest₁).bind fun op rest₂ _ => ?_
  refine (phrase_operand m rest₂).bind fun right rest₃ _ => ?_
  dsimp only
  cases op.apply left right with
  | error error => exact phrase_error _ _ error
  | ok compared => exact phrase_ok m rest₃ compared

theorem keyword_ne (op : Connective) :
    Grammar.keyword op ≠ .openParen ∧ Grammar.keyword op ≠ .closeParen := by
  cases op <;> simp [Grammar.keyword]

/-- A chain goes on as long as its operands are phrases. -/
theorem phrase_chain {op : Connective} {r : Nat → TokenReader Measured} {m : Nat} {ts : List Token}
    (hr : ∀ us, Phrase (fun n us => plain (r n us)) m us) (left : Measured) :
    Phrase (fun n ts => plain (chain op (r n) left ts)) m ts := by
  -- on the length of what is left, which every operand makes shorter
  induction hn : ts.length using Nat.strongRecOn generalizing left ts with
  | ind length ih =>
    by_cases hk : ts.head? = some (Grammar.keyword op)
    · obtain ⟨after, rfl⟩ := List.head?_eq_some_iff.1 hk
      rw [List.length_cons] at hn
      have hafter : Phrase (fun n us => plain (chain op (r n) left (Grammar.keyword op :: us))) m
          after := by
        simp only [plain_chain_cons]
        refine (hr after).bind fun right rest hright => ?_
        dsimp only
        cases left.join op right with
        | error error => exact phrase_error _ _ error
        | ok joined =>
          have hshorter : rest.length < after.length := of_plain_eq_ok hright
          exact ih rest.length (by omega) joined rfl
      exact hafter.cons (keyword_ne op).1 (keyword_ne op).2
    · exact phrase_congr (phrase_ok m ts left) fun n _ => plain_chain_of_head hk

theorem phrase_chained {op : Connective} {r : Nat → TokenReader Measured} {m : Nat}
    (hr : ∀ ts, Phrase (fun n ts => plain (r n ts)) m ts) (ts : List Token) :
    Phrase (fun n ts => plain (chained op (r n) ts)) m ts := by
  rw [funext fun n => funext (plain_chained op (r n))]
  exact (hr ts).bind fun left rest _ => phrase_chain hr left

/-- The outcome for a condition in parentheses, from the outcome for what follows the first of them. -/
def close (out : Except Stop (Measured × List Token)) : Except Stop (Measured × List Token) :=
  match out with
  | .error s => .error { s with unclosed := s.unclosed + 1 }
  | .ok (m, rest) => (plain (TokenReader.token .closeParen rest)).bind fun (_, last) => .ok (m, last)

theorem Gated.close {n : Nat} {used more : List Token} {out small : Except Stop (Measured × List Token)}
    (h : Gated n used out small) (hmore : left out = more ++ left (close out))
    (hopen : ∀ e, openAfter n 0 used = some e →
      ∃ e', openAfter (n + 1) 0 (.openParen :: used ++ more) = some e') :
    Gated (n + 1) (.openParen :: used ++ more) (Nesting.close out) (Nesting.close small) := by
  cases h with
  | within he =>
    obtain ⟨e', he'⟩ := hopen _ he
    exact .within he'
  | beyond before after hused hbefore =>
    rw [hmore, ← List.append_assoc, List.cons_append]
    refine .beyond (.openParen :: before) (after ++ more) ?_ (openAfter_parentheses hbefore)
    rw [hused, List.cons_append, List.append_assoc, List.cons_append]

/-- What is read of a condition in parentheses: the closing one as well, if it is there. -/
theorem Reads.close {m : Nat} {inner used : List Token} {out : Except Stop (Measured × List Token)}
    (h : Reads m inner used out) (hout : plain (read m inner) = out) :
    ∃ more, left out = more ++ left (close out) ∧
      Reads (m + 1) (.openParen :: inner) (.openParen :: used ++ more) (Nesting.close out) ∧
      ∀ n e, openAfter n 0 used = some e →
        ∃ e', openAfter (n + 1) 0 (.openParen :: used ++ more) = some e' := by
  cases h with
  | @error s hts hkeeps =>
    refine ⟨[], rfl, ?_, fun n e he => ⟨e + 1, ?_⟩⟩
    · rw [List.append_nil]
      refine .error (congrArg _ hts) (hkeeps.openParen fun c hread => ?_)
      cases hout.symm.trans (hts ▸ hread)
    · rw [List.append_nil]
      exact openAfter_parentheses he
  | @ok a rest hts he =>
    by_cases hc : rest.head? = some .closeParen
    · obtain ⟨last, rfl⟩ := List.head?_eq_some_iff.1 hc
      have hclose : Nesting.close (.ok (a, .closeParen :: last)) = .ok (a, last) := by
        rw [Nesting.close, plain_token_eq_ok.2 rfl]
        rfl
      have hopen : ∀ n e, openAfter n 0 used = some e →
          openAfter (n + 1) 0 (.openParen :: used ++ [.closeParen]) = some 0 := by
        intro n e hn
        obtain rfl := openAfter_unique he hn
        exact openAfter_append_eq_some.2 ⟨1, openAfter_parentheses hn, rfl⟩
      rw [hclose]
      refine ⟨[.closeParen], rfl, .ok ?_ (hopen m 0 he), fun n e hn => ⟨0, hopen n e hn⟩⟩
      rw [hts, List.cons_append, List.cons_append, List.append_assoc, List.singleton_append]
    · obtain ⟨error, hclose⟩ : ∃ error,
          Nesting.close (.ok (a, rest)) = .error { error, rest } := by
        obtain ⟨error, herror⟩ := missing_eq (.token .closeParen) rest
        refine ⟨error, ?_⟩
        rw [← herror, Nesting.close]
        cases rest with
        | nil => rfl
        | cons t rest =>
          have ht : t ≠ .closeParen := fun h => hc (by rw [h]; rfl)
          simp only [TokenReader.token, TokenReader.first, if_neg ht]
          rfl
      rw [hclose]
      refine ⟨[], rfl, ?_, fun n e he => ⟨e + 1, ?_⟩⟩
      · rw [List.append_nil]
        exact .error (congrArg _ hts) (keeps_of_missing he (hts ▸ hout) hc)
      · rw [List.append_nil]
        exact openAfter_parentheses he

theorem plain_primary_openParen (n : Nat) (inner : List Token) :
    plain (primary (n + 1) (.openParen :: inner)) =
      close (plain (reader n (.chain .or) inner)) := plain_primary_succ n inner

/-- **A condition in parentheses**, of which no more than the bound allows are opened. -/
theorem Phrase.parentheses {m : Nat} {inner : List Token}
    (h : Phrase (fun n ts => plain (read n ts)) m inner) :
    Phrase (fun n ts => plain (primary n ts)) (m + 1) (.openParen :: inner) := by
  obtain ⟨used, hreads, hgated⟩ := h
  obtain ⟨more, hmore, hreads', hopen⟩ := hreads.close rfl
  refine ⟨.openParen :: used ++ more, ?_, fun n hn => ?_⟩
  · dsimp only
    rw [plain_primary_openParen]
    exact hreads'
  · dsimp only
    rw [plain_primary_openParen]
    cases n with
    | zero =>
      rw [plain_primary_zero, reader, hreads'.eq_append]
      exact .beyond [] (used ++ more) rfl rfl
    | succ n =>
      rw [plain_primary_openParen]
      exact (hgated n (Nat.le_of_succ_le_succ hn)).close hmore (hopen n)

/-- **Primaries**, with conditions in parentheses among them. -/
theorem phrase_primary (m : Nat) (ts : List Token) :
    Phrase (fun n ts => plain (primary n ts)) m ts := by
  -- on the bound: inside of parentheses it is lower by one
  induction m generalizing ts with
  | zero =>
    by_cases ho : ts.head? = some .openParen
    · obtain ⟨inner, rfl⟩ := List.head?_eq_some_iff.1 ho
      refine phrase_congr (phrase_error 0 _ (.tooDeep maxParentheses)) fun n hn => ?_
      rw [Nat.le_zero.1 hn]
      exact plain_primary_zero inner
    · exact phrase_congr (phrase_comparison 0 ts) fun n _ => by rw [primary_of_head ho]
  | succ m ih =>
    by_cases ho : ts.head? = some .openParen
    · obtain ⟨inner, rfl⟩ := List.head?_eq_some_iff.1 ho
      exact (phrase_chained (phrase_chained ih) inner).parentheses
    · exact phrase_congr (phrase_comparison (m + 1) ts) fun n _ => by rw [primary_of_head ho]

/-- **Conditions.** -/
theorem phrase_reader (rank : Grammar.Rank) (m : Nat) (ts : List Token) :
    Phrase (fun n ts => plain (reader n rank ts)) m ts := by
  match rank with
  | .primary => exact phrase_primary m ts
  | .chain .and => exact phrase_chained (phrase_primary m) ts
  | .chain .or => exact phrase_chained (phrase_chained (phrase_primary m)) ts

end Conditions

/-! ## Statements -/

section Statements

open Clause

theorem phrase_columns (m : Nat) (done : List String) (ts : List Token) :
    Phrase (fun _ ts => columns done ts) m ts := by
  fun_induction columns done ts with
  | case1 done name rest ih =>
    refine phrase_congr ((ih.cons (t := .comma) ?_ ?_).cons (t := .ident name) ?_ ?_) fun _ _ => ?_
    · simp
    · simp
    · simp
    · simp
    · rw [columns]
  | case2 done name rest hc =>
    refine phrase_congr ((phrase_ok m rest (Text.lowerCase name :: done).reverse).cons
      (t := .ident name) ?_ ?_) fun _ _ => ?_
    · simp
    · simp
    · rw [columns]
      exact hc
  | case3 done ts hne hne' =>
    refine phrase_congr (phrase_missing m ts .columnName) fun _ _ => ?_
    rw [columns]
    · exact hne
    · exact hne'

theorem phrase_selection (m : Nat) (ts : List Token) :
    Phrase (fun _ ts => selection ts) m ts := by
  rw [funext selection_eq]
  refine (phrase_token (by simp) (by simp) m ts).bind fun _ rest _ => ?_
  dsimp only
  by_cases hs : rest.head? = some .star
  · obtain ⟨rest, rfl⟩ := List.head?_eq_some_iff.1 hs
    exact phrase_congr ((phrase_ok m rest []).cons (t := .star) (by simp) (by simp)) fun _ _ => rfl
  · by_cases hf : rest.head? = some (.keyword .from_)
    · obtain ⟨rest, rfl⟩ := List.head?_eq_some_iff.1 hf
      exact phrase_congr (phrase_error m _ .emptySelection) fun _ _ => rfl
    · refine phrase_congr (phrase_columns m [] rest) fun _ _ => ?_
      split
      · exact absurd rfl hs
      · exact absurd rfl hf
      · rfl

theorem phrase_table (m : Nat) (ts : List Token) : Phrase (fun _ ts => Clause.table ts) m ts := by
  rw [funext table_eq]
  refine (phrase_token (by simp) (by simp) m ts).bind fun _ rest _ => ?_
  refine (phrase_first (fun t name h => ?_) m rest).bind fun name rest _ => ?_
  · obtain ⟨name, rfl, -⟩ := name?_eq_some.1 h
    exact ⟨by simp, by simp⟩
  · dsimp only
    cases splitQualified? name with
    | none => exact phrase_error m rest _
    | some qualified =>
      by_cases hc : rest.head? = some .comma
      · exact phrase_congr (phrase_error m rest _) fun _ _ => if_pos hc
      · exact phrase_congr (phrase_ok m rest qualified) fun _ _ => if_neg hc

theorem phrase_filters (m : Nat) (ts : List Token) : Phrase (fun n ts => filters n ts) m ts := by
  by_cases hw : ts.head? = some (.keyword .where_)
  · obtain ⟨rest, rfl⟩ := List.head?_eq_some_iff.1 hw
    have hcondition : Phrase (fun n us => filters n (.keyword .where_ :: us)) m rest := by
      simp only [filters_where]
      exact (phrase_reader (.chain .or) m rest).bind fun c rest _ => phrase_ok m rest _
    exact hcondition.cons (by simp) (by simp)
  · exact phrase_congr (phrase_ok m ts []) fun n _ => filters_of_head hw

theorem phrase_limit (m : Nat) (ts : List Token) : Phrase (fun _ ts => Clause.limit ts) m ts := by
  fun_cases Clause.limit ts with
  | case1 n rest hn =>
    refine phrase_congr ((phrase_error m (.number n :: rest) (.negativeLimit n)).cons
      (t := .keyword .limit) (by simp) (by simp)) fun _ _ => ?_
    rw [Clause.limit, if_pos hn]
  | case2 n rest hn ho =>
    refine phrase_congr (((phrase_error m rest (.unsupported (.token (.keyword .offset)))).cons
      (t := .number n) (by simp) (by simp)).cons (t := .keyword .limit) (by simp) (by simp))
      fun _ _ => ?_
    rw [Clause.limit, if_neg hn, if_pos ho]
  | case3 n rest hn ho =>
    refine phrase_congr (((phrase_ok m rest n.toNat).cons (t := .number n) (by simp) (by simp)).cons
      (t := .keyword .limit) (by simp) (by simp)) fun _ _ => ?_
    rw [Clause.limit, if_neg hn, if_neg ho]
  | case4 rest hne =>
    refine phrase_congr ((phrase_missing m rest .integer).cons (t := .keyword .limit) (by simp)
      (by simp)) fun _ _ => ?_
    rw [Clause.limit]
    exact hne
  | case5 ts hne hne' =>
    refine phrase_congr (phrase_ok m ts 0) fun _ _ => ?_
    rw [Clause.limit]
    · exact hne
    · exact hne'

theorem phrase_end (m : Nat) (ts : List Token) :
    Phrase (fun _ ts => (end_ ts).map fun ignored => (ignored, ts)) m ts := by
  fun_cases end_ ts with
  | case1 => exact phrase_congr (phrase_ok m [] 0) fun _ _ => rfl
  | case2 rest => exact phrase_congr (phrase_ok m (.semicolon :: rest) rest.length) fun _ _ => rfl
  | case3 ts hne hne' =>
    refine phrase_congr (phrase_missing m ts .endOfStatement) fun _ _ => ?_
    rw [end_]
    · rfl
    · exact hne
    · exact hne'

/-- The outcome for a statement, the number of tokens behind it with its query. -/
def statement (n : Nat) (ts : List Token) : Except Stop ((Query × Nat) × List Token) :=
  (StatementReader.statement n ts).map fun (q, ignored, rest) => ((q, ignored), rest)

theorem statement_eq (n : Nat) (ts : List Token) :
    statement n ts = (selection ts).bind fun (columns, ts) => (Clause.table ts).bind
      fun ((source, table), ts) => (filters n ts).bind fun (filters, ts) => (Clause.limit ts).bind
      fun (limit, ts) => ((end_ ts).map fun ignored => (ignored, ts)).bind fun (ignored, ts) =>
        .ok (({ source, table, columns, limit, filters }, ignored), ts) := by
  simp only [statement, StatementReader.statement, bind]
  rcases selection ts with s | ⟨columns, ts⟩
  · rfl
  simp only [Except.bind]
  rcases Clause.table ts with s | ⟨⟨source, table⟩, ts⟩
  · rfl
  simp only
  rcases filters n ts with s | ⟨filters, ts⟩
  · rfl
  simp only
  rcases Clause.limit ts with s | ⟨limit, ts⟩
  · rfl
  simp only
  cases end_ ts <;> rfl

/-- **Statements.** -/
theorem phrase_statement (m : Nat) (ts : List Token) : Phrase statement m ts := by
  rw [funext fun n => funext (statement_eq n)]
  refine (phrase_selection m ts).bind fun columns ts _ => ?_
  refine (phrase_table m ts).bind fun qualified ts _ => ?_
  refine (phrase_filters m ts).bind fun filters ts _ => ?_
  refine (phrase_limit m ts).bind fun limit ts _ => ?_
  exact (phrase_end m ts).bind fun ignored ts _ => phrase_ok m ts _

end Statements

end Nesting

end FederatedQuery
