/-
  How far a reading looks ahead.

  A reading sees the tokens that it has passed and the one at which it ends, and no others.

  * `Agree n us ts`: two lists of tokens are the same up to the index `n`;
  * `Local x`: on tokens that agree up to where the reading `x` ends, it does the same; `Local.bind`
    puts readings in sequence;
  * `local_current`, `local_advance`: the two steps that look at the tokens;
  * `local_columns`, `local_chain`, `local_primary`: loops and nested conditions;
  * `local_query`: a statement, but for the number of tokens behind it;
  * `StatementReader.read_congr`, `read_semicolon`: the same for statements read from a list of
    tokens, and what is behind their semicolon.
-/
import FederatedQuery.Proofs.Statement.Cursor.Calls

namespace FederatedQuery

namespace Cursor

variable {α β : Type}

/-! ## Two lists of tokens -/

/-- The tokens end with the end of the text, which stands nowhere else. -/
def Closed (tokens : List (Option Token)) : Prop := ∃ ts : List Token, tokens = ts.map some ++ [none]

/-- The tokens are the same up to the index `n`, with that one. -/
def Agree (n : Nat) (us ts : List (Option Token)) : Prop := ∀ i ≤ n, us[i]? = ts[i]?

theorem Agree.mono {n m : Nat} {us ts : List (Option Token)} (h : Agree n us ts) (hm : m ≤ n) :
    Agree m us ts := fun i hi => h i (Nat.le_trans hi hm)

/-- The same cursor on other tokens. -/
def on (c : Cursor) (us : List (Option Token)) : Cursor := { c with tokens := us }

/-- A place is in front of the end when there is a token. -/
theorem Closed.lt_iff {tokens : List (Option Token)} (h : Closed tokens) (n : Nat) :
    n < tokens.length - 1 ↔ ∃ t, tokens[n]? = some (some t) := by
  obtain ⟨ts, rfl⟩ := h
  simp only [List.length_append, List.length_map, List.length_singleton, Nat.add_sub_cancel]
  rw [List.getElem?_append, List.length_map]
  split
  · next hn => simp [hn]
  · next hn =>
    refine iff_of_false hn ?_
    rintro ⟨t, ht⟩
    have hmem := List.mem_of_getElem? ht
    simp at hmem

theorem Closed.lt_iff_of_eq {us ts : List (Option Token)} (hu : Closed us) (ht : Closed ts) {n : Nat}
    (h : us[n]? = ts[n]?) : n < us.length - 1 ↔ n < ts.length - 1 := by
  rw [hu.lt_iff, ht.lt_iff, h]

theorem Closed.length_pos {tokens : List (Option Token)} (h : Closed tokens) : 0 < tokens.length := by
  obtain ⟨ts, rfl⟩ := h
  simp

/-! ## Local readings -/

/-- The reading never goes back, and does the same on all tokens that agree with those of the cursor
    up to where it ends. -/
def Local (x : Reading α) : Prop :=
  ∀ ⦃c out c'⦄, Closed c.tokens → x.runFrom c = some (out, c') →
    c'.tokens = c.tokens ∧ c.place.position ≤ c'.place.position ∧
    ∀ us, Closed us → Agree c'.place.position us c.tokens →
      x.runFrom (c.on us) = some (out, c'.on us)

theorem Local.bind {x : Reading α} {f : α → Reading β} (hx : Local x) (hf : ∀ a, Local (f a)) :
    Local (x >>= f) := by
  intro c out c' hc hrun
  cases hfirst : x.runFrom c with
  | none =>
    rw [Reading.runFrom_bind_none hfirst] at hrun
    cases hrun
  | some found =>
    obtain ⟨result, c₁⟩ := found
    obtain ⟨htokens, hle, hsame⟩ := hx hc hfirst
    cases result with
    | error e =>
      rw [Reading.runFrom_bind_error hfirst] at hrun
      cases hrun
      exact ⟨htokens, hle, fun us hus hagree => Reading.runFrom_bind_error (hsame us hus hagree)⟩
    | ok a =>
      rw [Reading.runFrom_bind_ok hfirst] at hrun
      obtain ⟨htokens', hle', hsame'⟩ := hf a (htokens ▸ hc) hrun
      refine ⟨htokens'.trans htokens, Nat.le_trans hle hle', fun us hus hagree => ?_⟩
      rw [Reading.runFrom_bind_ok (hsame us hus (hagree.mono hle'))]
      exact hsame' us hus (htokens ▸ hagree)

/-! ## Steps -/

/-- A reading that sees no token, and does not go back. -/
theorem local_of_blind {x : Reading α} {out : Cursor → Except Halt α} {next : Cursor → Cursor}
    (hrun : ∀ c, x.runFrom c = some (out c, next c)) (htokens : ∀ c, (next c).tokens = c.tokens)
    (hforward : ∀ c, c.place.position ≤ (next c).place.position)
    (hblind : ∀ c us, out (c.on us) = out c ∧ next (c.on us) = (next c).on us) : Local x := by
  intro c _ _ _ h
  rw [hrun] at h
  cases h
  refine ⟨htokens c, hforward c, fun us _ _ => ?_⟩
  rw [hrun, (hblind c us).1, (hblind c us).2]

theorem local_unfinished : Local (unfinished : Reading α) := by
  intro c out c' _ hrun
  cases hrun

theorem local_pure (a : α) : Local (pure a) :=
  local_of_blind (fun _ => rfl) (fun _ => rfl) (fun _ => Nat.le_refl _) fun _ _ => ⟨rfl, rfl⟩

theorem local_refuse (error : StatementError) : Local (refuse error : Reading α) :=
  local_of_blind (fun _ => rfl) (fun _ => rfl) (fun _ => Nat.le_refl _) fun _ _ => ⟨rfl, rfl⟩

theorem local_position : Local position :=
  local_of_blind (fun _ => rfl) (fun _ => rfl) (fun _ => Nat.le_refl _) fun _ _ => ⟨rfl, rfl⟩

theorem local_openParentheses : Local openParentheses :=
  local_of_blind (fun _ => rfl) (fun _ => rfl) (fun _ => Nat.le_refl _) fun _ _ => ⟨rfl, rfl⟩

theorem local_openParenthesis : Local openParenthesis :=
  local_of_blind (fun _ => rfl) (fun _ => rfl) (fun _ => Nat.le_refl _) fun _ _ => ⟨rfl, rfl⟩

theorem local_endRound (loop : Loop) (start : Nat) : Local (endRound loop start) :=
  local_of_blind (fun _ => rfl) (fun _ => rfl) (fun _ => Nat.le_refl _) fun _ _ => ⟨rfl, rfl⟩

/-- The count of parentheses may fault, but not on account of the tokens. -/
theorem local_closeParenthesis : Local closeParenthesis := by
  intro c out c' _ hrun
  rw [runFrom_closeParenthesis] at hrun
  split at hrun
  · next h =>
    cases hrun
    exact ⟨rfl, Nat.le_refl _, fun us _ _ => (runFrom_closeParenthesis _).trans (if_pos h)⟩
  · next h =>
    cases hrun
    exact ⟨rfl, Nat.le_refl _, fun us _ _ => (runFrom_closeParenthesis _).trans (if_neg h)⟩

/-- The token at the cursor is the last one that is seen. -/
theorem local_current : Local current := by
  intro c out c' _ hrun
  have hrun' : ∀ c : Cursor, current.runFrom c =
      (entry c.tokens[c.place.position]? : Reading (Option Token)).runFrom c := fun _ => rfl
  rw [hrun'] at hrun
  have hsame : c' = c := by
    cases hentry : c.tokens[c.place.position]? <;> (rw [hentry] at hrun; cases hrun; rfl)
  subst hsame
  refine ⟨rfl, Nat.le_refl _, fun us _ hagree => ?_⟩
  rw [hrun']
  change (entry us[c'.place.position]?).runFrom _ = _
  rw [hagree _ (Nat.le_refl _)]
  cases hentry : c'.tokens[c'.place.position]? <;> (rw [hentry] at hrun; cases hrun; rfl)

/-- Whether there is a token to move past can be seen without looking behind it. -/
theorem local_advance : Local advance := by
  intro c out c' hc hrun
  rw [runFrom_advance hc.length_pos] at hrun
  split at hrun
  · next h =>
    cases hrun
    refine ⟨rfl, Nat.le_succ _, fun us hus hagree => ?_⟩
    have hlast := hus.lt_iff_of_eq hc (hagree _ (Nat.le_succ _))
    exact (runFrom_advance hus.length_pos).trans (by rw [on, if_pos (hlast.2 h)]; rfl)
  · next h =>
    cases hrun
    refine ⟨rfl, Nat.le_refl _, fun us hus hagree => ?_⟩
    have hlast := hus.lt_iff_of_eq hc (hagree _ (Nat.le_refl _))
    exact (runFrom_advance hus.length_pos).trans (by rw [on, if_neg (mt hlast.1 h)])

/-! ## Tokens -/

theorem local_missing (expected : Expected) : Local (missing expected : Reading α) :=
  local_current.bind fun _ => local_refuse _

theorem local_support : Local support := by
  refine local_current.bind fun t => ?_
  cases t with
  | none => exact local_pure ()
  | some t =>
    dsimp only
    split
    · exact local_refuse _
    · exact local_pure ()

theorem local_first (expected : Expected) (f : Token → Option α) : Local (first expected f) := by
  refine local_current.bind fun t => ?_
  split
  · next a _ => exact local_advance.bind fun _ => local_pure a
  · exact local_missing expected

theorem local_expect (t : Token) : Local (expect t) := local_first _ _

theorem local_accept (t : Token) : Local (accept t) := by
  refine local_current.bind fun u => ?_
  split
  · exact local_advance.bind fun _ => local_pure true
  · exact local_pure false

theorem local_checked (result : Except StatementError α) : Local (checked result) := by
  cases result with
  | ok a => exact local_pure a
  | error error => exact local_refuse error

/-! ## Clauses -/

theorem local_columns (fuel : Nat) (done : List String) : Local (columns fuel done) := by
  induction fuel generalizing done with
  | zero => exact local_unfinished
  | succ fuel ih =>
    refine local_position.bind fun start => (local_first _ _).bind fun name => ?_
    refine (local_accept _).bind fun more => (local_endRound _ _).bind fun _ => ?_
    split
    · exact ih _
    · exact local_pure _

theorem local_selection (fuel : Nat) : Local (selection fuel) := by
  refine (local_expect _).bind fun _ => (local_accept _).bind fun star => ?_
  split
  · exact local_pure []
  refine local_current.bind fun t => ?_
  split
  · exact local_refuse _
  · exact local_columns fuel []

theorem local_table : Local table := by
  refine (local_expect _).bind fun _ => (local_first _ _).bind fun name => ?_
  split
  · exact local_refuse _
  refine local_current.bind fun t => ?_
  split
  · exact local_refuse _
  · exact local_pure _

theorem local_limit : Local limit := by
  refine (local_accept _).bind fun found => ?_
  split
  · refine local_current.bind fun t => ?_
    split
    · split
      · exact local_refuse _
      refine local_advance.bind fun _ => local_current.bind fun t => ?_
      split
      · exact local_refuse _
      · exact local_pure _
    · exact local_missing _
  · exact local_pure 0

/-! ## Conditions -/

theorem local_comparison : Local comparison :=
  local_support.bind fun _ => (local_first _ _).bind fun _ => (local_first _ _).bind fun _ =>
    (local_first _ _).bind fun _ => local_checked _

theorem local_chain {op : Connective} {operand : Reading Measured} (h : Local operand) (fuel : Nat)
    (left : Measured) : Local (chain op operand fuel left) := by
  induction fuel generalizing left with
  | zero => exact local_unfinished
  | succ fuel ih =>
    refine local_position.bind fun start => (local_accept _).bind fun found => ?_
    split
    · exact h.bind fun right => (local_checked _).bind fun joined =>
        (local_endRound _ _).bind fun _ => ih joined
    · exact local_pure left

theorem local_chained {op : Connective} {operand : Reading Measured} (h : Local operand)
    (fuel : Nat) : Local (chained fuel op operand) := h.bind fun left => local_chain h fuel left

theorem local_primary (fuel : Nat) : Local (primary fuel) := by
  induction fuel with
  | zero => exact local_unfinished
  | succ fuel ih =>
    refine local_current.bind fun t => ?_
    split
    · refine local_openParentheses.bind fun d => ?_
      split
      · exact local_refuse _
      refine local_advance.bind fun _ => local_openParenthesis.bind fun _ => ?_
      refine (local_chained (local_chained ih fuel) fuel).bind fun inner => ?_
      exact local_closeParenthesis.bind fun _ => (local_expect _).bind fun _ => local_pure inner
    · exact local_comparison

theorem local_filters (fuel : Nat) : Local (filters fuel) := by
  refine (local_accept _).bind fun found => ?_
  split
  · exact (local_chained (local_chained (local_primary fuel) fuel) fuel).bind fun _ => local_pure _
  · exact local_pure []

/-! ## Statements -/

/-- Whether there are tokens to count can be seen, if not how many. -/
theorem local_remaining (a : α) : Local (do let _ ← remaining; pure a) := by
  have hrun : ∀ c : Cursor, Reading.runFrom (do let _ ← remaining; pure a) c =
      some (if c.place.position < c.tokens.length - 1 then .ok a else .error .fault, c) := fun c => by
    have hremaining := runFrom_remaining c
    by_cases h : c.place.position < c.tokens.length - 1
    · rw [if_pos h] at hremaining ⊢
      exact Reading.runFrom_bind_ok hremaining
    · rw [if_neg h] at hremaining ⊢
      exact Reading.runFrom_bind_error hremaining
  intro c out c' hc hout
  rw [hrun] at hout
  cases hout
  refine ⟨rfl, Nat.le_refl _, fun us hus hagree => ?_⟩
  rw [hrun]
  simp only [on, hus.lt_iff_of_eq hc (hagree _ (Nat.le_refl _))]

/-- The end of a statement, but for the number of tokens behind it. -/
theorem local_finish (a : α) : Local (do let _ ← finish; pure a) := by
  rw [finish, bind_assoc]
  refine local_current.bind fun t => ?_
  split
  · exact local_pure a
  · exact local_remaining a
  · exact (local_missing _).bind fun _ => local_pure a

/-- **A statement** is read without looking behind the place at which the reading ends, where the
    number of tokens that follow is left aside. -/
theorem local_query (fuel : Nat) : Local (Prod.fst <$> parse fuel) := by
  simp only [parse, map_bind, map_pure]
  refine (local_selection fuel).bind fun columns => local_table.bind fun qualified => ?_
  refine (local_filters fuel).bind fun filters => local_limit.bind fun limit => ?_
  exact local_finish _

/-! ## Readers -/

theorem runFrom_map (f : α → β) (x : Reading α) (c : Cursor) :
    Reading.runFrom (f <$> x) c = (x.runFrom c).map fun found => (found.1.map f, found.2) := by
  have hmap : Reading.runFrom (f <$> x) c =
      ((ExceptT.run x).run c).map fun found => (found.1.map f, found.2) := by
    rw [Reading.runFrom, ExceptT.run_map, StateT.run_map]
    rfl
  exact hmap

/-- The query, or the error, is what the caller is told. -/
theorem told_value {out out' : Except Halt (Query × Nat)} (h : out.map Prod.fst = out'.map Prod.fst) :
    (told out).map Logged.value = (told out').map Logged.value := by
  rcases out with e | ⟨q, n⟩ <;> rcases out' with e' | ⟨q', n'⟩ <;> cases h
  · cases e <;> rfl
  · rfl

theorem getElem?_closed {ts : List Token} {i : Nat} (h : i ≤ ts.length) :
    (ts.map some ++ [none])[i]? = some ts[i]? := by
  rcases Nat.lt_or_eq_of_le h with hi | rfl
  · rw [List.getElem?_append_left (by simpa using hi), List.getElem?_map,
      List.getElem?_eq_getElem hi, Option.map_some]
  · rw [List.getElem?_append_right (by simp)]
    simp

/-- Tokens that are the same up to `n` are so with the end behind them. -/
theorem agree_closed {us ts : List Token} {n : Nat} (hn : n ≤ ts.length)
    (h : ∀ i ≤ n, us[i]? = ts[i]?) : Agree n (us.map some ++ [none]) (ts.map some ++ [none]) := by
  intro i hi
  have hus : i ≤ us.length := by
    refine Nat.le_of_not_lt fun hlt => ?_
    have hlength : us[us.length]? = ts[us.length]? := h _ (by omega)
    rw [List.getElem?_eq_none (Nat.le_refl _)] at hlength
    have hle := List.getElem?_eq_none_iff.1 hlength.symm
    omega
  rw [getElem?_closed hus, getElem?_closed (Nat.le_trans hi hn), h i hi]

end Cursor

namespace StatementReader

/-- The position among the tokens at which a reading from their front ends. -/
def stop (ts : List Token) : Nat := ts.length - (read { rest := ts }).2.rest.length

/-- A cursor in front of the tokens ends where the reader does. -/
theorem run_ofTokens (ts : List Token) {fuel : Nat} (hfuel : ts.length < fuel) :
    ∃ out c, (Cursor.parse fuel).runFrom (Cursor.ofTokens ts) = some (out, c) ∧
      Cursor.told out = some (read { rest := ts }).1 ∧ c.place.position = stop ts ∧
      stop ts ≤ ts.length ∧
      c.place.openParentheses = (read { rest := ts }).2.openParentheses := by
  have hlength : (Cursor.ofTokens ts).tokens.length ≤ fuel := by
    simpa [Cursor.ofTokens] using Nat.succ_le_of_lt hfuel
  obtain ⟨out, c, hrun, hcall⟩ :=
    Cursor.call_of_sound (Cursor.sound_ofTokens ts) rfl hlength
  have hstart := ((Cursor.sound_ofTokens ts).stands rfl).reader_eq
  have hstands := hcall.sound.stands hcall.tokens_eq
  have htold := hcall.told_eq
  have hreader := hcall.reader_eq
  have hposition := hstands.position_eq
  rw [hcall.tokens_eq] at hposition
  rw [hstart] at htold hreader
  rw [hstands.reader_eq] at hreader
  change Cursor.told out = some (read { rest := ts }).1 at htold
  change _ = (read { rest := ts }).2 at hreader
  have hstop : stop ts = c.place.position := by
    rw [stop, ← hreader, List.length_drop]
    simp [Cursor.ofTokens] at hposition
    omega
  refine ⟨out, c, hrun, htold, hstop.symm, Nat.sub_le _ _, ?_⟩
  rw [← hreader]

end StatementReader

/-! ## The end of a statement -/

namespace Grammar

theorem Comparison.no_semicolon {ts : List Token} {p : Predicate} (h : Comparison ts p) :
    Token.semicolon ∉ ts := by
  cases h with
  | columnFirst ho hl _ => cases ho <;> cases hl <;> simp
  | literalFirst ho hl _ => cases ho <;> cases hl <;> simp
  | like hl => cases hl <;> simp

theorem Condition.no_semicolon {rank : Rank} {d : Nat} {ts : List Token} {p : Predicate}
    (h : Condition rank d ts p) : Token.semicolon ∉ ts := by
  induction h with
  | comparison h => exact h.no_semicolon
  | parentheses _ ih => simpa using ih
  | single _ ih => exact ih
  | @join op _ _ _ _ _ _ _ _ ihp ihq =>
    have hop : Token.semicolon ≠ keyword op := by cases op <;> simp [keyword]
    simp [ihp, ihq, hop]

theorem no_semicolon_of_names (names : List String) :
    Token.semicolon ∉ (names.map Token.ident).intersperse .comma := by
  induction names with
  | nil => simp
  | cons name names ih =>
    cases names with
    | nil => simp
    | cons other names => simpa [List.intersperse_cons_cons] using ih

theorem Selection.no_semicolon {ts : List Token} {columns : List String} (h : Selection ts columns) :
    Token.semicolon ∉ ts := by
  cases h with
  | all => simp
  | @names names _ => exact no_semicolon_of_names names

theorem Filters.no_semicolon {d : Nat} {ts : List Token} {filters : List Predicate}
    (h : Filters d ts filters) : Token.semicolon ∉ ts := by
  cases h with
  | none => simp
  | condition h => simpa using h.no_semicolon

theorem Limit.no_semicolon {ts : List Token} {n : Nat} (h : Limit ts n) :
    Token.semicolon ∉ ts := by
  cases h <;> simp

/-- A statement has no semicolon in front of its end. -/
theorem Body.no_semicolon {d : Nat} {ts : List Token} {q : Query} (h : Body d ts q) :
    Token.semicolon ∉ ts := by
  obtain ⟨hs, -, hf, hl⟩ := h
  simp [hs.no_semicolon, hf.no_semicolon, hl.no_semicolon]

end Grammar

namespace StatementReader

/-- A statement that is read ends at the first semicolon. -/
theorem body_of_read {before behind : List Token} {q : Query}
    (h : (read { rest := before ++ .semicolon :: behind }).1.value = .ok q)
    (hbefore : Token.semicolon ∉ before) :
    ∃ d, Grammar.Body d before q ∧ d ≤ maxParentheses ∧ ∀ p ∈ q.filters, p.height ≤ maxHeight := by
  obtain ⟨n, rest, hread⟩ := read_value_eq_ok.1 h
  obtain ⟨d, body, hsplit, hbody, hending, -, hd, hh⟩ := statement_sound hread
  have hbody' := hbody.no_semicolon
  -- both sides are split at their first semicolon
  have heq : before = body := by
    cases hending with
    | all =>
      rw [List.append_nil] at hsplit
      exact absurd (hsplit ▸ List.mem_append_right _ List.mem_cons_self) hbody'
    | semicolon after =>
      have hsplitOn := congrArg (List.splitOn Token.semicolon) hsplit
      rw [List.splitOn_append_cons_self_of_not_mem hbefore,
        List.splitOn_append_cons_self_of_not_mem hbody'] at hsplitOn
      exact (List.cons.inj hsplitOn).1
  exact ⟨d, heq ▸ hbody, Nat.le_trans hd (Nat.sub_le _ _), hh⟩

/-- Tokens that agree with others up to the position at which the reading ends are read alike. -/
theorem read_congr {us ts : List Token} (h : ∀ i ≤ stop ts, us[i]? = ts[i]?) :
    (read { rest := us }).1.value = (read { rest := ts }).1.value ∧ stop us = stop ts ∧
      (read { rest := us }).2.openParentheses = (read { rest := ts }).2.openParentheses := by
  have hus : us.length < max us.length ts.length + 1 := by omega
  have hts : ts.length < max us.length ts.length + 1 := by omega
  obtain ⟨out, c, hrun, htold, hposition, hle, hopen⟩ := run_ofTokens ts hts
  obtain ⟨out', c', hrun', htold', hposition', -, hopen'⟩ := run_ofTokens us hus
  have hquery := (Cursor.runFrom_map Prod.fst _ _).trans (congrArg (Option.map _) hrun)
  have hquery' := (Cursor.runFrom_map Prod.fst _ _).trans (congrArg (Option.map _) hrun')
  obtain ⟨-, -, hsame⟩ := Cursor.local_query _ ⟨ts, rfl⟩ hquery
  have hon := hsame (us.map some ++ [none]) ⟨us, rfl⟩
    (Cursor.agree_closed (hposition ▸ hle) (hposition ▸ h))
  have hend := Option.some.inj (hquery'.symm.trans hon)
  have hout : out'.map Prod.fst = out.map Prod.fst := congrArg Prod.fst hend
  have hc : c' = c.on (us.map some ++ [none]) := congrArg Prod.snd hend
  have hvalue := Cursor.told_value hout
  rw [htold, htold'] at hvalue
  refine ⟨Option.some.inj hvalue, ?_, ?_⟩
  · rw [← hposition', hc, ← hposition]
    rfl
  · rw [← hopen', hc, ← hopen]
    rfl

/-- What is behind the semicolon of a statement that is read is counted. -/
theorem read_semicolon {before behind : List Token} {q : Query}
    (h : (read { rest := before ++ .semicolon :: behind }).1.value = .ok q)
    (hbefore : Token.semicolon ∉ before) (others : List Token) :
    read { rest := before ++ .semicolon :: others } =
      (⟨.ok q, if others.length = 0 then [] else [.ignoredTokens others.length]⟩,
        { rest := .semicolon :: others }) := by
  obtain ⟨d, hbody, hd, hh⟩ := body_of_read h hbefore
  have hread : statement maxParentheses (before ++ .semicolon :: others) = _ :=
    statement_of_body hbody (.semicolon others) hd hh
  simp only [read, Nat.sub_zero, hread]
  rfl

/-- **One token of look-ahead.**  What a reader makes of its tokens is known from those up to the
    position at which it ends, that one included, where the list may end as well: the answer, the
    position and the number of parentheses that are open there are the same for all lists that agree
    so far.  When a statement is read, what is behind its semicolon is counted, and nothing else. -/
theorem read_of_agree (ts : List Token) :
    (∀ us : List Token, (∀ i ≤ stop ts, us[i]? = ts[i]?) →
      (read { rest := us }).1.value = (read { rest := ts }).1.value ∧ stop us = stop ts ∧
        (read { rest := us }).2.openParentheses = (read { rest := ts }).2.openParentheses) ∧
    ∀ q before behind, (read { rest := ts }).1.value = .ok q → ts = before ++ .semicolon :: behind →
      Token.semicolon ∉ before → ∀ others,
        read { rest := before ++ .semicolon :: others } =
          (⟨.ok q, if others.length = 0 then [] else [.ignoredTokens others.length]⟩,
            { rest := .semicolon :: others }) := by
  refine ⟨fun us h => read_congr h, ?_⟩
  rintro q before behind h rfl hbefore others
  exact read_semicolon h hbefore others

/-- A statement that is refused at its second star, with the position 6. -/
def refused : List Token :=
  [.keyword .select, .star, .keyword .from_, .ident "s.t", .keyword .where_, .ident "a", .star]

/-- What is behind the star is not seen; nor are the tokens behind a semicolon, save for their
    number. -/
theorem read_refused :
    (stop (refused ++ [.comma]) = 6 ∧
      (∀ i ≤ 6, (refused ++ [.semicolon, .star])[i]? = (refused ++ [.comma])[i]?) ∧
      (read { rest := refused ++ [.semicolon, .star] }).1.value =
        .error (.unexpected .comparisonOperator (some .star)) ∧
      stop (refused ++ [.semicolon, .star]) = 6) ∧
    read { rest := refused.take 4 ++ .semicolon :: [.star, .semicolon] } =
      (⟨.ok { source := "s", table := "t" }, [.ignoredTokens 2]⟩,
        { rest := .semicolon :: [.star, .semicolon] }) := by
  have hstop : stop (refused ++ [.comma]) = 6 := by decide +kernel
  have hvalue : (read { rest := refused ++ [.comma] }).1.value =
      .error (.unexpected .comparisonOperator (some .star)) := rfl
  have hagree : ∀ i ≤ 6, (refused ++ [.semicolon, .star])[i]? = (refused ++ [.comma])[i]? := by
    decide
  have hread : (read { rest := refused.take 4 ++ .semicolon :: [] }).1.value =
      .ok { source := "s", table := "t" } := rfl
  obtain ⟨hsame, hsame', -⟩ := (read_of_agree (refused ++ [.comma])).1 _ (hstop ▸ hagree)
  exact ⟨⟨hstop, hagree, hsame.trans hvalue, hsame'.trans hstop⟩,
    (read_of_agree _).2 _ _ _ hread rfl (by decide) [.star, .semicolon]⟩

end StatementReader

end FederatedQuery
