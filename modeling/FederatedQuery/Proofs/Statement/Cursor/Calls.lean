/-
  Reading on with the same cursor.

  A cursor may be used for as many statements as one likes, whether these are read or refused.

  * `tokenize_eq`: the end of a text comes last among its tokens, and only there;
  * `Call`: what a reading makes of a cursor;
  * `call_of_sound`: every reading comes to an end without a fault, and is a `Call`;
  * `calls_of_text`: the same after any number of readings of a text.
-/
import FederatedQuery.Proofs.Statement.Cursor.InStep

namespace FederatedQuery

theorem Scan.tokenize_eq (done : List (Option Token)) (input : List Char) :
    tokenize done input =
      ((all input).mapM id).map fun ts => done.reverse ++ ts.map some ++ [none] := by
  fun_induction tokenize done input with
  | case1 done input h =>
    rw [all_of_next_eq_none h]
    simp [Except.map, pure, Except.pure]
  | case2 done input e rest h =>
    rw [all_of_next_eq_some h]
    rfl
  | case3 done input t rest h ih =>
    rw [all_of_next_eq_some h, ih, List.mapM_cons]
    cases (all rest).mapM id with
    | error e => rfl
    | ok ts => simp [Except.map, bind, Except.bind, pure, Except.pure]

namespace Cursor

/-- A cursor in front of tokens. -/
def ofTokens (ts : List Token) : Cursor where
  tokens := ts.map some ++ [none]

theorem ofText?_eq (text : String) :
    ofText? text = (StatementReader.ofText? text).map fun r => ofTokens r.rest := by
  rw [ofText?, StatementReader.ofText?, Scan.tokens?, Scan.tokenize_eq]
  cases (Scan.all text.toList).mapM id <;> rfl

/-- The list reader that has the same in front of it. -/
def reader (c : Cursor) : StatementReader where
  rest := (c.tokens.drop c.place.position).filterMap id
  openParentheses := c.place.openParentheses

theorem Stands.reader_eq {all : List (Option Token)} {ts : List Token} {d : Nat} {c : Cursor}
    (h : Stands all ts d c) : c.reader = { rest := ts, openParentheses := d } := by
  have hrest : (ts.map some ++ [none]).filterMap id = ts := by
    simp [List.filterMap_map]
  rw [reader, h.tokens_eq, h.rest_eq, h.open_eq, hrest]

/-! ## Where a cursor stands -/

theorem drop_closed {ts : List Token} {n : Nat} (h : n ≤ ts.length) :
    (ts.map some ++ [none]).drop n = (ts.drop n).map some ++ [none] := by
  rw [List.drop_append_of_le_length (by simpa using h), List.map_drop]

/-- A cursor always stands somewhere. -/
theorem Sound.stands {c : Cursor} (h : c.Sound) {ts : List Token}
    (ht : c.tokens = ts.map some ++ [none]) :
    Stands c.tokens (ts.drop c.place.position) c.place.openParentheses c where
  sound := h
  tokens_eq := rfl
  rest_eq := by
    have hinside := h.inside c.place List.mem_cons_self
    rw [ht, List.length_append, List.length_map, List.length_singleton] at hinside
    rw [ht]
    exact drop_closed (Nat.le_of_lt_succ hinside)
  open_eq := rfl

theorem Stands.eq_drop {c : Cursor} {all : List (Option Token)} {rest : List Token} {d : Nat}
    (h : Stands all rest d c) {ts : List Token} (ht : all = ts.map some ++ [none]) :
    ts.drop c.place.position = rest := by
  have hposition := h.position_eq
  rw [ht, List.length_append, List.length_map, List.length_singleton] at hposition
  have hdrop := (drop_closed (by omega)).symm.trans (ht ▸ h.rest_eq)
  exact (List.map_inj_right fun _ _ => Option.some.inj).1 (List.append_cancel_right hdrop)

/-! ## One reading -/

/-- What the caller is told; a fault tells nothing. -/
def told : Except Halt (Query × Nat) → Option (Logged Event (Except StatementError Query))
  | .ok (query, ignored) =>
    some ⟨.ok query, if ignored = 0 then [] else [.ignoredTokens ignored]⟩
  | .error (.refused error) => some ⟨.error error, []⟩
  | .error .fault => none

/-- The cursor stands at the end of the text, or at a semicolon with `n` tokens between. -/
def Ignores (c : Cursor) (n : Nat) : Prop :=
  (c.tokens[c.place.position]? = some none ∧ n = 0) ∨
    ∃ before between : List Token,
      c.tokens = (before ++ .semicolon :: between).map some ++ [none] ∧
      before.length = c.place.position ∧ between.length = n

/-- What a reading makes of a cursor. -/
structure Call (c : Cursor) (out : Except Halt (Query × Nat)) (c' : Cursor) : Prop where
  sound : c'.Sound
  tokens_eq : c'.tokens = c.tokens
  keeps : c.Keeps c'
  /-- There is no fault, and the answer is that of the list reader. -/
  told_eq : told out = some c.reader.read.1
  reader_eq : c'.reader = c.reader.read.2
  /-- A statement that is read closes its parentheses, takes the cursor further, and is followed by
      the tokens that are ignored. -/
  found : ∀ q n, out = .ok (q, n) → c'.place.openParentheses = c.place.openParentheses ∧
    c.place.position < c'.place.position ∧ c'.Ignores n

theorem told_ending (d : Nat) (out : Except Stop ((Query × Nat) × List Token)) :
    told (ending out) = some (StatementReader.told d out).1 := by
  rcases out with s | ⟨⟨q, n⟩, rest⟩ <;> rfl

theorem told_reader (d : Nat) (out : Except Stop ((Query × Nat) × List Token)) :
    (StatementReader.told d out).2 =
      { rest := Nesting.left out, openParentheses := d + unclosed out } := by
  rcases out with s | ⟨⟨q, n⟩, rest⟩ <;> rfl

/-- Where a cursor stands once it has read a statement. -/
theorem Stands.ignores {c : Cursor} {all : List (Option Token)} {rest : List Token} {d : Nat}
    (h : Stands all rest d c) {ts : List Token} (ht : all = ts.map some ++ [none])
    (hending : Grammar.Ending rest) : c.Ignores rest.tail.length := by
  cases hending with
  | all => exact Or.inl ⟨h.getElem?_eq, rfl⟩
  | semicolon between =>
    have hposition := h.position_eq
    have hdrop := h.eq_drop ht
    rw [ht, List.length_append, List.length_map, List.length_singleton] at hposition
    refine Or.inr ⟨ts.take c.place.position, between, ?_, ?_, rfl⟩
    · rw [h.tokens_eq, ht, ← hdrop, List.take_append_drop]
    · rw [List.length_take]
      omega

/-- A statement has at least one token, and what is ignored comes after the first one behind it. -/
theorem statement_eq_ok {levels ignored : Nat} {ts rest : List Token} {q : Query}
    (h : Nesting.statement levels ts = .ok ((q, ignored), rest)) :
    rest.length < ts.length ∧ Grammar.Ending rest ∧ rest.tail.length = ignored := by
  rw [Nesting.statement] at h
  cases hs : StatementReader.statement levels ts with
  | error s => rw [hs] at h; cases h
  | ok found =>
    obtain ⟨q', ignored', rest'⟩ := found
    rw [hs] at h
    cases h
    obtain ⟨d, body, rfl, hbody, hending, hignored, -, -⟩ := StatementReader.statement_sound hs
    refine ⟨?_, hending, hignored.symm⟩
    cases hbody
    simp only [List.length_append, List.length_cons]
    omega

/-- **Every reading comes to an end**, without a fault, on as much fuel as there are tokens. -/
theorem call_of_sound {c : Cursor} (h : c.Sound) {ts : List Token}
    (ht : c.tokens = ts.map some ++ [none]) {fuel : Nat} (hfuel : c.tokens.length ≤ fuel) :
    ∃ out c', (parse fuel).runFrom c = some (out, c') ∧ Call c out c' := by
  have hstands := h.stands ht
  have hposition := hstands.position_eq
  have hlevels : maxParentheses - c.place.openParentheses + c.place.openParentheses =
      maxParentheses := Nat.sub_add_cancel hstands.within
  have hread := StatementReader.read_eq_told c.reader
  rw [hstands.reader_eq] at hread
  have henough : (ts.drop c.place.position).length < fuel := by omega
  obtain ⟨c', hrun, hstands', hkeeps⟩ := tracks_parse hlevels henough c hstands
  generalize hout : Nesting.statement (maxParentheses - c.place.openParentheses)
    (ts.drop c.place.position) = out at hread hrun hstands'
  refine ⟨ending out, c', hrun, hstands'.sound, hstands'.tokens_eq, hkeeps, ?_, ?_, ?_⟩
  · rw [hstands.reader_eq, hread]
    exact told_ending _ _
  · rw [hstands.reader_eq, hread, told_reader]
    exact hstands'.reader_eq
  · rintro q n hq
    rcases out with s | ⟨⟨q', n'⟩, rest⟩
    · cases hq
    · cases hq
      obtain ⟨hshorter, hending, rfl⟩ := statement_eq_ok hout
      have hposition' := hstands'.position_eq
      change _ + rest.length + 1 = _ at hposition'
      exact ⟨hstands'.open_eq, by omega, hstands'.ignores ht hending⟩

/-! ## Several readings -/

theorem sound_ofTokens (ts : List Token) : (ofTokens ts).Sound where
  inside := by simp [places, ofTokens]
  forward := List.pairwise_singleton _ _
  within := by simp [places, ofTokens]
  advancing := by simp [ofTokens]

/-- A cursor may be used any number of times. -/
theorem after_ofTokens (ts : List Token) {fuel : Nat} (hfuel : (ofTokens ts).tokens.length ≤ fuel)
    (k : Nat) :
    ∃ c, (ofTokens ts).after fuel k = some c ∧ c.tokens = ts.map some ++ [none] ∧ c.Sound ∧
      c.reader = StatementReader.after { rest := ts } k := by
  induction k with
  | zero =>
    have hstands := (sound_ofTokens ts).stands rfl
    exact ⟨ofTokens ts, rfl, rfl, hstands.sound, hstands.reader_eq⟩
  | succ k ih =>
    obtain ⟨c, hafter, ht, hsound, hreader⟩ := ih
    have hlength := Nat.le_of_eq (congrArg List.length ht)
    obtain ⟨out, c', hrun, hcall⟩ := call_of_sound hsound ht (Nat.le_trans hlength hfuel)
    refine ⟨c', ?_, hcall.tokens_eq.trans ht, hcall.sound, ?_⟩
    · rw [after, hafter, Option.bind_some, hrun]
      rfl
    · rw [hcall.reader_eq, hreader]
      rfl

/-- **Readings of a text** always come to an end and never fault, however many there are and whatever
    came of the earlier ones; no loop makes more rounds than there are tokens.  The end of the text is
    its last token and no other.  At all times the cursor is among the tokens, never goes back, has
    no more parentheses open than are allowed, and every round of a loop takes it further. -/
theorem calls_of_text {text : String} {c : Cursor} (h : ofText? text = .ok c) :
    ∃ ts, Scan.tokens? text = .ok ts ∧ c.tokens = ts.map some ++ [none] ∧
      ∀ fuel, c.tokens.length ≤ fuel → ∀ k, ∃ c₁ out c₂,
        c.after fuel k = some c₁ ∧ c₁.tokens = c.tokens ∧ c₁.Sound ∧
        c₁.reader = StatementReader.after { rest := ts } k ∧
        (parse fuel).runFrom c₁ = some (out, c₂) ∧ Call c₁ out c₂ := by
  rw [ofText?_eq, StatementReader.ofText?] at h
  cases hscan : Scan.tokens? text with
  | error e => rw [hscan] at h; cases h
  | ok ts =>
    rw [hscan] at h
    cases h
    refine ⟨ts, rfl, rfl, fun fuel hfuel k => ?_⟩
    obtain ⟨c₁, hafter, ht, hsound, hreader⟩ := after_ofTokens ts hfuel k
    have hlength := Nat.le_of_eq (congrArg List.length ht)
    obtain ⟨out, c₂, hrun, hcall⟩ := call_of_sound hsound ht (Nat.le_trans hlength hfuel)
    exact ⟨c₁, out, c₂, hafter, ht, hsound, hreader, hrun, hcall⟩

/-- A reading that begins with all parentheses open. -/
theorem calls_of_abandoned :
    ∃ c c₁ out c₂, ofText? StatementReader.abandoned = .ok c ∧
      c.after c.tokens.length 1 = some c₁ ∧ c₁.place.openParentheses = maxParentheses ∧
      (parse c.tokens.length).runFrom c₁ = some (out, c₂) ∧ Call c₁ out c₂ := by
  obtain ⟨r, hr, hafter⟩ := StatementReader.after_abandoned
  have hc : ofText? StatementReader.abandoned = .ok (ofTokens r.rest) := by
    rw [ofText?_eq, hr]
    rfl
  obtain ⟨ts, hscan, ht, hcalls⟩ := calls_of_text hc
  obtain ⟨c₁, out, c₂, hafter', -, -, hreader, hrun, hcall⟩ := hcalls _ (Nat.le_refl _) 1
  refine ⟨_, c₁, out, c₂, hc, hafter', ?_, hrun, hcall⟩
  have hts : r = { rest := ts } := by
    rw [StatementReader.ofText?, hscan] at hr
    exact (Except.ok.inj hr).symm
  rw [← hts, hafter] at hreader
  exact congrArg StatementReader.openParentheses hreader

end Cursor

end FederatedQuery
