/-
  Reading on with the same reader.

  A reader may be used again after an error.  It goes on where it stopped, but the parentheses in which
  it stopped still count as open.

  * `StatementReader.after r k`: the reader after `k` readings;
  * `fresh r`: what a reader that starts afresh makes of the tokens that are left;
  * `read_eq`: a reading is that of a fresh reader, as long as the parentheses left open by earlier
    errors leave room for those that the fresh one reads;
  * `read_after`: the same after any number of readings.
-/
import FederatedQuery.Proofs.Statement.Parentheses

namespace FederatedQuery

namespace StatementReader

open Nesting (openAfter)

/-- The reader after some readings, whatever came of them. -/
def after (r : StatementReader) : Nat → StatementReader
  | 0 => r
  | k + 1 => (r.after k).read.2

/-- What a reader that starts afresh makes of the tokens that are left. -/
def fresh (r : StatementReader) : Logged Event (Except StatementError Query) × StatementReader :=
  read { rest := r.rest }

/-! ## One reading -/

/-- What is told of the outcome of a statement, and where the reader stands then. -/
def told (openParentheses : Nat) (out : Except Stop ((Query × Nat) × List Token)) :
    Logged Event (Except StatementError Query) × StatementReader :=
  match out with
  | .ok ((query, ignored), rest) =>
    (⟨.ok query, if ignored = 0 then [] else [.ignoredTokens ignored]⟩, { rest, openParentheses })
  | .error stop =>
    (⟨.error stop.error, []⟩,
      { rest := stop.rest, openParentheses := openParentheses + stop.unclosed })

theorem read_eq_told (r : StatementReader) :
    r.read = told r.openParentheses
      (Nesting.statement (maxParentheses - r.openParentheses) r.rest) := by
  rw [read, Nesting.statement]
  cases statement (maxParentheses - r.openParentheses) r.rest <;> rfl

theorem fresh_eq_told (r : StatementReader) :
    r.fresh = told 0 (Nesting.statement maxParentheses r.rest) := read_eq_told { rest := r.rest }

theorem rest_told (d : Nat) (out : Except Stop ((Query × Nat) × List Token)) :
    (told d out).2.rest = Nesting.left out := by
  cases out <;> rfl

theorem told_add (d : Nat) (out : Except Stop ((Query × Nat) × List Token)) :
    told d out = ((told 0 out).1,
      { rest := (told 0 out).2.rest, openParentheses := d + (told 0 out).2.openParentheses }) := by
  cases out with
  | ok => rfl
  | error s => simp [told]

/-- What a fresh reading leaves open: nothing after a statement, and after an error the parentheses in
    which it stopped, but for the last one if a whole condition stands behind that and its closing
    parenthesis is missing. -/
def LeavesOpen (n : Nat) (used : List Token)
    (reading : Logged Event (Except StatementError Query) × StatementReader) : Prop :=
  (∀ q, reading.1.value = .ok q → reading.2.openParentheses = 0) ∧
  Nesting.Keeps n used reading.2.rest reading.2.openParentheses

theorem leavesOpen_told {n : Nat} {ts used : List Token}
    {out : Except Stop ((Query × Nat) × List Token)} (h : Nesting.Reads n ts used out) :
    LeavesOpen n used (told 0 out) := by
  cases h with
  | @ok x rest _ he =>
    obtain ⟨q, ignored⟩ := x
    exact ⟨fun _ _ => rfl, Nesting.keeps_zero he rest⟩
  | @error s _ hkeeps =>
    refine ⟨fun q hq => ?_, ?_⟩
    · cases hq
    · rw [told, Nat.zero_add]
      exact hkeeps

/-- **A reading** is that of a fresh reader, as long as what is read there never has more parentheses
    open than are still allowed; otherwise it stops in front of the first one too many. -/
theorem read_eq {r : StatementReader} (h : r.openParentheses ≤ maxParentheses) :
    ∃ used, r.rest = used ++ r.fresh.2.rest ∧ LeavesOpen maxParentheses used r.fresh ∧
      match openAfter maxParentheses r.openParentheses used with
      | some _ => r.read = (r.fresh.1, {
          rest := r.fresh.2.rest
          openParentheses := r.openParentheses + r.fresh.2.openParentheses })
      | none => ∃ before after, used = before ++ .openParen :: after ∧
          openAfter maxParentheses r.openParentheses before = some maxParentheses ∧
          r.read = (pure (.error (.tooDeep maxParentheses)), {
            rest := .openParen :: after ++ r.fresh.2.rest
            openParentheses := maxParentheses }) := by
  obtain ⟨used, hreads, hgated⟩ := Nesting.phrase_statement maxParentheses r.rest
  have hbound : maxParentheses - r.openParentheses + r.openParentheses = maxParentheses :=
    Nat.sub_add_cancel h
  have hsmall := hgated _ (Nat.sub_le maxParentheses r.openParentheses)
  rw [r.fresh_eq_told, r.read_eq_told, rest_told]
  refine ⟨used, hreads.eq_append, leavesOpen_told hreads, ?_⟩
  generalize Nesting.statement maxParentheses r.rest = out at hreads hsmall
  generalize Nesting.statement (maxParentheses - r.openParentheses) r.rest = small at hsmall
  cases hsmall with
  | within he =>
    have hopen := Nesting.openAfter_shift he r.openParentheses
    rw [hbound, Nat.zero_add] at hopen
    rw [hopen, told_add, rest_told]
  | beyond before after hused hbefore =>
    have hopen := Nesting.openAfter_shift hbefore r.openParentheses
    rw [hbound, Nat.zero_add] at hopen
    have hnone : openAfter maxParentheses r.openParentheses used = none := by
      rw [hused, Nesting.openAfter_append, hopen, Option.bind_some, Nesting.openAfter_cons,
        Nesting.step, if_neg (Nat.lt_irrefl _)]
      rfl
    rw [hnone]
    refine ⟨before, after, hused, hopen, ?_⟩
    simp only [told, Nesting.tooDeep, Nat.add_comm r.openParentheses, hbound]
    rfl

/-! ## Several readings -/

/-- A reading takes tokens off the front, and no more parentheses are open than are allowed. -/
theorem read_within {r : StatementReader} (h : r.openParentheses ≤ maxParentheses) :
    (∃ used, r.rest = used ++ r.read.2.rest) ∧ r.read.2.openParentheses ≤ maxParentheses := by
  obtain ⟨used, hreads, -⟩ :=
    Nesting.phrase_statement (maxParentheses - r.openParentheses) r.rest
  rw [r.read_eq_told, rest_told]
  refine ⟨⟨used, hreads.eq_append⟩, ?_⟩
  generalize Nesting.statement (maxParentheses - r.openParentheses) r.rest = out at hreads
  cases hreads with
  | ok => exact h
  | error _ hkeeps =>
    have hroom := hkeeps.le
    simp only [told]
    omega

theorem after_within (ts : List Token) (k : Nat) :
    (∃ used, ts = used ++ (after { rest := ts } k).rest) ∧
      (after { rest := ts } k).openParentheses ≤ maxParentheses := by
  induction k with
  | zero => exact ⟨⟨[], rfl⟩, Nat.zero_le _⟩
  | succ k ih =>
    obtain ⟨⟨used, hused⟩, hopen⟩ := ih
    obtain ⟨⟨used', hused'⟩, hopen'⟩ := read_within hopen
    refine ⟨⟨used ++ used', ?_⟩, hopen'⟩
    rw [List.append_assoc]
    exact hused.trans (congrArg _ hused')

/-- **What errors leave behind** is the place and the number of parentheses that are still open.  After
    any number of readings, the next one is that of a reader that starts afresh on the remaining
    tokens, as long as what is read there never has more parentheses open, those left behind
    included, than are allowed; otherwise it is refused as too deep at the first one too many.  A
    reading adds to the number only when it fails: the parentheses in which it stopped, but for one
    whose closing parenthesis was missing behind a whole condition. -/
theorem read_after (ts : List Token) (k : Nat) :
    ∃ r, r = after { rest := ts } k ∧ (∃ earlier, ts = earlier ++ r.rest) ∧
      r.openParentheses ≤ maxParentheses ∧
      ∃ used, r.rest = used ++ r.fresh.2.rest ∧ LeavesOpen maxParentheses used r.fresh ∧
        match openAfter maxParentheses r.openParentheses used with
        | some _ => r.read = (r.fresh.1, {
            rest := r.fresh.2.rest
            openParentheses := r.openParentheses + r.fresh.2.openParentheses })
        | none => ∃ before after, used = before ++ .openParen :: after ∧
            openAfter maxParentheses r.openParentheses before = some maxParentheses ∧
            r.read = (pure (.error (.tooDeep maxParentheses)), {
              rest := .openParen :: after ++ r.fresh.2.rest
              openParentheses := maxParentheses }) := by
  obtain ⟨hearlier, hopen⟩ := after_within ts k
  exact ⟨_, rfl, hearlier, hopen, read_eq hopen⟩

/-- A statement with `n` parentheses is read, or refused as too deep. -/
theorem statement_nested (levels n : Nat) :
    (n ≤ levels ∧ ∃ ignored rest, statement levels (nested n) = .ok ({
      source := "s", table := "t", columns := [], limit := 0,
      filters := [.comparison .eq "c" "1"] }, ignored, rest)) ∨
    (levels < n ∧ ∃ s, statement levels (nested n) = .error s ∧ s.error = .tooDeep maxParentheses) := by
  obtain ⟨body, ending, hts, hbody, hending⟩ := nested_derived n
  rw [hts]
  rcases @statement_complete levels n body ending _ hbody hending with
    ⟨hn, -, hs⟩ | ⟨s, p, hs, hp, ⟨hn, herror⟩ | ⟨hheight, -⟩⟩
  · exact Or.inl ⟨hn, _, _, hs⟩
  · exact Or.inr ⟨hn, s, hs, herror⟩
  · rw [List.mem_singleton.1 hp] at hheight
    exact absurd hheight (by decide)

/-- A statement that stops inside of as many parentheses as are allowed, and in it another one. -/
def abandoned : String :=
  "SELECT * FROM s.t WHERE " ++ String.ofList (List.replicate 128 '(') ++
    "SELECT * FROM s.t WHERE (c = '1')"

theorem toList_abandoned :
    abandoned.toList = "SELECT * FROM s.t WHERE ".toList ++ List.replicate 128 '(' ++
      "SELECT * FROM s.t WHERE (c = '1')".toList := by
  have hjoined (a b : String) (cs : List Char) :
      (a ++ String.ofList cs ++ b).toList = a.toList ++ cs ++ b.toList := by
    rw [String.toList_append, String.toList_append, String.toList_ofList]
  exact hjoined _ _ _

/-- Where a reader stands in it after the first reading. -/
theorem after_abandoned :
    ∃ r, ofText? abandoned = .ok r ∧ after r 1 = { rest := nested 1, openParentheses := 128 } := by
  have hboth : (ofText? abandoned).toOption.map (fun r => after r 1) =
      some { rest := nested 1, openParentheses := 128 } := by
    rw [ofText?, Scan.tokens?, toList_abandoned]
    decide +kernel
  cases hr : ofText? abandoned with
  | error e => rw [hr] at hboth; cases hboth
  | ok r =>
    rw [hr] at hboth
    exact ⟨r, rfl, Option.some.inj hboth⟩

/-- The parentheses of the first statement count against the second one, which a fresh reader would
    read. -/
theorem read_abandoned :
    ∃ r, ofText? abandoned = .ok r ∧
      (after r 1).read.1.value = .error (.tooDeep maxParentheses) ∧
      (after r 1).fresh.1.value = .ok {
        source := "s", table := "t", columns := [], limit := 0,
        filters := [.comparison .eq "c" "1"] } := by
  obtain ⟨r, hr, hafter⟩ := after_abandoned
  refine ⟨r, hr, ?_⟩
  rw [hafter, fresh, read_value_eq_error, read_value_eq_ok]
  constructor
  · rcases statement_nested 0 1 with ⟨hle, -⟩ | ⟨-, hrefused⟩
    · cases hle
    · exact hrefused
  · rcases statement_nested maxParentheses 1 with ⟨-, hread⟩ | ⟨hlt, -⟩
    · exact hread
    · exact absurd hlt (by decide)

end StatementReader

end FederatedQuery
