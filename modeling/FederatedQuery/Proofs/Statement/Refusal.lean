/-
  How tokens outside the language part are refused.

  * `Named`: outcomes in which such a token is found unexpected only where a column name, a table or
    a number of rows should stand; `named_statement`: every statement has such an outcome;
  * `Grammar.Begun`, `Grammar.Awaits`: the beginnings of conditions and statements, with what must
    come next;
  * `reader_refuses`, `statement_refuses`: what is reported when a token outside the language part
    comes next instead;
  * `Statement.parse_refuses`: both, for a text.
-/
import FederatedQuery.Proofs.Statement.Parsing
import Mathlib.Control.Monad.Basic

namespace FederatedQuery

/-! ## Unexpected tokens -/

/-- The error for a token outside the language part where `expected` should stand. -/
def Expected.refusal (expected : Expected) (t : Token) : StatementError :=
  if expected.refusesByName then .unsupported (.token t) else .unexpected expected (some t)

/-- The same, with the place where reading stops. -/
def Stop.refusal (expected : Expected) (t : Token) (rest : List Token) : Stop where
  error := expected.refusal t
  rest := t :: rest

theorem missing_of_isUnsupported {t : Token} (ht : t.isUnsupported = true) (expected : Expected)
    (rest : List Token) : Stop.missing expected (t :: rest) = .refusal expected t rest := by
  rw [Stop.missing, Stop.refusal, Expected.refusal, ht, Bool.and_true]
  split <;> rfl

variable {α β : Type}

/-- A token outside the language part is found unexpected only where its name is not what counts. -/
def Named (out : Except Stop α) : Prop :=
  ∀ s e t, out = .error s → s.error = .unexpected e (some t) → t.isUnsupported = true →
    e.refusesByName = false

theorem named_ok (a : α) : Named (.ok a) := by
  intro s e t h
  cases h

theorem named_error {s : Stop} (h : ∀ e found, s.error ≠ .unexpected e found) :
    Named (.error s : Except Stop α) := by
  intro s' e t hs he
  obtain rfl := Except.error.inj hs
  exact absurd he (h e _)

theorem named_missing (expected : Expected) (ts : List Token) :
    Named (.error (.missing expected ts) : Except Stop α) := by
  intro s e t hs he ht
  obtain rfl := Except.error.inj hs
  cases ts with
  | nil => cases he
  | cons u rest =>
    simp only [Stop.missing] at he
    split at he
    · cases he
    · next hn =>
      cases he
      simpa [ht] using hn

theorem Named.bind {out : Except Stop α} {k : α → Except Stop β} (h : Named out)
    (hk : ∀ a, out = .ok a → Named (k a)) : Named (out.bind k) := by
  cases out with
  | ok a => exact hk a rfl
  | error s =>
    intro s' e t hs
    exact h s' e t (by rw [Except.error.inj hs])

theorem named_first {expected : Expected} {f : Token → Option α} (ts : List Token) :
    Named (plain (TokenReader.first expected f ts)) := by
  cases ts with
  | nil => exact named_missing expected []
  | cons t rest =>
    rw [TokenReader.first]
    cases f t with
    | some a => exact named_ok _
    | none => exact named_missing expected (t :: rest)

namespace Condition

theorem apply_ne_unexpected {left right : Operand} {op : Operator} {error : StatementError}
    (h : op.apply left right = .error error) (e : Expected) (found : Option Token) :
    error ≠ .unexpected e found := by
  rintro rfl
  unfold Operator.apply compare at h
  repeat' split at h
  all_goals cases h

theorem join_ne_unexpected {op : Connective} {left right : Measured} {error : StatementError}
    (h : left.join op right = .error error) (e : Expected) (found : Option Token) :
    error ≠ .unexpected e found := by
  rintro rfl
  unfold Measured.join at h
  split at h <;> cases h

theorem named_comparison (ts : List Token) : Named (plain (comparison ts)) := by
  rw [plain_comparison]
  refine (named_first ts).bind fun ⟨left, rest₁⟩ _ => ?_
  refine (named_first rest₁).bind fun ⟨op, rest₂⟩ _ => ?_
  refine (named_first rest₂).bind fun ⟨right, rest₃⟩ _ => ?_
  dsimp only
  split
  · exact named_ok _
  · next h => exact named_error (apply_ne_unexpected h)

theorem named_chain {op : Connective} {r : TokenReader Measured} (hr : ∀ ts, Named (plain (r ts)))
    (left : Measured) (ts : List Token) : Named (plain (chain op r left ts)) := by
  -- on a bound for the length of what is left, which every operand makes shorter
  suffices ∀ n left (ts : List Token), ts.length ≤ n → Named (plain (chain op r left ts)) from
    this _ left ts (Nat.le_refl _)
  intro n
  induction n with
  | zero =>
    intro left ts hn
    obtain rfl := List.length_eq_zero_iff.1 (Nat.le_zero.1 hn)
    rw [plain_chain_of_head (by simp)]
    exact named_ok _
  | succ n ih =>
    intro left ts hn
    by_cases hk : ts.head? = some (Grammar.keyword op)
    · obtain ⟨after, rfl⟩ := List.head?_eq_some_iff.1 hk
      rw [plain_chain_cons]
      refine (hr after).bind fun ⟨right, rest⟩ hright => ?_
      have hshorter : rest.length < after.length := of_plain_eq_ok hright
      rw [List.length_cons] at hn
      dsimp only
      cases hj : left.join op right with
      | error error => exact named_error (join_ne_unexpected hj)
      | ok joined => exact ih joined rest (by omega)
    · rw [plain_chain_of_head hk]
      exact named_ok _

theorem named_chained {op : Connective} {r : TokenReader Measured}
    (hr : ∀ ts, Named (plain (r ts))) (ts : List Token) : Named (plain (chained op r ts)) := by
  rw [plain_chained]
  exact (hr ts).bind fun ⟨left, rest⟩ _ => named_chain hr left rest

theorem named_primary (levels : Nat) (ts : List Token) : Named (plain (primary levels ts)) := by
  induction levels generalizing ts with
  | zero =>
    by_cases ho : ts.head? = some .openParen
    · obtain ⟨inner, rfl⟩ := List.head?_eq_some_iff.1 ho
      rw [plain_primary_zero]
      exact named_error (by simp)
    · rw [primary_of_head ho]
      exact named_comparison ts
  | succ levels ih =>
    by_cases ho : ts.head? = some .openParen
    · obtain ⟨inner, rfl⟩ := List.head?_eq_some_iff.1 ho
      have hinner : Named (plain (reader levels (.chain .or) inner)) :=
        named_chained (named_chained ih) inner
      rw [plain_primary_succ]
      split
      · next s hs =>
        intro s' e t hs' he
        obtain rfl := Except.error.inj hs'
        exact hinner s e t hs he
      · exact (named_first _).bind fun _ _ => named_ok _
    · rw [primary_of_head ho]
      exact named_comparison ts

end Condition

namespace Clause

theorem named_columns (done : List String) (ts : List Token) : Named (columns done ts) := by
  fun_induction columns done ts with
  | case1 _ _ _ ih => exact ih
  | case2 => exact named_ok _
  | case3 => exact named_missing _ _

theorem named_selection (ts : List Token) : Named (selection ts) := by
  rw [selection_eq]
  refine (named_first ts).bind fun ⟨_, rest⟩ _ => ?_
  dsimp only
  split
  · exact named_ok _
  · exact named_error (by simp)
  · exact named_columns _ _

theorem named_table (ts : List Token) : Named (Clause.table ts) := by
  rw [table_eq]
  refine (named_first ts).bind fun ⟨_, rest⟩ _ => ?_
  refine (named_first rest).bind fun ⟨name, rest'⟩ _ => ?_
  dsimp only
  split
  · exact named_error (by simp)
  · split
    · exact named_error (by simp)
    · exact named_ok _

theorem named_filters (levels : Nat) (ts : List Token) : Named (filters levels ts) := by
  by_cases hw : ts.head? = some (.keyword .where_)
  · obtain ⟨after, rfl⟩ := List.head?_eq_some_iff.1 hw
    rw [filters_where]
    have hcondition : Named (plain (Condition.reader levels (.chain .or) after)) :=
      Condition.named_chained (Condition.named_chained (Condition.named_primary levels)) after
    exact hcondition.bind fun _ _ => named_ok _
  · rw [filters_of_head hw]
    exact named_ok _

theorem named_limit (ts : List Token) : Named (Clause.limit ts) := by
  fun_cases Clause.limit ts with
  | case1 | case2 => exact named_error (by simp)
  | case3 => exact named_ok _
  | case4 => exact named_missing _ _
  | case5 => exact named_ok _

theorem named_end (ts : List Token) : Named (end_ ts) := by
  fun_cases end_ ts with
  | case1 | case2 => exact named_ok _
  | case3 => exact named_missing _ _

end Clause

/-- **Unexpected tokens** of a statement. -/
theorem named_statement (levels : Nat) (ts : List Token) :
    Named (StatementReader.statement levels ts) := by
  refine (Clause.named_selection ts).bind fun ⟨columns, ts₁⟩ _ => ?_
  refine (Clause.named_table ts₁).bind fun ⟨⟨source, table⟩, ts₂⟩ _ => ?_
  refine (Clause.named_filters levels ts₂).bind fun ⟨filters, ts₃⟩ _ => ?_
  refine (Clause.named_limit ts₃).bind fun ⟨limit, ts₄⟩ _ => ?_
  exact (Clause.named_end ts₄).bind fun _ _ => named_ok _

/-! ## What must come next -/

namespace Grammar

/-- The beginning of a phrase of a condition, and what must come next.  At most `levels` parentheses
    may be open at a time. -/
inductive Begun : (levels : Nat) → Rank → List Token → Expected → Prop
  | operand {levels} : Begun levels .primary [] .operand
  | operator {levels a left} : FederatedQuery.Condition.Operand.ofToken? a = some left →
      Begun levels .primary [a] .comparisonOperator
  | secondOperand {levels a left t op} : FederatedQuery.Condition.Operand.ofToken? a = some left →
      FederatedQuery.Condition.Operator.ofToken? t = some op → Begun levels .primary [a, t] .operand
  | inside {levels ts e} : Begun levels (.chain .or) ts e →
      Begun (levels + 1) .primary (.openParen :: ts) e
  | closing {levels d ts p} : Condition (.chain .or) d ts p → d ≤ levels → p.height ≤ maxHeight →
      Begun (levels + 1) .primary (.openParen :: ts) (.token .closeParen)
  | first {levels op ts e} : Begun levels (operand op) ts e → Begun levels (.chain op) ts e
  | next {levels op d ts p us e} : Condition (.chain op) d ts p → d ≤ levels →
      p.height ≤ maxHeight → Begun levels (operand op) us e →
      Begun levels (.chain op) (ts ++ keyword op :: us) e

/-- The tokens of a statement up to its table. -/
inductive Front : List Token → Prop
  | front {selection columns name source table} (hs : Selection selection columns)
      (hn : Qualified (Text.lowerCase name) source table) :
      Front (.keyword .select :: selection ++ [.keyword .from_, .ident name])

/-- The beginning of a statement, and what must come next. -/
inductive Awaits : List Token → Expected → Prop
  | select : Awaits [] (.token (.keyword .select))
  | column : Awaits [.keyword .select] .columnName
  | nextColumn {names : List String} : names ≠ [] →
      Awaits (.keyword .select :: (names.map Token.ident).intersperse .comma ++ [.comma]) .columnName
  | from_ {selection columns} : Selection selection columns →
      Awaits (.keyword .select :: selection) (.token (.keyword .from_))
  | table {selection columns} : Selection selection columns →
      Awaits (.keyword .select :: selection ++ [.keyword .from_]) .qualifiedTable
  | condition {front ts e} : Front front → Begun maxParentheses (.chain .or) ts e →
      Awaits (front ++ .keyword .where_ :: ts) e
  | rows {front d ts filters} : Front front → Filters d ts filters → d ≤ maxParentheses →
      (∀ p ∈ filters, p.height ≤ maxHeight) → Awaits (front ++ ts ++ [.keyword .limit]) .integer
  | ending {d body q} : Body d body q → d ≤ maxParentheses →
      (∀ p ∈ q.filters, p.height ≤ maxHeight) → Awaits body .endOfStatement

end Grammar

/-! ## What is reported -/

/-- A token outside the language part is none of those that the language part has. -/
theorem ne_of_isUnsupported {t u : Token} (ht : t.isUnsupported = true)
    (hu : u.isUnsupported = false) : t ≠ u := by
  rintro rfl
  rw [ht] at hu
  cases hu

theorem first_of_isUnsupported {expected : Expected} {f : Token → Option α} {t : Token}
    (hf : ∀ u a, f u = some a → u.isUnsupported = false) (ht : t.isUnsupported = true)
    (rest : List Token) : TokenReader.first expected f (t :: rest) =
      .error (.refusal expected t rest) := by
  have hnone : f t = none := by
    cases h : f t with
    | none => rfl
    | some a => exact absurd rfl (ne_of_isUnsupported ht (hf t a h))
  simp only [TokenReader.first, hnone, missing_of_isUnsupported ht]

theorem token_of_isUnsupported {u t : Token} (hu : u.isUnsupported = false)
    (ht : t.isUnsupported = true) (rest : List Token) : TokenReader.token u (t :: rest) =
      .error (.refusal (.token u) t rest) := by
  refine first_of_isUnsupported (fun v a h => ?_) ht rest
  split at h
  · next hv => rw [hv, hu]
  · cases h

namespace Condition

theorem isUnsupported_operand {t : Token} {o : Operand} (h : Operand.ofToken? t = some o) :
    t.isUnsupported = false := by
  cases t <;> first | rfl | cases h

theorem isUnsupported_operator {t : Token} {o : Operator} (h : Operator.ofToken? t = some o) :
    t.isUnsupported = false := by
  unfold Operator.ofToken? at h
  split at h <;> first | rfl | cases h

theorem closed_of_isUnsupported {t : Token} (ht : t.isUnsupported = true) (rank : Grammar.Rank)
    (rest : List Token) : Closed rank (t :: rest) := by
  have hand : t ≠ .keyword .and := ne_of_isUnsupported ht rfl
  have hor : t ≠ .keyword .or := ne_of_isUnsupported ht rfl
  match rank with
  | .primary => trivial
  | .chain .and => simpa [Closed] using hand
  | .chain .or => simpa [Closed] using ⟨hand, hor⟩

/-- Within the bounds there is only one outcome. -/
theorem Outcome.eq {levels d : Nat} {p : Predicate} {outcome expected : Except Stop (Measured × List Token)}
    (h : Outcome levels d p outcome expected) (hd : d ≤ levels) (hh : p.height ≤ maxHeight) :
    outcome = expected := by
  rcases h with ⟨-, -, h⟩ | ⟨s, -, ⟨hlt, -⟩ | ⟨hlt, -⟩⟩
  · exact h
  · exact absurd hd (Nat.not_le.2 hlt)
  · exact absurd hh (Nat.not_le.2 hlt)

/-- A token that is an operand, or may stand in its place, opens no parenthesis. -/
theorem plain_primary_of_ne {t : Token} (ht : t ≠ .openParen) (levels : Nat) (rest : List Token) :
    plain (reader levels .primary (t :: rest)) = plain (comparison (t :: rest)) := by
  rw [reader, primary_of_head (by simpa using ht)]

theorem operand_ne_openParen {t : Token} {o : Operand} (h : Operand.ofToken? t = some o) :
    t ≠ .openParen := by
  rintro rfl
  cases h

/-- **Conditions**: what is reported of a token outside the language part. -/
theorem reader_refuses {levels : Nat} {rank : Grammar.Rank} {used : List Token} {e : Expected}
    (h : Grammar.Begun levels rank used e) {t : Token} (ht : t.isUnsupported = true)
    (rest : List Token) : ∃ s, plain (reader levels rank (used ++ t :: rest)) = .error s ∧
      s.error = e.refusal t := by
  induction h with
  | operand =>
    refine ⟨.refusal .operand t rest, ?_, rfl⟩
    rw [List.nil_append, plain_primary_of_ne (ne_of_isUnsupported ht (by decide)), plain_comparison,
      first_of_isUnsupported (fun _ _ => isUnsupported_operand) ht]
    rfl
  | @operator levels a left ha =>
    refine ⟨.refusal .comparisonOperator t rest, ?_, rfl⟩
    rw [List.singleton_append, plain_primary_of_ne (operand_ne_openParen ha), plain_comparison,
      plain_first_eq_ok.2 ⟨a, rfl, ha⟩]
    simp only [Except.bind]
    rw [first_of_isUnsupported (fun _ _ => isUnsupported_operator) ht]
    rfl
  | @secondOperand levels a left o op ha ho =>
    refine ⟨.refusal .operand t rest, ?_, rfl⟩
    rw [List.cons_append, List.singleton_append, plain_primary_of_ne (operand_ne_openParen ha),
      plain_comparison, plain_first_eq_ok.2 ⟨a, rfl, ha⟩]
    simp only [Except.bind]
    rw [plain_first_eq_ok.2 ⟨o, rfl, ho⟩]
    simp only
    rw [first_of_isUnsupported (fun _ _ => isUnsupported_operand) ht]
    rfl
  | @inside levels ts e _ ih =>
    obtain ⟨s, hs, he⟩ := ih
    refine ⟨{ s with unclosed := s.unclosed + 1 }, ?_, he⟩
    rw [List.cons_append, reader, plain_primary_succ, hs]
  | @closing levels d ts p hc hd hh =>
    have hread := (reader_complete hc (closed_of_isUnsupported ht (.chain .or) rest)).eq hd hh
    refine ⟨.refusal (.token .closeParen) t rest, ?_, rfl⟩
    rw [List.cons_append, reader, plain_primary_succ, hread]
    simp only
    rw [token_of_isUnsupported (by decide) ht]
    rfl
  | @first levels op ts e _ ih =>
    obtain ⟨s, hs, he⟩ := ih
    refine ⟨s, ?_, he⟩
    rw [reader_chain, plain_chained, hs]
    rfl
  | @next levels op d ts p us e hc hd hh _ ih =>
    obtain ⟨s, hs, he⟩ := ih
    refine ⟨s, ?_, he⟩
    have hleft := (reader_goesOn hc levels (Grammar.keyword op :: (us ++ t :: rest))
      (closed_keyword op _)).eq hd hh
    rw [goesOn, plain_chain_cons, hs] at hleft
    rw [List.append_assoc, List.cons_append, hleft]
    rfl

end Condition

namespace Clause

theorem columns_nextColumn {names : List String} (hne : names ≠ []) (done : List String)
    (rest : List Token) :
    ∃ done', columns done ((names.map Token.ident).intersperse .comma ++ .comma :: rest) =
      columns done' rest := by
  induction names generalizing done with
  | nil => exact absurd rfl hne
  | cons name names ih =>
    cases names with
    | nil => exact ⟨Text.lowerCase name :: done, by simp [columns]⟩
    | cons n names =>
      obtain ⟨done', h⟩ := ih (by simp) (Text.lowerCase name :: done)
      exact ⟨done', by simpa [columns] using h⟩

theorem columns_refuses {t : Token} (ht : t.isUnsupported = true) (done : List String)
    (rest : List Token) : columns done (t :: rest) =
      .error (.refusal .columnName t rest) := by
  have hname : ∀ name, t ≠ .ident name := fun name => ne_of_isUnsupported ht rfl
  unfold columns
  split
  · next h => exact absurd (List.cons.inj h).1 (hname _)
  · next h => exact absurd (List.cons.inj h).1 (hname _)
  · rw [missing_of_isUnsupported ht]

theorem selection_columns {ts : List Token} (hs : ts.head? ≠ some .star)
    (hf : ts.head? ≠ some (.keyword .from_)) : selection (.keyword .select :: ts) = columns [] ts := by
  rw [selection_eq, plain_token_eq_ok.2 rfl]
  simp only [Except.bind]
  split
  · simp at hs
  · simp at hf
  · rfl

/-- A condition within the bounds. -/
theorem filters_read {levels d : Nat} {used rest : List Token} {fs : List Predicate}
    (h : Grammar.Filters d used fs) (hd : d ≤ levels) (hh : ∀ p ∈ fs, p.height ≤ maxHeight)
    (hw : rest.head? ≠ some (.keyword .where_)) (hclosed : Condition.Closed (.chain .or) rest) :
    filters levels (used ++ rest) = .ok (fs, rest) := by
  rcases filters_complete h hw hclosed with ⟨-, -, hread⟩ | ⟨s, p, -, hp, ⟨hlt, -⟩ | ⟨hlt, -⟩⟩
  · exact hread
  · exact absurd hd (Nat.not_le.2 hlt)
  · exact absurd (hh p hp) (Nat.not_le.2 hlt)

theorem limit_refuses {t : Token} (ht : t.isUnsupported = true) (rest : List Token) :
    Clause.limit (.keyword .limit :: t :: rest) = .error (.refusal .integer t rest) := by
  have hnumber : ∀ n, t ≠ .number n := fun n => ne_of_isUnsupported ht rfl
  unfold Clause.limit
  split
  · next h => exact absurd (List.cons.inj (List.cons.inj h).2).1 (hnumber _)
  · next h =>
    rw [← (List.cons.inj h).2, missing_of_isUnsupported ht]
  · next h => exact absurd rfl (h _)

theorem end_refuses {t : Token} (ht : t.isUnsupported = true) (rest : List Token) :
    end_ (t :: rest) = .error (.refusal .endOfStatement t rest) := by
  rw [end_of_head (List.cons_ne_nil _ _), missing_of_isUnsupported ht]
  simpa using ne_of_isUnsupported ht (by decide)

/-- A token outside the language part does not go on with a condition, nor does a number of rows. -/
theorem closed_of_isUnsupported {rows : List Token} {n : Nat} (h : Grammar.Limit rows n) {t : Token}
    (ht : t.isUnsupported = true) (rest : List Token) :
    Condition.Closed (.chain .or) (rows ++ t :: rest) ∧
      (rows ++ t :: rest).head? ≠ some (.keyword .where_) ∧
      (rows ++ t :: rest).head? ≠ some .comma := by
  cases h with
  | none =>
    refine ⟨Condition.closed_of_isUnsupported ht _ rest, ?_, ?_⟩
    · simpa using ne_of_isUnsupported ht (by decide)
    · simpa using ne_of_isUnsupported ht (by decide)
  | rows => simp [Condition.Closed]

/-- The end of a statement, with a number of rows in front of it or not. -/
theorem limit_end_refuses {rows : List Token} {n : Nat} (h : Grammar.Limit rows n) {t : Token}
    (ht : t.isUnsupported = true) (rest : List Token) (k : Nat → Nat → List Token → β) :
    ∃ s, ((Clause.limit (rows ++ t :: rest)).bind fun (limit, ts) =>
        (end_ ts).bind fun ignored => .ok (k limit ignored ts)) = .error s ∧
      s.error = Expected.endOfStatement.refusal t := by
  cases h with
  | none =>
    have hl : (t :: rest).head? ≠ some (.keyword .limit) := by
      simpa using ne_of_isUnsupported ht (by decide)
    refine ⟨.refusal .endOfStatement t rest, ?_, rfl⟩
    rw [List.nil_append, limit_of_head hl]
    simp only [Except.bind, end_refuses ht]
  | @rows n hn =>
    simp only [List.cons_append, List.nil_append, Clause.limit, if_neg (Int.not_lt.2 hn)]
    by_cases ho : t = .keyword .offset
    · subst ho
      exact ⟨_, rfl, rfl⟩
    · rw [if_neg (by simpa using ho)]
      simp only [Except.bind, end_refuses ht]
      exact ⟨_, rfl, rfl⟩

end Clause

namespace StatementReader

/-- What is read behind the table does not depend on what stands in front of it. -/
theorem statement_front {front after : List Token} (h : Grammar.Front front) (levels : Nat)
    (hc : after.head? ≠ some .comma) : ∃ columns source table,
      statement levels (front ++ after) =
        (Clause.filters levels after).bind fun (filters, ts) =>
        (Clause.limit ts).bind fun (limit, ts) =>
        (Clause.end_ ts).bind fun ignored =>
          .ok ({ source, table, columns, limit, filters }, ignored, ts) := by
  obtain @⟨selection, columns, name, source, table, hs, hn⟩ := h
  refine ⟨columns, source, table, ?_⟩
  have hselection := Clause.selection_complete hs
    (by simp : (Token.keyword .from_ :: .ident name :: after).head? ≠ some .comma)
  have htable := Clause.table_eq_ok.2 ⟨name, rfl, hn, hc⟩
  rw [List.append_assoc]
  simp only [List.cons_append, List.nil_append, statement, bind] at hselection ⊢
  rw [hselection]
  simp only [Except.bind, htable]

theorem statement_of_selection_eq_error {levels : Nat} {ts : List Token} {s : Stop}
    (h : Clause.selection ts = .error s) : statement levels ts = .error s := by
  rw [statement, h]
  rfl

/-- **Statements**: what is reported of a token outside the language part. -/
theorem statement_refuses {used : List Token} {e : Expected} (h : Grammar.Awaits used e) {t : Token}
    (ht : t.isUnsupported = true) (rest : List Token) :
    ∃ s, statement maxParentheses (used ++ t :: rest) = .error s ∧ s.error = e.refusal t := by
  cases h with
  | select =>
    refine ⟨.refusal (.token (.keyword .select)) t rest, statement_of_selection_eq_error ?_, rfl⟩
    rw [List.nil_append, Clause.selection_eq, token_of_isUnsupported (by decide) ht]
    rfl
  | column =>
    refine ⟨.refusal .columnName t rest, statement_of_selection_eq_error ?_, rfl⟩
    rw [List.singleton_append, Clause.selection_columns, Clause.columns_refuses ht]
    · simpa using ne_of_isUnsupported ht (by decide)
    · simpa using ne_of_isUnsupported ht (by decide)
  | @nextColumn names hne =>
    obtain ⟨done, hcolumns⟩ := Clause.columns_nextColumn hne [] (t :: rest)
    refine ⟨.refusal .columnName t rest, statement_of_selection_eq_error ?_, rfl⟩
    rw [List.append_assoc, List.cons_append, Clause.selection_columns, List.singleton_append,
      hcolumns, Clause.columns_refuses ht]
    all_goals
      obtain ⟨name, names, rfl⟩ := List.exists_cons_of_ne_nil hne
      cases names <;> simp
  | @from_ selection columns hs =>
    have hc : (t :: rest).head? ≠ some .comma := by simpa using ne_of_isUnsupported ht (by decide)
    have hselection := Clause.selection_complete hs hc
    refine ⟨.refusal (.token (.keyword .from_)) t rest, ?_, rfl⟩
    rw [statement, hselection]
    simp only [bind, Except.bind, Clause.table_eq]
    rw [token_of_isUnsupported (by decide) ht]
    rfl
  | @table selection columns hs =>
    have hselection := Clause.selection_complete hs
      (by simp : (Token.keyword .from_ :: t :: rest).head? ≠ some .comma)
    refine ⟨.refusal .qualifiedTable t rest, ?_, rfl⟩
    rw [List.append_assoc, List.singleton_append, statement, hselection]
    simp only [bind, Except.bind, Clause.table_eq]
    rw [plain_token_eq_ok.2 rfl]
    simp only
    rw [first_of_isUnsupported ?_ ht]
    · rfl
    · intro u name hu
      obtain ⟨n, rfl, -⟩ := Clause.name?_eq_some.1 hu
      rfl
  | @condition front ts e hf hb =>
    obtain ⟨s, hs, he⟩ := Condition.reader_refuses hb ht rest
    obtain ⟨columns, source, table, hfront⟩ := statement_front hf maxParentheses
      (by simp : (Token.keyword .where_ :: (ts ++ t :: rest)).head? ≠ some .comma)
    refine ⟨s, ?_, he⟩
    rw [List.append_assoc, List.cons_append, hfront, Clause.filters_where, hs]
    rfl
  | @rows front d ts filters hf hfs hd hh =>
    have hclosed : Condition.Closed (.chain .or) (.keyword .limit :: t :: rest) := by
      simp [Condition.Closed]
    have hread := Clause.filters_read hfs hd hh (by simp) hclosed
    have hhead : (ts ++ .keyword .limit :: t :: rest).head? ≠ some .comma := by cases hfs <;> simp
    obtain ⟨columns, source, table, hfront⟩ := statement_front hf maxParentheses hhead
    refine ⟨.refusal .integer t rest, ?_, rfl⟩
    rw [List.append_assoc, List.append_assoc, List.singleton_append, hfront, hread]
    simp only [Except.bind]
    rw [Clause.limit_refuses ht]
  | ending hb hd hh =>
    cases hb with
    | @body selection columns name source table d condition filters rows limit hs hn hfs hl =>
    obtain ⟨hclosed, hwhere, hcomma⟩ := Clause.closed_of_isUnsupported hl ht rest
    have hread := Clause.filters_read hfs hd hh hwhere hclosed
    have hhead : (condition ++ (rows ++ t :: rest)).head? ≠ some .comma := by
      cases hfs with
      | none => exact hcomma
      | condition => simp
    obtain ⟨columns, source, table, hfront⟩ := statement_front (.front hs hn) maxParentheses hhead
    obtain ⟨s, herror, he⟩ := Clause.limit_end_refuses hl ht rest fun limit ignored ts =>
      (({ source, table, columns, limit, filters } : Query), ignored, ts)
    refine ⟨s, ?_, he⟩
    have htokens : .keyword .select :: selection ++ .keyword .from_ :: .ident name :: condition ++
        rows ++ t :: rest = .keyword .select :: selection ++ [.keyword .from_, .ident name] ++
          (condition ++ (rows ++ t :: rest)) := by simp
    rw [htokens, hfront, hread]
    exact herror

end StatementReader

namespace Statement

/-- **Tokens outside the language part** are refused by name wherever another one should stand, but
    for the places of a column name, of a table and of a number of rows: there they are unexpected. -/
theorem parse_refuses (text : String) :
    (∀ e t, (parse text).value = .error (.unexpected e (some t)) → t.isUnsupported = true →
      e = .columnName ∨ e = .qualifiedTable ∨ e = .integer) ∧
    ∀ used t rest e, Scan.tokens? text = .ok (used ++ t :: rest) → Grammar.Awaits used e →
      t.isUnsupported = true → (parse text).value =
        .error (if e.refusesByName then .unsupported (.token t) else .unexpected e (some t)) := by
  rw [parse_value]
  constructor
  · intro e t h ht
    cases hscan : Scan.tokens? text with
    | error error => rw [hscan] at h; cases h
    | ok ts =>
      rw [hscan] at h
      obtain ⟨s, hs, he⟩ := StatementReader.read_value_eq_error.1 h
      have hname := named_statement _ _ s e t hs he ht
      revert hname
      cases e <;> simp [Expected.refusesByName]
  · intro used t rest e hscan hawaits ht
    rw [hscan]
    obtain ⟨s, hs, he⟩ := StatementReader.statement_refuses hawaits ht rest
    exact StatementReader.read_value_eq_error.2 ⟨s, hs, he⟩

/-- A comparison by order is refused by name; a keyword among the columns is merely unexpected. -/
theorem parse_less_and_not :
    (parse "SELECT a FROM s.t WHERE a < 1").value = .error (.unsupported (.token .less)) ∧
      (parse "SELECT a, NOT FROM s.t").value =
        .error (.unexpected .columnName (some (.keyword .not))) := by
  have hless : Scan.tokens? "SELECT a FROM s.t WHERE a < 1" =
      .ok ([.keyword .select, .ident "a", .keyword .from_, .ident "s.t", .keyword .where_,
        .ident "a"] ++ .less :: [.number 1]) := by decide +kernel
  have hnot : Scan.tokens? "SELECT a, NOT FROM s.t" =
      .ok ([.keyword .select, .ident "a", .comma] ++ .keyword .not ::
        [.keyword .from_, .ident "s.t"]) := by decide +kernel
  have hname : Grammar.Qualified (Text.lowerCase "s.t") "s" "t" :=
    ⟨by decide, by decide, by decide, by decide, by decide⟩
  have hnames : ["a"] ≠ [] := by decide
  have hselection : Grammar.Selection [.ident "a"] [Text.lowerCase "a"] := .names hnames
  have hbegun : Grammar.Begun maxParentheses (.chain .or) [.ident "a"] .comparisonOperator :=
    .first (.first (.operator rfl))
  have hcolumns : Grammar.Awaits [.keyword .select, .ident "a", .comma] .columnName :=
    .nextColumn hnames
  exact ⟨(parse_refuses _).2 _ _ _ _ hless (.condition (.front hselection hname) hbegun) rfl,
    (parse_refuses _).2 _ _ _ _ hnot hcolumns rfl⟩

/-- A keyword in place of the columns, of the table and of the number of rows. -/
theorem parse_unexpected_keywords :
    (parse "SELECT NOT FROM s.t").value =
        .error (.unexpected .columnName (some (.keyword .not))) ∧
      (parse "SELECT * FROM NOT").value =
        .error (.unexpected .qualifiedTable (some (.keyword .not))) ∧
      (parse "SELECT * FROM s.t LIMIT NOT").value =
        .error (.unexpected .integer (some (.keyword .not))) := by
  have hcolumn : Scan.tokens? "SELECT NOT FROM s.t" =
      .ok [.keyword .select, .keyword .not, .keyword .from_, .ident "s.t"] := by decide +kernel
  have htable : Scan.tokens? "SELECT * FROM NOT" =
      .ok [.keyword .select, .star, .keyword .from_, .keyword .not] := by decide +kernel
  have hrows : Scan.tokens? "SELECT * FROM s.t LIMIT NOT" =
      .ok [.keyword .select, .star, .keyword .from_, .ident "s.t", .keyword .limit,
        .keyword .not] := by decide +kernel
  refine ⟨?_, ?_, ?_⟩
  · rw [parse_value, hcolumn]
    rfl
  · rw [parse_value, htable]
    rfl
  · rw [parse_value, hrows]
    rfl

end Statement

end FederatedQuery
