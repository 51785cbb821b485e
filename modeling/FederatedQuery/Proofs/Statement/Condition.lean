/-
  Reading conditions by the grammar.

  * `Condition.reader levels rank`: the reader for the phrases of a rank, `plain` what it reads and
    leaves;
  * `plain_chained`, `plain_chain_cons`, `plain_chain_of_head`: readers of chains, step by step;
  * `reader_sound`: what is read is derived by the grammar, within the bounds;
  * `reader_complete`: what is derived is read when it keeps within the bounds, and refused as too
    deep when it does not.
-/
import FederatedQuery.Proofs.Predicate.Basic
import FederatedQuery.Proofs.Statement.Grammar
import FederatedQuery.Statement.Condition

namespace FederatedQuery

/-! ## Predicates with their height -/

namespace Measured

/-- A predicate with its height. -/
def of (p : Predicate) : Measured where
  predicate := p
  height := p.height

theorem of_predicate (m : Measured) : of m.predicate = m := by
  obtain ⟨p, h, rfl⟩ := m
  rfl

theorem join_of (op : Connective) (p q : Predicate) :
    (of p).join op (of q) =
      if (Predicate.logical op [p, q]).height ≤ maxHeight then .ok (of (.logical op [p, q]))
      else .error (.tooDeep maxHeight) := by
  unfold join of
  simp only [Predicate.height_pair]

end Measured

/-! ## Readers without their proofs -/

/-- What is read and what is left, without the proof that this is shorter. -/
def plain {α : Type} {P : List Token → Prop} (x : Except Stop (α × { rest : List Token // P rest })) :
    Except Stop (α × List Token) := x.map fun (a, rest) => (a, rest.1)

@[simp] theorem plain_error {α : Type} {P : List Token → Prop} (s : Stop) :
    plain (.error s : Except Stop (α × { rest : List Token // P rest })) = .error s := rfl

@[simp] theorem plain_ok {α : Type} {P : List Token → Prop} (a : α)
    (rest : { rest : List Token // P rest }) : plain (.ok (a, rest)) = .ok (a, rest.1) := rfl

/-- What is left has the property that was proved of it. -/
theorem of_plain_eq_ok {α : Type} {P : List Token → Prop} {a : α} {rest : List Token}
    {x : Except Stop (α × { rest : List Token // P rest })} (h : plain x = .ok (a, rest)) : P rest := by
  cases x with
  | error s => cases h
  | ok found => cases h; exact found.2.2

theorem bind_eq_ok {ε α β : Type} {x : Except ε α} {f : α → Except ε β} {b : β} :
    x.bind f = .ok b ↔ ∃ a, x = .ok a ∧ f a = .ok b := by
  cases x <;> simp [Except.bind]

theorem plain_first_eq_ok {α : Type} {expected : Expected} {f : Token → Option α} {a : α}
    {ts rest : List Token} :
    plain (TokenReader.first expected f ts) = .ok (a, rest) ↔ ∃ t, ts = t :: rest ∧ f t = some a := by
  cases ts with
  | nil => simp [TokenReader.first]
  | cons t ts =>
    simp only [TokenReader.first]
    cases h : f t with
    | none => simp [h]
    | some b =>
      simp only [plain_ok, Except.ok.injEq, Prod.mk.injEq, List.cons.injEq]
      constructor
      · rintro ⟨rfl, rfl⟩
        exact ⟨t, ⟨rfl, rfl⟩, h⟩
      · rintro ⟨t, ⟨rfl, rfl⟩, h'⟩
        exact ⟨Option.some.inj (h.symm.trans h'), rfl⟩

theorem plain_token_eq_ok {t : Token} {ts rest : List Token} :
    plain (TokenReader.token t ts) = .ok ((), rest) ↔ ts = t :: rest := by
  rw [TokenReader.token, plain_first_eq_ok]
  constructor
  · rintro ⟨u, rfl, h⟩
    split at h
    · next e => rw [e]
    · cases h
  · rintro rfl
    exact ⟨t, rfl, if_pos rfl⟩

namespace Condition

/-! ## Chains -/

theorem plain_chained (op : Connective) (r : TokenReader Measured) (ts : List Token) :
    plain (chained op r ts) =
      (plain (r ts)).bind fun (left, rest) => plain (chain op r left rest) := by
  unfold chained
  cases r ts with
  | error s => rfl
  | ok x =>
    obtain ⟨left, rest, h⟩ := x
    simp only [plain_ok, Except.bind]
    cases chain op r left rest <;> rfl

theorem keyword_eq (op : Connective) : Grammar.keyword op = .keyword (keyword op) := by
  cases op <;> rfl

theorem plain_chain_cons (op : Connective) (r : TokenReader Measured) (left : Measured)
    (after : List Token) :
    plain (chain op r left (Grammar.keyword op :: after)) =
      (plain (r after)).bind fun (right, rest) =>
        match left.join op right with
        | .error error => .error { error, rest }
        | .ok joined => plain (chain op r joined rest) := by
  rw [keyword_eq, chain, if_pos rfl]
  cases r after with
  | error s => rfl
  | ok x =>
    obtain ⟨right, rest, h⟩ := x
    simp only [plain_ok, Except.bind]
    cases left.join op right with
    | error error => rfl
    | ok joined =>
      simp only
      cases chain op r joined rest <;> rfl

theorem plain_chain_of_head {op : Connective} {r : TokenReader Measured} {left : Measured}
    {ts : List Token} (h : ts.head? ≠ some (Grammar.keyword op)) :
    plain (chain op r left ts) = .ok (left, ts) := by
  unfold chain
  split
  · next k after =>
    rw [if_neg fun e => h (by rw [keyword_eq, e]; rfl), plain_ok]
  · rfl

/-! ## Comparisons -/

theorem plain_comparison (ts : List Token) :
    plain (comparison ts) =
      (plain (TokenReader.first .operand Operand.ofToken? ts)).bind fun (left, rest₁) =>
      (plain (TokenReader.first .comparisonOperator Operator.ofToken? rest₁)).bind fun (op, rest₂) =>
      (plain (TokenReader.first .operand Operand.ofToken? rest₂)).bind fun (right, rest₃) =>
      match op.apply left right with
      | .ok m => .ok (m, rest₃)
      | .error error => .error { error, rest := rest₃ } := by
  unfold comparison
  simp only [bind, Except.bind]
  rcases TokenReader.first .operand Operand.ofToken? ts with s | ⟨left, rest₁, h₁⟩
  · rfl
  simp only [plain_ok]
  rcases TokenReader.first .comparisonOperator Operator.ofToken? rest₁ with s | ⟨op, rest₂, h₂⟩
  · rfl
  simp only [plain_ok]
  rcases TokenReader.first .operand Operand.ofToken? rest₂ with s | ⟨right, rest₃, h₃⟩
  · rfl
  simp only [plain_ok]
  cases op.apply left right <;> rfl

/-- A comparison takes three tokens. -/
theorem plain_comparison_eq_ok {ts rest : List Token} {m : Measured} :
    plain (comparison ts) = .ok (m, rest) ↔
      ∃ a t b left op right, ts = a :: t :: b :: rest ∧ Operand.ofToken? a = some left ∧
        Operator.ofToken? t = some op ∧ Operand.ofToken? b = some right ∧
        op.apply left right = .ok m := by
  simp only [plain_comparison, bind_eq_ok, Prod.exists, plain_first_eq_ok]
  constructor
  · rintro ⟨left, rest₁, ⟨a, rfl, ha⟩, op, rest₂, ⟨t, rfl, ht⟩, right, rest₃, ⟨b, rfl, hb⟩, h⟩
    split at h
    · next h' =>
      cases h
      exact ⟨a, t, b, left, op, right, rfl, ha, ht, hb, h'⟩
    · cases h
  · rintro ⟨a, t, b, left, op, right, rfl, ha, ht, hb, h⟩
    exact ⟨left, _, ⟨a, rfl, ha⟩, op, _, ⟨t, rfl, ht⟩, right, _, ⟨b, rfl, hb⟩, by rw [h]⟩

theorem Operand.ofToken?_eq_column {t : Token} {c : String} :
    ofToken? t = some (.column c) ↔ ∃ name, t = .ident name ∧ Text.lowerCase name = c := by
  cases t <;> simp [ofToken?]

theorem Operand.ofToken?_eq_literal {t : Token} {value : String} :
    ofToken? t = some (.literal value) ↔ Grammar.Literal t value := by
  constructor
  · intro h
    cases t <;> simp only [ofToken?, Option.some.injEq, Operand.literal.injEq, reduceCtorEq] at h
    · exact h ▸ .text _
    · exact h ▸ .number _
  · rintro (_ | _) <;> rfl

theorem Operator.ofToken?_of_operator {t : Token} {op : Comparator} (h : Grammar.Operator t op) :
    ∃ o, ofToken? t = some o := by
  cases h <;> exact ⟨_, rfl⟩

/-- The tokens of a comparison, with what they stand for. -/
theorem exists_tokens {used : List Token} {p : Predicate} (h : Grammar.Comparison used p) :
    ∃ a t b left op right, used = [a, t, b] ∧ Operand.ofToken? a = some left ∧
      Operator.ofToken? t = some op ∧ Operand.ofToken? b = some right := by
  cases h with
  | columnFirst ho hl =>
    obtain ⟨o, ho⟩ := Operator.ofToken?_of_operator ho
    exact ⟨_, _, _, _, o, _, rfl, rfl, ho, Operand.ofToken?_eq_literal.2 hl⟩
  | literalFirst ho hl =>
    obtain ⟨o, ho⟩ := Operator.ofToken?_of_operator ho
    exact ⟨_, _, _, _, o, _, rfl, Operand.ofToken?_eq_literal.2 hl, ho, rfl⟩
  | like hl => exact ⟨_, _, _, _, _, _, rfl, rfl, rfl, Operand.ofToken?_eq_literal.2 hl⟩

theorem operator_unique {t : Token} {op op' : Comparator} (h : Grammar.Operator t op)
    (h' : Grammar.Operator t op') : op = op' := by
  cases h <;> cases h' <;> rfl

theorem compare_column_literal {op : Comparator} {field value : String} {m : Measured} :
    compare op (.column field) (.literal value) = .ok m ↔
      value ≠ "" ∧ Measured.comparison op field value = m := by
  simp only [compare]
  split
  · next h => simp [String.isEmpty_iff.1 h]
  · next h => simp [mt String.isEmpty_iff.2 h]

theorem compare_literal_column {op : Comparator} {field value : String} {m : Measured} :
    compare op (.literal value) (.column field) = .ok m ↔
      value ≠ "" ∧ Measured.comparison op field value = m := compare_column_literal

/-- A comparison by an operator, as the grammar has it. -/
theorem compare_iff {a t b : Token} {op : Comparator} {left right : Operand} {m : Measured}
    (ho : Grammar.Operator t op) (ha : Operand.ofToken? a = some left)
    (hb : Operand.ofToken? b = some right) :
    compare op left right = .ok m ↔ Grammar.Comparison [a, t, b] m.predicate := by
  constructor
  · intro h
    cases left with
    | column field =>
      cases right with
      | column => cases h
      | literal value =>
        obtain ⟨hv, rfl⟩ := compare_column_literal.1 h
        obtain ⟨name, rfl, rfl⟩ := Operand.ofToken?_eq_column.1 ha
        exact .columnFirst ho (Operand.ofToken?_eq_literal.1 hb) hv
    | literal value =>
      cases right with
      | literal => cases h
      | column field =>
        obtain ⟨hv, rfl⟩ := compare_literal_column.1 h
        obtain ⟨name, rfl, rfl⟩ := Operand.ofToken?_eq_column.1 hb
        exact .literalFirst ho (Operand.ofToken?_eq_literal.1 ha) hv
  · intro h
    generalize hp : m.predicate = p at h
    have hm : m = .of p := by rw [← hp, Measured.of_predicate]
    cases h with
    | columnFirst ho' hl hv =>
      cases ha
      obtain rfl := Option.some.inj ((Operand.ofToken?_eq_literal.2 hl).symm.trans hb)
      have : _ = op := operator_unique ho' ho
      exact compare_column_literal.2 ⟨hv, by rw [hm, this]; rfl⟩
    | literalFirst ho' hl hv =>
      cases hb
      obtain rfl := Option.some.inj ((Operand.ofToken?_eq_literal.2 hl).symm.trans ha)
      have : _ = op := operator_unique ho' ho
      exact compare_literal_column.2 ⟨hv, by rw [hm, this]; rfl⟩
    | like => cases ho

/-- A wildcard pattern, as the grammar has it. -/
theorem like_iff {a b : Token} {left right : Operand} {m : Measured}
    (ha : Operand.ofToken? a = some left) (hb : Operand.ofToken? b = some right) :
    Operator.like.apply left right = .ok m ↔
      Grammar.Comparison [a, .keyword .like, b] m.predicate := by
  constructor
  · intro h
    cases left with
    | literal => cases h
    | column field =>
      cases right with
      | column => cases h
      | literal pattern =>
        cases h
        obtain ⟨name, rfl, rfl⟩ := Operand.ofToken?_eq_column.1 ha
        exact .like (Operand.ofToken?_eq_literal.1 hb)
  · intro h
    generalize hp : m.predicate = p at h
    have hm : m = .of p := by rw [← hp, Measured.of_predicate]
    cases h with
    | columnFirst ho | literalFirst ho => cases ho
    | like hl =>
      cases ha
      obtain rfl := Option.some.inj ((Operand.ofToken?_eq_literal.2 hl).symm.trans hb)
      rw [hm]
      rfl

theorem apply_iff {a t b : Token} {op : Operator} {left right : Operand} {m : Measured}
    (ha : Operand.ofToken? a = some left) (ht : Operator.ofToken? t = some op)
    (hb : Operand.ofToken? b = some right) :
    op.apply left right = .ok m ↔ Grammar.Comparison [a, t, b] m.predicate := by
  unfold Operator.ofToken? at ht
  split at ht <;> cases ht
  · exact compare_iff .eq ha hb
  · exact compare_iff .ne ha hb
  · exact like_iff ha hb

/-- **Comparisons** are read exactly when the grammar has them. -/
theorem plain_comparison_iff {ts rest : List Token} {m : Measured} :
    plain (comparison ts) = .ok (m, rest) ↔
      ∃ used, ts = used ++ rest ∧ Grammar.Comparison used m.predicate := by
  rw [plain_comparison_eq_ok]
  constructor
  · rintro ⟨a, t, b, left, op, right, rfl, ha, ht, hb, h⟩
    exact ⟨[a, t, b], rfl, (apply_iff ha ht hb).1 h⟩
  · rintro ⟨used, rfl, h⟩
    obtain ⟨a, t, b, left, op, right, rfl, ha, ht, hb⟩ := exists_tokens h
    exact ⟨a, t, b, left, op, right, rfl, ha, ht, hb, (apply_iff ha ht hb).2 h⟩

/-! ## Readers by rank -/

/-- The reader for the phrases of a rank; at most `levels` parentheses may be open at a time. -/
def reader (levels : Nat) : Grammar.Rank → TokenReader Measured
  | .primary => primary levels
  | .chain .and => chained .and (primary levels)
  | .chain .or => read levels

theorem reader_chain (levels : Nat) (op : Connective) :
    reader levels (.chain op) = chained op (reader levels (Grammar.operand op)) := by
  cases op <;> rfl

theorem primary_of_head {levels : Nat} {ts : List Token} (h : ts.head? ≠ some .openParen) :
    primary levels ts = comparison ts := by
  unfold primary
  split
  · next inner => exact absurd rfl h
  · rfl

theorem plain_primary_zero (inner : List Token) :
    plain (primary 0 (.openParen :: inner)) =
      .error { error := .tooDeep maxParentheses, rest := .openParen :: inner } := by
  unfold primary
  rfl

theorem plain_primary_succ (levels : Nat) (inner : List Token) :
    plain (primary (levels + 1) (.openParen :: inner)) =
      match plain (reader levels (.chain .or) inner) with
      | .error s => .error { s with unclosed := s.unclosed + 1 }
      | .ok (m, rest) => (plain (TokenReader.token .closeParen rest)).bind fun (_, last) =>
        .ok (m, last) := by
  rw [primary, reader, read]
  cases chained .or (chained .and (primary levels)) inner with
  | error s => rfl
  | ok x =>
    obtain ⟨m, rest, h⟩ := x
    simp only [plain_ok]
    cases TokenReader.token .closeParen rest <;> rfl

/-! ## Soundness -/

/-- What the reader takes is a phrase of the rank, within the bounds. -/
def Sound (levels : Nat) (rank : Grammar.Rank) (r : TokenReader Measured) : Prop :=
  ∀ ⦃ts rest m⦄, plain (r ts) = .ok (m, rest) → ∃ d used, ts = used ++ rest ∧ d ≤ levels ∧
    m.height ≤ maxHeight ∧ Grammar.Condition rank d used m.predicate

theorem height_join_le {op : Connective} {left right m : Measured}
    (h : left.join op right = .ok m) :
    m.height ≤ maxHeight ∧ m.predicate = .logical op [left.predicate, right.predicate] := by
  unfold Measured.join at h
  split at h
  · next hle => cases h; exact ⟨hle, rfl⟩
  · cases h

/-- A chain goes on from a phrase `pre` that was read before. -/
theorem chain_sound {levels : Nat} {op : Connective} {r : TokenReader Measured}
    (hr : Sound levels (Grammar.operand op) r) {d : Nat} {left m : Measured}
    {pre ts rest : List Token} (h : plain (chain op r left ts) = .ok (m, rest)) (hd : d ≤ levels)
    (hh : left.height ≤ maxHeight) (hc : Grammar.Condition (.chain op) d pre left.predicate) :
    ∃ d' used, ts = used ++ rest ∧ d' ≤ levels ∧ m.height ≤ maxHeight ∧
      Grammar.Condition (.chain op) d' (pre ++ used) m.predicate := by
  -- on the length of what is left; the phrase read so far grows by one operand a step
  induction hn : ts.length using Nat.strongRecOn generalizing d left pre ts with
  | ind n ih =>
    by_cases hk : ts.head? = some (Grammar.keyword op)
    · obtain ⟨after, rfl⟩ := List.head?_eq_some_iff.1 hk
      rw [plain_chain_cons, bind_eq_ok] at h
      obtain ⟨⟨right, rest'⟩, hright, h⟩ := h
      obtain ⟨e, us, rfl, he, -, hright⟩ := hr hright
      simp only at h
      split at h
      · cases h
      · next joined hj =>
        obtain ⟨hjh, hjp⟩ := height_join_le hj
        have hjc := Grammar.Condition.join hc hright
        rw [← hjp] at hjc
        obtain ⟨d', used, rfl, hd', hm, hmc⟩ :=
          ih rest'.length (by rw [← hn, List.length_cons, List.length_append]; omega) h (Nat.max_le.2 ⟨hd, he⟩) hjh hjc rfl
        exact ⟨d', Grammar.keyword op :: us ++ used, by simp, hd', hm, by simpa using hmc⟩
    · rw [plain_chain_of_head hk] at h
      cases h
      exact ⟨d, [], rfl, hd, hh, by simpa using hc⟩

theorem chained_sound {levels : Nat} {op : Connective} {r : TokenReader Measured}
    (hr : Sound levels (Grammar.operand op) r) : Sound levels (.chain op) (chained op r) := by
  intro ts rest m h
  rw [plain_chained, bind_eq_ok] at h
  obtain ⟨⟨left, rest'⟩, hleft, h⟩ := h
  obtain ⟨d, us, rfl, hd, hh, hc⟩ := hr hleft
  obtain ⟨d', used, rfl, hd', hm, hmc⟩ := chain_sound hr h hd hh (.single hc)
  exact ⟨d', us ++ used, by simp, hd', hm, hmc⟩

theorem comparison_height {ts : List Token} {p : Predicate} (h : Grammar.Comparison ts p) :
    p.height = 1 := by
  cases h <;> rfl

theorem comparison_sound (levels : Nat) : Sound levels .primary comparison := by
  intro ts rest m h
  obtain ⟨used, rfl, hc⟩ := plain_comparison_iff.1 h
  refine ⟨0, used, rfl, Nat.zero_le _, ?_, .comparison hc⟩
  rw [← m.height_eq, comparison_height hc]
  decide

theorem primary_sound (levels : Nat) : Sound levels .primary (primary levels) := by
  induction levels with
  | zero =>
    intro ts rest m h
    by_cases ho : ts.head? = some .openParen
    · obtain ⟨inner, rfl⟩ := List.head?_eq_some_iff.1 ho
      rw [plain_primary_zero] at h
      cases h
    · rw [primary_of_head ho] at h
      exact comparison_sound 0 h
  | succ levels ih =>
    intro ts rest m h
    by_cases ho : ts.head? = some .openParen
    · obtain ⟨inner, rfl⟩ := List.head?_eq_some_iff.1 ho
      rw [plain_primary_succ] at h
      split at h
      · cases h
      · next m' rest' hm' =>
        rw [bind_eq_ok] at h
        obtain ⟨⟨⟨⟩, last⟩, hlast, h⟩ := h
        cases h
        obtain rfl := plain_token_eq_ok.1 hlast
        have hs : Sound levels (.chain .or) (reader levels (.chain .or)) :=
          chained_sound (chained_sound ih)
        obtain ⟨d, used, rfl, hd, hh, hc⟩ := hs hm'
        exact ⟨d + 1, _, by simp, Nat.succ_le_succ hd, hh, .parentheses hc⟩
    · rw [primary_of_head ho] at h
      exact comparison_sound _ h

/-- **What is read is derived**, within the bounds. -/
theorem reader_sound (levels : Nat) (rank : Grammar.Rank) : Sound levels rank (reader levels rank) := by
  have hp := primary_sound levels
  match rank with
  | .primary => exact hp
  | .chain .and => exact chained_sound hp
  | .chain .or => exact chained_sound (chained_sound hp)

/-! ## Completeness -/

/-- The rest does not go on with a phrase of the rank. -/
def Closed : Grammar.Rank → List Token → Prop
  | .primary, _ => True
  | .chain .and, rest => rest.head? ≠ some (.keyword .and)
  | .chain .or, rest => rest.head? ≠ some (.keyword .and) ∧ rest.head? ≠ some (.keyword .or)

/-- Why a phrase with the given depth and predicate is refused. -/
def Refused (levels depth : Nat) (p : Predicate) (error : StatementError) : Prop :=
  (levels < depth ∧ error = .tooDeep maxParentheses) ∨
    (maxHeight < p.height ∧ error = .tooDeep maxHeight)

/-- Within the bounds the outcome is the expected one, otherwise an error that says so. -/
def Outcome (levels depth : Nat) (p : Predicate)
    (outcome expected : Except Stop (Measured × List Token)) : Prop :=
  (depth ≤ levels ∧ p.height ≤ maxHeight ∧ outcome = expected) ∨
    ∃ s, outcome = .error s ∧ Refused levels depth p s.error

/-- Where a reader of the rank stands once it has read a phrase that may go on. -/
def goesOn (levels : Nat) (p : Predicate) (rest : List Token) :
    Grammar.Rank → Except Stop (Measured × List Token)
  | .primary => .ok (.of p, rest)
  | .chain op => plain (chain op (reader levels (Grammar.operand op)) (.of p) rest)

/-- The rank of the last phrase inside one of a rank. -/
def last : Grammar.Rank → Grammar.Rank
  | .primary => .primary
  | .chain op => Grammar.operand op

theorem Closed.last {rank : Grammar.Rank} {rest : List Token} (h : Closed rank rest) :
    Closed (last rank) rest := by
  match rank with
  | .primary | .chain .and => trivial
  | .chain .or => exact h.1

theorem goesOn_of_closed {levels : Nat} {p : Predicate} {rank : Grammar.Rank} {rest : List Token}
    (h : Closed rank rest) : goesOn levels p rest rank = .ok (.of p, rest) := by
  match rank with
  | .primary => rfl
  | .chain .and => exact plain_chain_of_head h
  | .chain .or => exact plain_chain_of_head h.2

theorem closed_keyword (op : Connective) (ts : List Token) :
    Closed (Grammar.operand op) (Grammar.keyword op :: ts) := by
  cases op with
  | and => trivial
  | or => simp [Closed, Grammar.operand, Grammar.keyword]

/-- A phrase inside another one is refused for no other reason. -/
theorem Refused.mono {levels d d' : Nat} {p p' : Predicate} {error : StatementError}
    (h : Refused levels d p error) (hd : d ≤ d') (hp : p.height ≤ p'.height) :
    Refused levels d' p' error :=
  h.imp (fun h => ⟨Nat.lt_of_lt_of_le h.1 hd, h.2⟩) (fun h => ⟨Nat.lt_of_lt_of_le h.1 hp, h.2⟩)

theorem comparison_complete {levels : Nat} {ts rest : List Token} {p : Predicate}
    (h : Grammar.Comparison ts p) : plain (primary levels (ts ++ rest)) = .ok (.of p, rest) := by
  have ho : (ts ++ rest).head? ≠ some .openParen := by
    cases h with
    | literalFirst _ hl => cases hl <;> simp
    | columnFirst | like => simp
  rw [primary_of_head ho, plain_comparison_iff]
  exact ⟨ts, rfl, h⟩

/-- **What is derived is read**, up to where its chain may go on. -/
theorem reader_goesOn {rank : Grammar.Rank} {d : Nat} {ts : List Token} {p : Predicate}
    (h : Grammar.Condition rank d ts p) : ∀ (levels : Nat) (rest : List Token),
    Closed (last rank) rest →
      Outcome levels d p (plain (reader levels rank (ts ++ rest))) (goesOn levels p rest rank) := by
  induction h with
  | comparison hc =>
    intro levels rest _
    refine Or.inl ⟨Nat.zero_le _, ?_, comparison_complete hc⟩
    rw [comparison_height hc]
    decide
  | @parentheses d ts p _ ih =>
    intro levels rest _
    rw [reader, List.append_assoc, List.cons_append]
    cases levels with
    | zero =>
      rw [plain_primary_zero]
      exact Or.inr ⟨_, rfl, Or.inl ⟨Nat.succ_pos d, rfl⟩⟩
    | succ levels =>
      have hclosed : Closed (.chain .or) (.closeParen :: rest) := by simp [Closed]
      rw [plain_primary_succ]
      rcases ih levels (.closeParen :: rest) hclosed.last with ⟨hd, hh, h⟩ | ⟨s, h, hs⟩
      · rw [goesOn_of_closed hclosed] at h
        refine Or.inl ⟨Nat.succ_le_succ hd, hh, ?_⟩
        simp only [List.singleton_append, h]
        rw [plain_token_eq_ok.2 rfl]
        rfl
      · refine Or.inr ⟨{ s with unclosed := s.unclosed + 1 }, ?_, ?_⟩
        · simp only [List.singleton_append, h]
        · exact hs.imp (fun h => ⟨Nat.succ_lt_succ h.1, h.2⟩) id
  | @single op d ts p _ ih =>
    intro levels rest hclosed
    change Closed (Grammar.operand op) rest at hclosed
    rw [reader_chain, plain_chained]
    rcases ih levels rest (Closed.last hclosed) with ⟨hd, hh, h⟩ | ⟨s, h, hs⟩
    · rw [goesOn_of_closed hclosed] at h
      rw [h]
      exact Or.inl ⟨hd, hh, rfl⟩
    · rw [h]
      exact Or.inr ⟨s, rfl, hs⟩
  | @join op d e ts us p q _ _ ih₁ ih₂ =>
    intro levels rest hclosed
    change Closed (Grammar.operand op) rest at hclosed
    have hp : p.height ≤ (Predicate.logical op [p, q]).height := by
      rw [Predicate.height_pair]; omega
    have hq : q.height ≤ (Predicate.logical op [p, q]).height := by
      rw [Predicate.height_pair]; omega
    rw [List.append_assoc, List.cons_append]
    -- the left phrase is read up to the connective, and its chain goes on with the operand there
    rcases ih₁ levels (Grammar.keyword op :: (us ++ rest)) (closed_keyword op _) with
      ⟨hd, hh, h⟩ | ⟨s, h, hs⟩
    · rw [goesOn, plain_chain_cons] at h
      rw [h]
      rcases ih₂ levels rest (Closed.last hclosed) with ⟨he, hh', h'⟩ | ⟨s, h', hs⟩
      · rw [goesOn_of_closed hclosed] at h'
        rw [h']
        simp only [Except.bind, Measured.join_of]
        -- both operands were low enough, what they are joined to need not be
        split
        · next error hj =>
          split at hj
          · cases hj
          · next hlt =>
            cases hj
            exact Or.inr ⟨_, rfl, Or.inr ⟨Nat.lt_of_not_le hlt, rfl⟩⟩
        · next joined hj =>
          split at hj
          · next hle =>
            cases hj
            exact Or.inl ⟨Nat.max_le.2 ⟨hd, he⟩, hle, rfl⟩
          · cases hj
      · rw [h']
        exact Or.inr ⟨s, rfl, hs.mono (Nat.le_max_right d e) hq⟩
    · rw [h]
      exact Or.inr ⟨s, rfl, hs.mono (Nat.le_max_left d e) hp⟩

/-- **What is derived is read** where it ends, within the bounds. -/
theorem reader_complete {levels d : Nat} {rank : Grammar.Rank} {ts rest : List Token} {p : Predicate}
    (h : Grammar.Condition rank d ts p) (hclosed : Closed rank rest) :
    Outcome levels d p (plain (reader levels rank (ts ++ rest))) (.ok (.of p, rest)) := by
  have h' : goesOn levels p rest rank = .ok (.of p, rest) := goesOn_of_closed hclosed
  rw [← h']
  exact reader_goesOn h levels rest hclosed.last

end Condition

end FederatedQuery
