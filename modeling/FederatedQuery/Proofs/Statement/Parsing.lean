/-
  Reading statements by the grammar.

  * `selection_sound`, `table_eq_ok`, `filters_sound`, `limit_sound` and their converses: what each
    clause takes off the tokens;
  * `statement_sound`, `statement_complete`: a statement is read, within the bounds, exactly when
    the grammar derives it, and refused as too deep when it keeps to the grammar alone;
  * `read_iff_derived`: the same of a reader that starts afresh;
  * `parse_eq_ok_iff`: the same of a text.
-/
import FederatedQuery.Proofs.Statement.Condition
import FederatedQuery.Proofs.Statement.Spelling
import FederatedQuery.Statement.Reader

namespace FederatedQuery

namespace Clause

/-! ## Columns -/

theorem columns_sound {done cs : List String} {ts rest : List Token}
    (h : columns done ts = .ok (cs, rest)) :
    ∃ names : List String, names ≠ [] ∧
      ts = (names.map Token.ident).intersperse .comma ++ rest ∧
      cs = done.reverse ++ names.map Text.lowerCase := by
  fun_induction columns done ts with
  | case1 done name rest' ih =>
    obtain ⟨names, hne, rfl, rfl⟩ := ih h
    obtain ⟨n, names, rfl⟩ := List.exists_cons_of_ne_nil hne
    exact ⟨name :: n :: names, by simp, by simp, by simp⟩
  | case2 done name rest' hc =>
    cases h
    exact ⟨[name], by simp, by simp, by simp⟩
  | case3 => cases h

theorem columns_complete {names done : List String} {rest : List Token} (hne : names ≠ [])
    (hr : rest.head? ≠ some .comma) :
    columns done ((names.map Token.ident).intersperse .comma ++ rest) =
      .ok (done.reverse ++ names.map Text.lowerCase, rest) := by
  induction names generalizing done with
  | nil => exact absurd rfl hne
  | cons name names ih =>
    cases names with
    | nil =>
      have hc : ∀ after, rest ≠ .comma :: after := fun after e => hr (by rw [e]; rfl)
      simp only [List.map_cons, List.map_nil, List.intersperse_singleton, List.singleton_append]
      rw [columns, List.reverse_cons]
      exact hc
    | cons n names =>
      simp only [List.map_cons, List.intersperse_cons_cons, List.cons_append]
      rw [columns]
      have hrest : columns (Text.lowerCase name :: done) _ = _ := ih (by simp)
      simpa using hrest

theorem selection_eq (ts : List Token) :
    selection ts = (plain (TokenReader.token (.keyword .select) ts)).bind fun (_, rest) =>
      match rest with
      | .star :: rest => .ok ([], rest)
      | .keyword .from_ :: _ => .error { error := .emptySelection, rest }
      | _ => columns [] rest := by
  unfold selection
  rcases TokenReader.token (.keyword .select) ts with s | ⟨_, rest⟩ <;> rfl

theorem selection_sound {ts rest : List Token} {cs : List String}
    (h : selection ts = .ok (cs, rest)) :
    ∃ used, ts = .keyword .select :: used ++ rest ∧ Grammar.Selection used cs := by
  rw [selection_eq, bind_eq_ok] at h
  obtain ⟨⟨⟨⟩, ts'⟩, hts, h⟩ := h
  obtain rfl := plain_token_eq_ok.1 hts
  simp only at h
  split at h
  · cases h
    exact ⟨[.star], rfl, .all⟩
  · cases h
  · obtain ⟨names, hne, rfl, rfl⟩ := columns_sound h
    exact ⟨_, by simp, .names hne⟩

theorem selection_complete {used rest : List Token} {cs : List String}
    (h : Grammar.Selection used cs) (hr : rest.head? ≠ some .comma) :
    selection (.keyword .select :: used ++ rest) = .ok (cs, rest) := by
  rw [selection_eq, List.cons_append, plain_token_eq_ok.2 rfl]
  cases h with
  | all => rfl
  | @names names hne =>
    have hc : columns [] _ = .ok ([].reverse ++ names.map Text.lowerCase, rest) :=
      columns_complete hne hr
    obtain ⟨name, names, rfl⟩ := List.exists_cons_of_ne_nil hne
    cases names <;> exact hc

/-! ## Table -/

theorem not_mem_of_mem_splitOn {a : Char} {l piece : List Char} (h : piece ∈ l.splitOn a) :
    a ∉ piece := by
  induction l generalizing piece with
  | nil => simp_all
  | cons c l ih =>
    rw [List.splitOn_cons_eq_if_modifyHead] at h
    split at h
    · rcases List.mem_cons.1 h with rfl | h
      · exact List.not_mem_nil
      · exact ih h
    · next hc =>
      obtain ⟨first, others, he⟩ := List.exists_cons_of_ne_nil (List.splitOn_ne_nil a l)
      rw [he, List.modifyHead_cons] at h
      rcases List.mem_cons.1 h with rfl | h
      · have hf : a ∉ first := ih (by simp [he])
        simpa [hf] using fun e : a = c => hc (by simp [e])
      · exact ih (by simp [he, h])

theorem splitQualified?_eq_some {name source table : String} :
    splitQualified? name = some (source, table) ↔ Grammar.Qualified name source table := by
  unfold splitQualified?
  constructor
  · intro h
    split at h
    · next s t hs =>
      split at h
      · cases h
      · next hne =>
        cases h
        simp only [Bool.or_eq_true, List.isEmpty_iff, not_or] at hne
        refine ⟨?_, ?_, ?_, ?_, ?_⟩
        · have hn : ['.'].intercalate (name.toList.splitOn '.') = name.toList :=
            List.intercalate_splitOn '.'
          rw [hs] at hn
          simpa [List.intercalate, List.intersperse] using hn.symm
        · simpa using hne.1
        · simpa using hne.2
        · simpa using not_mem_of_mem_splitOn (by rw [hs]; simp : s ∈ _)
        · simpa using not_mem_of_mem_splitOn (by rw [hs]; simp : t ∈ _)
    · cases h
  · intro h
    have hs : name.toList.splitOn '.' = [source.toList, table.toList] := by
      rw [h.toList_eq, List.splitOn_append_cons_self_of_not_mem h.source_plain,
        List.splitOn_eq_singleton h.table_plain]
    rw [hs]
    simp [h.source_ne, h.table_ne]

theorem table_eq (ts : List Token) :
    Clause.table ts = (plain (TokenReader.token (.keyword .from_) ts)).bind fun (_, rest) =>
      (plain (TokenReader.first .qualifiedTable name? rest)).bind fun (name, rest) =>
      match splitQualified? name with
      | none => .error { error := .unqualifiedTable name, rest }
      | some qualified =>
        if rest.head? = some .comma then .error { error := .unsupported .severalTables, rest }
        else .ok (qualified, rest) := by
  unfold Clause.table
  rcases TokenReader.token (.keyword .from_) ts with s | ⟨_, rest⟩
  · rfl
  simp only [bind, Except.bind, plain_ok]
  rcases TokenReader.first .qualifiedTable name? rest.1 with s | ⟨name, rest⟩ <;> rfl

theorem name?_eq_some {t : Token} {name : String} :
    name? t = some name ↔ ∃ n, t = .ident n ∧ Text.lowerCase n = name := by
  cases t <;> simp [name?]

theorem table_eq_ok {ts rest : List Token} {source table : String} :
    Clause.table ts = .ok ((source, table), rest) ↔
      ∃ name, ts = .keyword .from_ :: .ident name :: rest ∧
        Grammar.Qualified (Text.lowerCase name) source table ∧ rest.head? ≠ some .comma := by
  simp only [table_eq, bind_eq_ok, Prod.exists, plain_first_eq_ok, name?_eq_some]
  constructor
  · rintro ⟨⟨⟩, ts', hts, _, rest', ⟨t, rfl, name, rfl, rfl⟩, h⟩
    obtain rfl := plain_token_eq_ok.1 hts
    split at h
    · cases h
    · next qualified hq =>
      split at h
      · cases h
      · next hc =>
        cases h
        exact ⟨name, rfl, splitQualified?_eq_some.1 hq, hc⟩
  · rintro ⟨name, rfl, hq, hc⟩
    refine ⟨(), _, plain_token_eq_ok.2 rfl, _, rest, ⟨_, rfl, name, rfl, rfl⟩, ?_⟩
    simp only [splitQualified?_eq_some.2 hq]
    rw [if_neg hc]

/-! ## Condition, limit and end -/

theorem filters_where (levels : Nat) (ts : List Token) :
    filters levels (.keyword .where_ :: ts) =
      (plain (Condition.reader levels (.chain .or) ts)).bind fun (m, rest) =>
        .ok ([m.predicate], rest) := by
  rw [filters, Condition.reader]
  rcases Condition.read levels ts with s | ⟨m, rest⟩ <;> rfl

theorem filters_of_head {levels : Nat} {ts : List Token}
    (h : ts.head? ≠ some (.keyword .where_)) : filters levels ts = .ok ([], ts) := by
  unfold filters
  split
  · next after => exact absurd rfl h
  · rfl

theorem filters_sound {levels : Nat} {ts rest : List Token} {fs : List Predicate}
    (h : filters levels ts = .ok (fs, rest)) :
    ∃ d used, ts = used ++ rest ∧ Grammar.Filters d used fs ∧ d ≤ levels ∧
      ∀ p ∈ fs, p.height ≤ maxHeight := by
  by_cases hw : ts.head? = some (.keyword .where_)
  · obtain ⟨after, rfl⟩ := List.head?_eq_some_iff.1 hw
    rw [filters_where, bind_eq_ok] at h
    obtain ⟨⟨m, rest'⟩, hr, h⟩ := h
    cases h
    obtain ⟨d, used, rfl, hd, hh, hc⟩ := Condition.reader_sound levels (.chain .or) hr
    exact ⟨d, .keyword .where_ :: used, rfl, .condition hc, hd, by simpa [m.height_eq] using hh⟩
  · rw [filters_of_head hw] at h
    cases h
    exact ⟨0, [], rfl, .none, Nat.zero_le _, by simp⟩

theorem limit_of_head {ts : List Token} (h : ts.head? ≠ some (.keyword .limit)) :
    Clause.limit ts = .ok (0, ts) := by
  fun_cases Clause.limit ts with
  | case1 | case2 | case3 | case4 => exact absurd rfl h
  | case5 => rfl

theorem limit_sound {ts rest : List Token} {n : Nat} (h : Clause.limit ts = .ok (n, rest)) :
    ∃ used, ts = used ++ rest ∧ Grammar.Limit used n := by
  unfold Clause.limit at h
  split at h
  · next n after =>
    split at h
    · cases h
    · next hn =>
      split at h
      · cases h
      · cases h
        exact ⟨[.keyword .limit, .number n], rfl, .rows (Int.not_lt.1 hn)⟩
  · cases h
  · cases h
    exact ⟨[], rfl, .none⟩

theorem end_of_head {ts : List Token} (hne : ts ≠ []) (h : ts.head? ≠ some .semicolon) :
    end_ ts = .error (.missing .endOfStatement ts) := by
  fun_cases end_ ts with
  | case1 => exact absurd rfl hne
  | case2 => exact absurd rfl h
  | case3 => rfl

theorem end_eq_ok {ts : List Token} {ignored : Nat} :
    end_ ts = .ok ignored ↔ Grammar.Ending ts ∧ ts.tail.length = ignored := by
  constructor
  · intro h
    unfold end_ at h
    split at h
    · cases h; exact ⟨.all, rfl⟩
    · cases h; exact ⟨.semicolon _, rfl⟩
    · cases h
  · rintro ⟨_ | ts, rfl⟩ <;> rfl

/-- A condition is read where it ends, within the bounds, and refused as too deep otherwise. -/
theorem filters_complete {levels d : Nat} {used rest : List Token} {fs : List Predicate}
    (h : Grammar.Filters d used fs) (hw : rest.head? ≠ some (.keyword .where_))
    (hclosed : Condition.Closed (.chain .or) rest) :
    (d ≤ levels ∧ (∀ p ∈ fs, p.height ≤ maxHeight) ∧ filters levels (used ++ rest) = .ok (fs, rest)) ∨
      ∃ s p, filters levels (used ++ rest) = .error s ∧ p ∈ fs ∧
        Condition.Refused levels d p s.error := by
  cases h with
  | none =>
    rw [List.nil_append, filters_of_head hw]
    exact Or.inl ⟨Nat.zero_le _, by simp, rfl⟩
  | @condition d ts p hc =>
    rw [List.cons_append, filters_where]
    rcases Condition.reader_complete hc hclosed with ⟨hd, hh, h⟩ | ⟨s, h, hs⟩
    · rw [h]
      exact Or.inl ⟨hd, by simpa using hh, rfl⟩
    · rw [h]
      exact Or.inr ⟨s, p, rfl, by simp, hs⟩

theorem limit_complete {used rest : List Token} {n : Nat} (h : Grammar.Limit used n)
    (hr : Grammar.Ending rest) : Clause.limit (used ++ rest) = .ok (n, rest) := by
  cases h with
  | none => cases hr <;> rfl
  | rows hn =>
    have ho : rest.head? ≠ some (.keyword .offset) := by cases hr <;> simp
    simp only [List.cons_append, List.nil_append, Clause.limit]
    rw [if_neg (Int.not_lt.2 hn), if_neg ho]

end Clause

namespace StatementReader

/-! ## Statements -/

theorem statement_sound {levels ignored : Nat} {ts rest : List Token} {q : Query}
    (h : statement levels ts = .ok (q, ignored, rest)) :
    ∃ d body, ts = body ++ rest ∧ Grammar.Body d body q ∧ Grammar.Ending rest ∧
      ignored = rest.tail.length ∧ d ≤ levels ∧ ∀ p ∈ q.filters, p.height ≤ maxHeight := by
  simp only [statement, bind, bind_eq_ok, Prod.exists] at h
  obtain ⟨columns, ts₁, hs, source, table, ts₂, ht, filters, ts₃, hf, limit, ts₄, hl,
    ignored', he, h⟩ := h
  cases h
  obtain ⟨selection, rfl, hselection⟩ := Clause.selection_sound hs
  obtain ⟨name, rfl, hname, -⟩ := Clause.table_eq_ok.1 ht
  obtain ⟨d, condition, rfl, hcondition, hd, hh⟩ := Clause.filters_sound hf
  obtain ⟨rows, rfl, hrows⟩ := Clause.limit_sound hl
  obtain ⟨hending, hi⟩ := Clause.end_eq_ok.1 he
  exact ⟨d, _, by simp, .body hselection hname hcondition hrows, hending, hi.symm, hd, hh⟩

/-- What may follow a condition does not go on with it. -/
theorem closed_of_limit {rows ending : List Token} {n : Nat} (hl : Grammar.Limit rows n)
    (he : Grammar.Ending ending) :
    Condition.Closed (.chain .or) (rows ++ ending) ∧
      (rows ++ ending).head? ≠ some (.keyword .where_) ∧ (rows ++ ending).head? ≠ some .comma := by
  cases hl <;> cases he <;> simp [Condition.Closed]

/-- **What is derived is read**, or refused as too deep. -/
theorem statement_complete {levels d : Nat} {body ending : List Token} {q : Query}
    (h : Grammar.Body d body q) (he : Grammar.Ending ending) :
    (d ≤ levels ∧ (∀ p ∈ q.filters, p.height ≤ maxHeight) ∧
        statement levels (body ++ ending) = .ok (q, ending.tail.length, ending)) ∨
      ∃ s p, statement levels (body ++ ending) = .error s ∧ p ∈ q.filters ∧
        Condition.Refused levels d p s.error := by
  obtain @⟨selection, columns, name, source, table, _, condition, filters, rows, limit, hs, hn, hf,
    hl⟩ := h
  obtain ⟨hclosed, hw, hcomma⟩ := closed_of_limit hl he
  have hselection := Clause.selection_complete hs
    (by simp : (Token.keyword .from_ :: .ident name :: (condition ++ (rows ++ ending))).head? ≠ _)
  have hhead : (condition ++ (rows ++ ending)).head? ≠ some .comma := by
    cases hf with
    | none => exact hcomma
    | condition => simp
  have htable := Clause.table_eq_ok.2 ⟨name, rfl, hn, hhead⟩
  have htokens : Token.keyword .select :: selection ++ .keyword .from_ :: .ident name :: condition ++
      rows ++ ending = .keyword .select :: selection ++
        .keyword .from_ :: .ident name :: (condition ++ (rows ++ ending)) := by simp
  rw [htokens]
  simp only [statement, hselection, htable, bind, Except.bind]
  rcases Clause.filters_complete hf hw hclosed with ⟨hd, hh, h⟩ | ⟨s, p, h, hp, hr⟩
  · refine Or.inl ⟨hd, hh, ?_⟩
    simp only [h, Clause.limit_complete hl he, Clause.end_eq_ok.2 ⟨he, rfl⟩]
  · refine Or.inr ⟨s, p, ?_, hp, hr⟩
    simp only [h]

/-- What is derived within the bounds is read. -/
theorem statement_of_body {levels d : Nat} {body ending : List Token} {q : Query}
    (h : Grammar.Body d body q) (he : Grammar.Ending ending) (hd : d ≤ levels)
    (hh : ∀ p ∈ q.filters, p.height ≤ maxHeight) :
    statement levels (body ++ ending) = .ok (q, ending.tail.length, ending) := by
  rcases statement_complete h he with ⟨-, -, hread⟩ | ⟨s, p, -, hp, ⟨hlt, -⟩ | ⟨hlt, -⟩⟩
  · exact hread
  · exact absurd hd (Nat.not_le.2 hlt)
  · exact absurd (hh p hp) (Nat.not_le.2 hlt)

theorem read_value_eq_ok {r : StatementReader} {q : Query} :
    r.read.1.value = .ok q ↔
      ∃ n rest, statement (maxParentheses - r.openParentheses) r.rest = .ok (q, n, rest) := by
  unfold read
  split <;> next h => simp [h]

theorem read_value_eq_error {r : StatementReader} {error : StatementError} :
    r.read.1.value = .error error ↔
      ∃ s, statement (maxParentheses - r.openParentheses) r.rest = .error s ∧ s.error = error := by
  unfold read
  split <;> next h => simp [h]

/-- **Statements are read by the grammar.**  A reader that starts afresh reads the queries that are
    derived within the bounds, and no others; a statement that is out of bounds is refused as too
    deep. -/
theorem read_iff_derived (ts : List Token) :
    (∀ q, (read { rest := ts }).1.value = .ok q ↔
      ∃ depth, Grammar.Statement depth ts q ∧ depth ≤ maxParentheses ∧
        ∀ p ∈ q.filters, p.height ≤ maxHeight) ∧
    ∀ depth q, Grammar.Statement depth ts q →
      (maxParentheses < depth ∨ ∃ p ∈ q.filters, maxHeight < p.height) →
      ∃ bound, (read { rest := ts }).1.value = .error (.tooDeep bound) ∧
        (bound = maxParentheses ∧ maxParentheses < depth ∨
          bound = maxHeight ∧ ∃ p ∈ q.filters, maxHeight < p.height) := by
  refine ⟨fun q => ⟨?_, ?_⟩, ?_⟩
  · intro h
    obtain ⟨n, rest, h⟩ := read_value_eq_ok.1 h
    obtain ⟨d, body, rfl, hb, he, -, hd, hh⟩ := statement_sound h
    exact ⟨d, ⟨body, rest, rfl, hb, he⟩, hd, hh⟩
  · rintro ⟨d, ⟨body, ending, rfl, hb, he⟩, hd, hh⟩
    rcases statement_complete hb he with ⟨-, -, h⟩ | ⟨s, p, h, hp, hr⟩
    · exact read_value_eq_ok.2 ⟨_, _, h⟩
    · rcases hr with ⟨hlt, -⟩ | ⟨hlt, -⟩
      · exact absurd hd (Nat.not_le.2 hlt)
      · exact absurd (hh p hp) (Nat.not_le.2 hlt)
  · rintro depth q ⟨body, ending, rfl, hb, he⟩ hout
    rcases statement_complete hb he with ⟨hd, hh, -⟩ | ⟨s, p, h, hp, hr⟩
    · rcases hout with hlt | ⟨p, hp, hlt⟩
      · exact absurd hd (Nat.not_le.2 hlt)
      · exact absurd (hh p hp) (Nat.not_le.2 hlt)
    · rcases hr with ⟨hlt, hs⟩ | ⟨hlt, hs⟩
      · exact ⟨_, read_value_eq_error.2 ⟨s, h, hs⟩, Or.inl ⟨rfl, hlt⟩⟩
      · exact ⟨_, read_value_eq_error.2 ⟨s, h, hs⟩, Or.inr ⟨rfl, p, hp, hlt⟩⟩

/-- A statement with `n` parentheses around its comparison. -/
def nested (n : Nat) : List Token :=
  [.keyword .select, .star, .keyword .from_, .ident "s.t", .keyword .where_] ++
    (List.replicate n .openParen ++ [.ident "c", .equals, .literal "1"] ++
      List.replicate n .closeParen)

theorem nested_derived (n : Nat) :
    Grammar.Statement n (nested n)
      { source := "s", table := "t", columns := [], limit := 0,
        filters := [.comparison .eq "c" "1"] } := by
  have hname : Grammar.Qualified (Text.lowerCase "s.t") "s" "t" :=
    ⟨by decide +kernel, by decide, by decide, by decide, by decide⟩
  have hc : Grammar.Comparison [.ident "c", .equals, .literal "1"] (.comparison .eq "c" "1") := by
    have hlower : Text.lowerCase "c" = "c" := by decide +kernel
    have hcolumn : Grammar.Comparison [.ident "c", .equals, .literal "1"]
        (.comparison .eq (Text.lowerCase "c") "1") := .columnFirst .eq (.text "1") (by decide)
    rwa [hlower] at hcolumn
  have hcondition := (Grammar.Condition.ofPrimary (.comparison hc)).parenthesised n
  rw [Nat.zero_add] at hcondition
  exact ⟨_, [], by simp [nested], .body .all hname (.condition hcondition) .none, .all⟩

/-- One more parenthesis than the bound allows. -/
theorem read_nested :
    (read { rest := nested 128 }).1.value =
        .ok { source := "s", table := "t", columns := [], limit := 0,
              filters := [.comparison .eq "c" "1"] } ∧
      ∃ bound, (read { rest := nested 129 }).1.value = .error (.tooDeep bound) := by
  constructor
  · exact ((read_iff_derived (nested 128)).1 _).2
      ⟨128, nested_derived 128, Nat.le_refl _, by simp; decide⟩
  · obtain ⟨bound, h, -⟩ := (read_iff_derived (nested 129)).2 129 _ (nested_derived 129)
      (.inl (by decide))
    exact ⟨bound, h⟩

end StatementReader

namespace Statement

/-! ## Texts -/

theorem parse_value (text : String) :
    (parse text).value = match Scan.tokens? text with
      | .ok ts => (StatementReader.read { rest := ts }).1.value
      | .error e => .error (.scan e) := by
  unfold parse StatementReader.ofText?
  cases Scan.tokens? text <;> rfl

/-- **The texts that are read** are those that spell a statement within the bounds. -/
theorem parse_eq_ok_iff {text : String} {q : Query} :
    (parse text).value = .ok q ↔ ∃ d body ending, Scan.Spells text.toList (body ++ ending) ∧
      Grammar.Body d body q ∧ Grammar.Ending ending ∧ d ≤ maxParentheses ∧
      ∀ p ∈ q.filters, p.height ≤ maxHeight := by
  rw [parse_value]
  constructor
  · intro h
    split at h
    · next ts hts =>
      obtain ⟨n, rest, hread⟩ := StatementReader.read_value_eq_ok.1 h
      obtain ⟨d, body, hsplit, hb, he, -, hd, hh⟩ := StatementReader.statement_sound hread
      refine ⟨d, body, rest, ?_, hb, he, hd, hh⟩
      rw [← hsplit]
      exact Scan.tokens?_eq_ok_iff.1 hts
    · cases h
  · rintro ⟨d, body, ending, hs, hb, he, hd, hh⟩
    rw [hs.tokens?]
    exact StatementReader.read_value_eq_ok.2
      ⟨_, _, StatementReader.statement_of_body hb he hd hh⟩

/-- A statement that asks for the rows with one value in a column. -/
theorem parse_equality {text name source table column value : String}
    (hs : Scan.Spells text.toList [.keyword .select, .star, .keyword .from_, .ident name,
      .keyword .where_, .ident column, .equals, .literal value])
    (hname : Grammar.Qualified (Text.lowerCase name) source table) (hvalue : value ≠ "") :
    (parse text).value =
      .ok { source := source, table := table, filters := [.eq (Text.lowerCase column) value] } := by
  have hcomparison : Grammar.Comparison [.ident column, .equals, .literal value]
      (.eq (Text.lowerCase column) value) := .columnFirst .eq (.text value) hvalue
  have hbody := Grammar.Body.body .all hname
    (.condition (Grammar.Condition.comparison hcomparison).ofPrimary) .none
  refine parse_eq_ok_iff.2 ⟨0, _, [], ?_, hbody, .all, Nat.zero_le _, ?_⟩
  · simpa using hs
  · intro p hp
    obtain rfl := List.mem_singleton.1 hp
    exact (by decide : 1 ≤ maxHeight)

end Statement

end FederatedQuery
