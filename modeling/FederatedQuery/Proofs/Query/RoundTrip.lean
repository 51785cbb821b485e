/-
  Reading back what was written.

  * `Query.parse_text_folded`: the statement for a query is read as the folded query, within the
    bounds of the language;
  * `Predicate.Binary`: the predicates that folding does not change;
  * `Query.parse_text`: queries with at most one filter, a binary one, are read back as they were.
-/
import FederatedQuery.Proofs.Query.Written
import FederatedQuery.Proofs.Statement.Parsing

namespace FederatedQuery

namespace Predicate

/-! ## Binary predicates -/

/-- Every logical predicate has two children. -/
inductive Binary : Predicate → Prop
  | comparison {op field value} : Binary (.comparison op field value)
  | logical {op p q} : Binary p → Binary q → Binary (.logical op [p, q])

theorem Binary.folded {p : Predicate} (h : p.Binary) : p.folded = p := by
  induction h with
  | comparison => rfl
  | logical _ _ ihp ihq => simp [Predicate.folded, foldedOf, fold, ihp, ihq]

end Predicate

namespace Query

/-! ## Reading statements back -/

/-- The statement for a query is read as the folded query, with the names of source and table as
    they come out of the joined name in lower case. -/
theorem parse_text_folded {q : Query} (h : q.Spellable) {source table : String}
    (hn : Grammar.Qualified (Text.lowerCase q.qualified) source table)
    (hd : Predicate.heightOf q.filters ≤ maxParentheses + 1)
    (hh : ∀ p ∈ q.folded.filters, p.height ≤ maxHeight) :
    (Statement.parse q.text).value = .ok { q.folded with source, table } := by
  have hreader : StatementReader.ofText? q.text = .ok { rest := q.tokens } := by
    rw [StatementReader.ofText?, (spells_text h).tokens?]
  rw [Statement.parse, hreader]
  refine StatementReader.read_value_eq_ok.2 ?_
  have hread := @StatementReader.statement_complete maxParentheses _ _ _ _ (derived h hn) .all
  rw [List.append_nil] at hread
  rcases hread with ⟨-, -, hq⟩ | ⟨s, p, -, hp, hr⟩
  · exact ⟨_, _, hq⟩
  · rcases hr with ⟨hlt, -⟩ | ⟨hlt, -⟩
    · omega
    · exact absurd (hh p hp) (Nat.not_le.2 hlt)

/-- A single binary filter is what the folded query has as well. -/
theorem folded_of_binary {q : Query} (hf : q.filters.length ≤ 1)
    (hb : ∀ p ∈ q.filters, p.Binary) : q.folded = q := by
  obtain ⟨source, table, columns, limit, filters⟩ := q
  match filters with
  | [] => rfl
  | [p] =>
    have hp : p.folded = p := (hb p List.mem_cons_self).folded
    simp [folded, Predicate.foldedOf, Predicate.fold, hp]
  | _ :: _ :: _ => simp at hf

/-- **Reading undoes writing.**  A query without regular expressions, with at most one filter and
    only binary predicates, is read back from its text. -/
theorem parse_text {q : Query} (h : q.Spellable) (hs : Text.lowerCase q.source = q.source)
    (ht : Text.lowerCase q.table = q.table) (hf : q.filters.length ≤ 1)
    (hb : ∀ p ∈ q.filters, p.Binary) (hh : ∀ p ∈ q.filters, p.height ≤ maxParentheses + 1) :
    (Statement.parse q.text).value = .ok q := by
  have hfolded : q.folded = q := folded_of_binary hf hb
  have hread : (Statement.parse q.text).value = .ok q.folded := by
    refine parse_text_folded h (qualified_of_lower h hs ht) (Predicate.heightOf_le_iff.2 hh) ?_
    rw [hfolded]
    exact fun p hp => Nat.le_trans (hh p hp) (by decide)
  rw [hread, hfolded]

/-- A query with a name that begins a keyword, a dotted name, and texts with quotes, a line end and
    pieces of statements. -/
def sample : Query where
  source := "s"
  table := "1t"
  columns := ["order", "a.b"]
  limit := 5
  filters := [.logical .or [.comparison .eq "order" "it's",
    .logical .and [.comparison .ne "a.b" "\n", .comparison .eq "c" " OR ("]]]

theorem isName_sample : IsName "order" ∧ IsName "a.b" ∧ IsName "c" :=
  ⟨⟨by decide +kernel, by decide +kernel, by decide +kernel⟩,
    ⟨by decide +kernel, by decide +kernel, by decide +kernel⟩,
    ⟨by decide +kernel, by decide +kernel, by decide +kernel⟩⟩

theorem spellable_sample : sample.Spellable where
  source_word := by decide +kernel
  source_plain := by decide
  table_ne := by decide
  table_word := by decide +kernel
  table_plain := by decide
  columns := by simpa [sample] using ⟨isName_sample.1, isName_sample.2.1⟩
  filters := by
    obtain ⟨horder, hab, hc⟩ := isName_sample
    have hand : (Predicate.logical .and [.comparison .ne "a.b" "\n",
        .comparison .eq "c" " OR ("]).Spellable :=
      .logical (by simp) (by
        simpa using ⟨.comparison (by decide) hab (by decide),
          .comparison (by decide) hc (by decide)⟩)
    simpa [sample] using .logical (by simp) (by
      simpa using ⟨.comparison (by decide) horder (by decide), hand⟩)
  limit_le := by decide

theorem parse_sample_text :
    sample.text = "SELECT order, a.b FROM s.1t WHERE (order = 'it''s' OR " ++
        "(a.b != '\n' AND c = ' OR (')) LIMIT 5" ∧
      (Statement.parse sample.text).value = .ok sample := by
  refine ⟨by decide +kernel, parse_text spellable_sample (by decide +kernel) (by decide +kernel)
    (by decide) ?_ (by decide +kernel)⟩
  simpa [sample] using .logical .comparison (.logical .comparison .comparison)

end Query

end FederatedQuery
