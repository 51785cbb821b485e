/-
  Queries written as statements.

  * `IsName`: the words that name the same column wherever they are read;
  * `Predicate.Spellable`: the predicates for which conditions have a spelling, `Predicate.tokens`
    the tokens of that spelling, `Predicate.folded` the predicate that it is read as;
  * `Predicate.spells_text`, `Predicate.derived`: the text spells these tokens, and the grammar
    derives the folded predicate from them;
  * `Query.tokens`, `Query.folded`: the same of queries.
-/
import FederatedQuery.Proofs.Predicate.Basic
import FederatedQuery.Proofs.Statement.Grammar
import FederatedQuery.Proofs.Statement.Spelling
import FederatedQuery.Proofs.Text.LowerCase

namespace FederatedQuery

open Scan

/-- A word that is no keyword and in lower case. -/
structure IsName (name : String) : Prop where
  word : isWord name.toList = true
  free : Keyword.ofWord? name.toList = none
  lower : Text.lowerCase name = name

namespace Predicate

/-! ## Conditions -/

/-- Every comparison is by an operator, of a name with a text that is not empty, and every logical
    predicate has children. -/
inductive Spellable : Predicate → Prop
  | comparison {op field value} : op ≠ .found → IsName field → value ≠ "" →
      Spellable (.comparison op field value)
  | logical {op children} : children ≠ [] → (∀ p ∈ children, Spellable p) →
      Spellable (.logical op children)

/-- The token of an operator; the regular expressions have none, and are written with a word. -/
def operator : Comparator → Token
  | .eq => .equals
  | .ne => .notEquals
  | .found => .ident Comparator.found.text

mutual

/-- The tokens of the text of a predicate. -/
def tokens : Predicate → List Token
  | .comparison op field value => [.ident field, operator op, .literal value]
  | .logical op children => .openParen :: joinedTokens op children ++ [.closeParen]

/-- The tokens of predicates with a connective between them. -/
def joinedTokens (op : Connective) : List Predicate → List Token
  | [] => []
  | [p] => p.tokens
  | p :: ps => p.tokens ++ Grammar.keyword op :: joinedTokens op ps

end

/-- The text of a predicate, in front of what does not go on with its last quote. -/
def Spelled (p : Predicate) : Prop :=
  ∀ rest ts, rest.head? ≠ some '\'' → Spells rest ts →
    Spells (p.text.toList ++ rest) (p.tokens ++ ts)

theorem spells_operator {op : Comparator} (hop : op ≠ .found) {rest : List Char} {ts : List Token}
    (h : Spells rest ts) : Spells (op.text.toList ++ rest) (operator op :: ts) := by
  cases op with
  | eq => exact spells_symbol rfl h
  | ne => exact spells_symbol rfl h
  | found => exact absurd rfl hop

theorem spells_connective (op : Connective) {rest : List Char} {ts : List Token}
    (hr : ∀ c ∈ rest.head?, inWord c = false) (h : Spells rest ts) :
    Spells (op.text.toList ++ rest) (Grammar.keyword op :: ts) := by
  cases op with
  | and => exact spells_keyword (k := .and) (by decide) hr h
  | or => exact spells_keyword (k := .or) (by decide) hr h

/-- A name in front of an operator. -/
theorem spells_column {field : String} (hf : IsName field) {op : Comparator} (hop : op ≠ .found)
    {rest : List Char} {ts : List Token} (h : Spells rest ts) :
    Spells (field.toList ++ ' ' :: (op.text.toList ++ rest))
      (.ident field :: operator op :: ts) := by
  refine spells_name hf.word hf.free (stops_space _) ?_
    (spells_space (spells_operator hop h))
  rw [afterBy?_space]
  cases op with
  | eq => exact afterBy?_of_head (by decide) (by decide)
  | ne => exact afterBy?_of_head (by decide) (by decide)
  | found => exact absurd rfl hop

theorem spelled_comparison {op : Comparator} {field value : String} (hop : op ≠ .found)
    (hf : IsName field) : Spelled (.comparison op field value) := by
  intro rest ts hr h
  have htext : (comparison op field value).text.toList ++ rest =
      field.toList ++ ' ' :: (op.text.toList ++ ' ' :: ((Text.quoted value).toList ++ rest)) := by
    simp [text]
  rw [htext]
  exact spells_column hf hop (spells_space (spells_quoted value hr h))

theorem spells_joined (op : Connective) {ps : List Predicate} (hps : ps ≠ [])
    (h : ∀ p ∈ ps, Spelled p) {rest : List Char} {ts : List Token} (hr : rest.head? ≠ some '\'')
    (hs : Spells rest ts) : Spells ((joined op ps).toList ++ rest) (joinedTokens op ps ++ ts) := by
  induction ps with
  | nil => exact absurd rfl hps
  | cons p ps ih =>
    obtain ⟨hp, hps'⟩ := List.forall_mem_cons.1 h
    cases ps with
    | nil => exact hp rest ts hr hs
    | cons q ps =>
      have htext : (joined op (p :: q :: ps)).toList ++ rest = p.text.toList ++
          ' ' :: (op.text.toList ++ ' ' :: ((joined op (q :: ps)).toList ++ rest)) := by
        simp [joined]
      have htokens : joinedTokens op (p :: q :: ps) ++ ts = p.tokens ++
          Grammar.keyword op :: (joinedTokens op (q :: ps) ++ ts) := by
        simp [joinedTokens]
      rw [htext, htokens]
      refine hp _ _ (by simp) (spells_space ?_)
      exact spells_connective op (stops_space _)
        (spells_space (ih (by simp) hps'))

/-- **The text of a predicate** spells its tokens. -/
theorem spells_text {p : Predicate} (h : p.Spellable) : Spelled p := by
  induction h with
  | comparison hop hf => exact spelled_comparison hop hf
  | @logical op children hne _ ih =>
    intro rest ts hr h
    have htext : (logical op children).text.toList ++ rest =
        '(' :: ((joined op children).toList ++ ')' :: rest) := by simp [text]
    have htokens : (logical op children).tokens ++ ts =
        .openParen :: (joinedTokens op children ++ .closeParen :: ts) := by simp [tokens]
    rw [htext, htokens]
    exact spells_symbol rfl (spells_joined op hne ih (by simp) (spells_symbol rfl h))

/-! ## What conditions are read as -/

/-- Predicates joined two at a time, from the left. -/
def fold (op : Connective) : List Predicate → Predicate
  | [] => .logical op []
  | p :: ps => ps.foldl (fun left right => .logical op [left, right]) p

mutual

/-- The predicate with the children of every logical one joined two at a time. -/
def folded : Predicate → Predicate
  | .comparison op field value => .comparison op field value
  | .logical op children => fold op (foldedOf children)

/-- The predicates, each of them folded. -/
def foldedOf : List Predicate → List Predicate
  | [] => []
  | p :: ps => p.folded :: foldedOf ps

end

theorem joinedTokens_cons (op : Connective) (p : Predicate) (ps : List Predicate) :
    joinedTokens op (p :: ps) =
      p.tokens ++ ps.flatMap fun q => Grammar.keyword op :: q.tokens := by
  induction ps generalizing p with
  | nil => simp [joinedTokens]
  | cons q ps ih => rw [joinedTokens, ih, List.flatMap_cons, List.cons_append]; simp

theorem height_pos (p : Predicate) : 0 < p.height := by
  cases p <;> simp [height]

/-- The predicate is read back, folded, from the tokens of its text. -/
def Derived (p : Predicate) : Prop :=
  Grammar.Condition .primary (p.height - 1) p.tokens p.folded

theorem chain_derived {op : Connective} {ps : List Predicate} (h : ∀ p ∈ ps, Derived p) {d : Nat}
    {ts : List Token} {left : Predicate} (hl : Grammar.Condition (.chain op) d ts left) :
    Grammar.Condition (.chain op) (max d (heightOf ps - 1))
      (ts ++ ps.flatMap fun q => Grammar.keyword op :: q.tokens)
      ((foldedOf ps).foldl (fun left right => .logical op [left, right]) left) := by
  induction ps generalizing d ts left with
  | nil => simpa [heightOf, foldedOf] using hl
  | cons p ps ih =>
    obtain ⟨hp, hps⟩ := List.forall_mem_cons.1 h
    have hrest := ih hps (.join hl hp.toOperand)
    have hd : max (max d (p.height - 1)) (heightOf ps - 1) = max d (heightOf (p :: ps) - 1) := by
      rw [heightOf]
      omega
    rw [hd] at hrest
    simpa [foldedOf] using hrest

theorem joined_derived (op : Connective) {ps : List Predicate} (hne : ps ≠ [])
    (h : ∀ p ∈ ps, Derived p) :
    Grammar.Condition (.chain op) (heightOf ps - 1) (joinedTokens op ps) (fold op (foldedOf ps)) := by
  obtain ⟨p, ps, rfl⟩ := List.exists_cons_of_ne_nil hne
  obtain ⟨hp, hps⟩ := List.forall_mem_cons.1 h
  have hfirst : Grammar.Condition (.chain op) (p.height - 1) p.tokens p.folded :=
    .single hp.toOperand
  have hchain := chain_derived hps hfirst
  have hd : max (p.height - 1) (heightOf ps - 1) = heightOf (p :: ps) - 1 := by
    rw [heightOf]
    omega
  rw [hd] at hchain
  rw [joinedTokens_cons]
  exact hchain

/-- **A predicate is read back**, folded, from its text. -/
theorem derived {p : Predicate} (h : p.Spellable) : Derived p := by
  induction h with
  | @comparison op field value hop hf hv =>
    have hc : Grammar.Comparison [.ident field, operator op, .literal value]
        (.comparison op (Text.lowerCase field) value) := by
      cases op with
      | eq => exact .columnFirst .eq (.text value) hv
      | ne => exact .columnFirst .ne (.text value) hv
      | found => exact absurd rfl hop
    rw [hf.lower] at hc
    exact .comparison hc
  | @logical op children hne _ ih =>
    -- a chain of either connective is a condition, and its parentheses make it a single phrase
    have hparentheses := Grammar.Condition.parentheses (joined_derived op hne ih).toOr
    have hd : heightOf children - 1 + 1 = (logical op children).height - 1 := by
      obtain ⟨p, ps, rfl⟩ := List.exists_cons_of_ne_nil hne
      have hp := height_pos p
      rw [height, heightOf]
      omega
    rw [hd] at hparentheses
    exact hparentheses

theorem intercalate_and (ps : List Predicate) :
    " AND ".intercalate (ps.map text) = joined .and ps := by
  induction ps with
  | nil => simp [joined]
  | cons p ps ih =>
    cases ps with
    | nil => simp [joined]
    | cons q ps =>
      have hand : " AND " = " " ++ Connective.and.text ++ " " := by decide
      have hjoined : joined .and (p :: q :: ps) =
          p.text ++ " " ++ Connective.and.text ++ " " ++ joined .and (q :: ps) := by simp [joined]
      rw [List.map_cons, List.map_cons, String.intercalate_cons_cons, ← List.map_cons, ih, hjoined,
        hand]
      simp only [String.append_assoc]

end Predicate

namespace Query

/-! ## Statements -/

/-- Source and table are words without a dot, of which the second need not begin like one, columns
    and conditions have a spelling, and the limit fits a number of the language. -/
structure Spellable (q : Query) : Prop where
  source_word : isWord q.source.toList = true
  source_plain : '.' ∉ q.source.toList
  table_ne : q.table ≠ ""
  table_word : q.table.toList.all inWord = true
  table_plain : '.' ∉ q.table.toList
  columns : ∀ c ∈ q.columns, IsName c
  filters : ∀ p ∈ q.filters, p.Spellable
  limit_le : q.limit ≤ Nat.pow 2 63 - 1

/-- The name of the table with that of its source. -/
def qualified (q : Query) : String := q.source ++ "." ++ q.table

/-- The tokens of the list of columns. -/
def selectionTokens (q : Query) : List Token :=
  if q.columns.isEmpty then [.star] else (q.columns.map Token.ident).intersperse .comma

/-- The tokens of the conditions. -/
def conditionTokens (q : Query) : List Token :=
  if q.filters.isEmpty then [] else .keyword .where_ :: Predicate.joinedTokens .and q.filters

/-- The tokens of the limit. -/
def limitTokens (q : Query) : List Token :=
  if q.limit = 0 then [] else [.keyword .limit, .number q.limit]

/-- The tokens of the text of a query. -/
def tokens (q : Query) : List Token :=
  .keyword .select :: q.selectionTokens ++
    .keyword .from_ :: .ident q.qualified :: q.conditionTokens ++ q.limitTokens

/-- The query with its filters joined to a single one, folded. -/
def folded (q : Query) : Query :=
  { q with
    filters :=
      if q.filters.isEmpty then [] else [Predicate.fold .and (Predicate.foldedOf q.filters)] }

theorem spells_columns {names : List String} (hne : names ≠ []) (h : ∀ n ∈ names, IsName n)
    {rest : List Char} {ts : List Token} (hr : ∀ c ∈ rest.head?, inWord c = false)
    (hb : afterBy? rest = none) (hs : Spells rest ts) :
    Spells ((", ".intercalate names).toList ++ rest)
      ((names.map Token.ident).intersperse .comma ++ ts) := by
  induction names with
  | nil => exact absurd rfl hne
  | cons name names ih =>
    obtain ⟨hname, hnames⟩ := List.forall_mem_cons.1 h
    cases names with
    | nil =>
      rw [String.intercalate_singleton]
      exact spells_name hname.word hname.free hr hb hs
    | cons n names =>
      have htext : (", ".intercalate (name :: n :: names)).toList ++ rest =
          name.toList ++ ',' :: ' ' :: ((", ".intercalate (n :: names)).toList ++ rest) := by
        rw [String.intercalate_cons_cons]
        simp
      rw [htext]
      refine spells_name hname.word hname.free (stops_of_head (by decide) _)
        (afterBy?_of_head (by decide) (by decide)) ?_
      exact spells_symbol rfl (spells_space (ih (by simp) hnames))

theorem spells_selection {q : Query} (h : q.Spellable) {rest : List Char} {ts : List Token}
    (hr : ∀ c ∈ rest.head?, inWord c = false) (hb : afterBy? rest = none) (hs : Spells rest ts) :
    Spells (q.selection.toList ++ rest) (q.selectionTokens ++ ts) := by
  unfold selection selectionTokens
  split
  · exact spells_symbol rfl hs
  · next hne => exact spells_columns (by simpa using hne) h.columns hr hb hs

theorem spells_conditions {q : Query} (h : q.Spellable) {rest : List Char} {ts : List Token}
    (hr : rest.head? ≠ some '\'') (hs : Spells rest ts) :
    Spells (q.conditions.toList ++ rest) (q.conditionTokens ++ ts) := by
  unfold conditions conditionTokens
  split
  · exact hs
  · next hne =>
    have htext : (" WHERE " ++ " AND ".intercalate (q.filters.map Predicate.text)).toList ++ rest =
        ' ' :: (Keyword.where_.text.toList ++
          ' ' :: ((Predicate.joined .and q.filters).toList ++ rest)) := by
      rw [Predicate.intercalate_and]
      simp [Keyword.text]
    rw [htext]
    refine spells_space (spells_keyword (by decide) (stops_space _) ?_)
    refine spells_space ?_
    exact Predicate.spells_joined .and (by simpa using hne)
      (fun p hp => Predicate.spells_text (h.filters p hp)) hr hs

/-- How a statement writes the limit. -/
def limitText (q : Query) : String := if q.limit = 0 then "" else " LIMIT " ++ q.limit.repr

theorem spells_limit {q : Query} (h : q.Spellable) : Spells q.limitText.toList q.limitTokens := by
  unfold limitText limitTokens
  split
  · exact spells_nil
  · have htext : (" LIMIT " ++ q.limit.repr).toList =
        ' ' :: (Keyword.limit.text.toList ++ ' ' :: (q.limit.repr.toList ++ [])) := by
      simp [Keyword.text]
    rw [htext]
    refine spells_space (spells_keyword (by decide) (stops_space _) ?_)
    exact spells_space (spells_number h.limit_le (by simp) spells_nil)

theorem isWord_qualified {q : Query} (h : q.Spellable) :
    isWord q.qualified.toList = true ∧ '.' ∈ q.qualified.toList := by
  have hq : q.qualified.toList = q.source.toList ++ '.' :: q.table.toList := by simp [qualified]
  have hsource := h.source_word
  rw [hq]
  cases hs : q.source.toList with
  | nil => rw [hs] at hsource; cases hsource
  | cons c cs =>
    rw [hs] at hsource
    obtain ⟨hc, hcs⟩ := Bool.and_eq_true_iff.1 hsource
    have hdot : inWord '.' = true := by decide
    refine ⟨?_, by simp⟩
    simp [isWord, hc, hcs, h.table_word, hdot]

/-- **The text of a query** spells its tokens. -/
theorem spells_text {q : Query} (h : q.Spellable) : Spells q.text.toList q.tokens := by
  obtain ⟨hword, hdot⟩ := isWord_qualified h
  have htext : q.text.toList = Keyword.select.text.toList ++ ' ' :: (q.selection.toList ++
      ' ' :: (Keyword.from_.text.toList ++ ' ' :: (q.qualified.toList ++
        (q.conditions.toList ++ q.limitText.toList)))) := by
    simp [text, qualified, Keyword.text, limitText]
  have htokens : q.tokens = .keyword .select :: (q.selectionTokens ++
      .keyword .from_ :: .ident q.qualified :: (q.conditionTokens ++ q.limitTokens)) := by
    simp [tokens]
  have hlimit : q.limitText.toList.head? ≠ some '\'' ∧
      ∀ c ∈ q.limitText.toList.head?, inWord c = false := by
    unfold limitText
    split
    · simp
    · exact ⟨by simp, by simpa using stops_space []⟩
  have hconditions : ∀ c ∈ (q.conditions.toList ++ q.limitText.toList).head?, inWord c = false := by
    unfold conditions
    split
    · exact hlimit.2
    · simpa using stops_space []
  rw [htext, htokens]
  refine spells_keyword (by decide) (stops_space _) (spells_space ?_)
  refine spells_selection h (stops_space _) ?_ (spells_space ?_)
  · rw [afterBy?_space]
    exact afterBy?_of_head (by decide) (by decide)
  refine spells_keyword (by decide) (stops_space _) (spells_space ?_)
  refine spells_dotted hword hdot hconditions ?_
  exact spells_conditions h hlimit.1 (spells_limit h)

theorem selection_derived {q : Query} (h : q.Spellable) :
    Grammar.Selection q.selectionTokens q.columns := by
  unfold selectionTokens
  split
  · next hc =>
    rw [List.isEmpty_iff.1 hc]
    exact .all
  · next hc =>
    have hnames := Grammar.Selection.names (by simpa using hc : q.columns ≠ [])
    have hlower : ∀ c ∈ q.columns, Text.lowerCase c = id c := fun c hc => (h.columns c hc).lower
    rwa [List.map_congr_left hlower, List.map_id] at hnames

theorem source_ne {q : Query} (h : q.Spellable) : q.source ≠ "" := by
  intro hs
  have hsource := h.source_word
  rw [hs] at hsource
  cases hsource

/-- Names in lower case are split where they were joined. -/
theorem qualified_of_lower {q : Query} (h : q.Spellable) (hs : Text.lowerCase q.source = q.source)
    (ht : Text.lowerCase q.table = q.table) :
    Grammar.Qualified (Text.lowerCase q.qualified) q.source q.table := by
  have hdot : Text.Settled '.' := by decide +kernel
  have hlower : Text.lowerCase q.qualified = q.qualified := by
    rw [Text.lowerCase_eq_self_iff]
    intro c hc
    simp only [qualified, String.toList_append, List.mem_append] at hc
    rcases hc with (hc | hc) | hc
    · exact Text.lowerCase_eq_self_iff.1 hs c hc
    · rwa [List.mem_singleton.1 hc]
    · exact Text.lowerCase_eq_self_iff.1 ht c hc
  rw [hlower]
  exact ⟨by simp [qualified], source_ne h, h.table_ne, h.source_plain, h.table_plain⟩

/-- **A query is read back**, folded, from its text, with source and table as the name of the table
    is split in lower case. -/
theorem derived {q : Query} (h : q.Spellable) {source table : String}
    (hn : Grammar.Qualified (Text.lowerCase q.qualified) source table) :
    Grammar.Body (Predicate.heightOf q.filters - 1) q.tokens { q.folded with source, table } := by
  have hconditions : Grammar.Filters (Predicate.heightOf q.filters - 1) q.conditionTokens
      q.folded.filters := by
    unfold conditionTokens folded
    split
    · next hf =>
      rw [List.isEmpty_iff.1 hf]
      exact .none
    · next hf =>
      exact .condition (Predicate.joined_derived .and (by simpa using hf)
        fun p hp => Predicate.derived (h.filters p hp)).toOr
  have hlimit : Grammar.Limit q.limitTokens q.limit := by
    unfold limitTokens
    split
    · next hl =>
      rw [hl]
      exact .none
    · exact .rows (Int.natCast_nonneg q.limit)
  exact .body (selection_derived h) hn hconditions hlimit

end Query

end FederatedQuery
