/-
  Tables by the names they were given.

  A source and a table are registered under their names in lower case, each name by itself; a
  statement names both in one word, which is lower-cased as a whole.

  * `readSource`, `readTable`: the two names as a statement with that word gives them;
  * `SourceLost`, `TableLost`: when they are not those of the registration, because a capital sigma
    at the seam is a final one only in one of the two (`readSource_eq_iff`, `readTable_eq_iff`);
  * `query_registered_iff`: a table is answered from by its name exactly when neither is the case.
-/
import FederatedQuery.Proofs.Engine.Answer
import FederatedQuery.Proofs.Query.RoundTrip
import FederatedQuery.Proofs.Source.Memory

namespace FederatedQuery

/-! ## Names out of a joined name -/

/-- The name of the source, in lower case as it stands before that of the table. -/
def readSource (source table : String) : String :=
  String.ofList (Text.lowerAmid ('.' :: table.toList) [] source.toList)

/-- The name of the table, in lower case as it stands behind that of the source. -/
def readTable (source table : String) : String :=
  String.ofList (Text.lowerFrom ('.' :: source.toList.reverse) table.toList)

/-- The name of the source ends in a capital sigma, and the word goes on in the name of the table. -/
def SourceLost (source table : String) : Prop :=
  Text.EndsInSigma [] source.toList ∧ Text.meetsCased table.toList = true

/-- The name of the table begins with a capital sigma at which a word ends that goes back into the
    name of the source. -/
def TableLost (source table : String) : Prop :=
  Text.meetsCased source.toList.reverse = true ∧ Text.BeginsInSigma table.toList

/-- A dot does not end a word. -/
theorem meetsCased_dot (text : List Char) : Text.meetsCased ('.' :: text) = Text.meetsCased text := by
  have hdot : Text.caseIgnorable.contains '.' = true := by decide +kernel
  rw [Text.meetsCased, List.dropWhile_cons, if_pos hdot, Text.meetsCased]

theorem readSource_eq_iff {source table : String} :
    readSource source table = Text.lowerCase source ↔ ¬ SourceLost source table := by
  have hamid := Text.lowerAmid_eq_iff ('.' :: table.toList) [] source.toList
  rw [meetsCased_dot] at hamid
  rw [readSource, ← String.toList_inj, String.toList_ofList, Text.toList_lowerCase]
  exact hamid

theorem readTable_eq_iff {source table : String} :
    readTable source table = Text.lowerCase table ↔ ¬ TableLost source table := by
  have hfrom := Text.lowerFrom_eq_iff [] ('.' :: source.toList.reverse) table.toList
  rw [meetsCased_dot] at hfrom
  rw [readTable, ← String.toList_inj, String.toList_ofList, Text.toList_lowerCase]
  simpa [TableLost] using hfrom

theorem lowerCase_readSource (source table : String) :
    Text.lowerCase (readSource source table) = readSource source table := by
  rw [Text.lowerCase_eq_self_iff, readSource, String.toList_ofList]
  exact fun c hc => Text.settled_of_mem_lowerAmid hc

theorem lowerCase_readTable (source table : String) :
    Text.lowerCase (readTable source table) = readTable source table := by
  rw [Text.lowerCase_eq_self_iff, readTable, String.toList_ofList]
  exact fun c hc => Text.settled_of_mem_lowerFrom hc

/-- A joined name in lower case is split at its dot. -/
theorem qualified_read {source table : String} (hs : source ≠ "") (ht : table ≠ "")
    (hs' : '.' ∉ source.toList) (ht' : '.' ∉ table.toList) :
    Grammar.Qualified (Text.lowerCase (Query.all source table).qualified)
      (readSource source table) (readTable source table) := by
  have hdot : Text.Settled '.' := by decide +kernel
  refine ⟨?_, ?_, ?_, ?_, ?_⟩
  · simp [Query.qualified, Query.all, readSource, readTable, Text.lowerFrom_append, Text.lowerFrom,
      Text.lowerBetween_of_settled hdot]
  · simpa [readSource] using Text.lowerAmid_ne_nil (by simpa using hs) _ _
  · have hne := Text.lowerAmid_ne_nil (by simpa using ht : table.toList ≠ []) []
      ('.' :: source.toList.reverse)
    rw [Text.lowerAmid_nil] at hne
    simpa [readTable] using hne
  · simpa [readSource] using fun h => hs' (Text.dot_mem_lowerAmid h)
  · have hdot := @Text.dot_mem_lowerAmid [] ('.' :: source.toList.reverse) table.toList
    rw [Text.lowerAmid_nil] at hdot
    simpa [readTable] using fun h => ht' (hdot h)

/-! ## Answers -/

/-- The table of a source that holds a single one. -/
theorem table?_withTable (table name : String) (columns : List String) (rows : List Row) :
    (MemorySource.withTable {} table columns rows).table? name =
      if Text.lowerCase name = Text.lowerCase table then some { columns, rows } else none := by
  rw [MemorySource.withTable, MemorySource.table?_change]
  rfl

theorem restrict_nil (rows : List Row) : rows.map (Row.restrict []) = rows :=
  List.map_id rows

/-- What a source in memory gives for a whole table that needs no pinned fields. -/
theorem value_fetch_all {m : MemorySource} {table : String}
    (hr : ∀ t ∈ m.table? table, t.required = []) :
    (m.toSource.fetch { table, columns := [], filters := [] }).value =
      .ok (((m.table? table).map MemoryTable.rows).getD []) := by
  rw [MemorySource.value_fetch_toSource]
  cases ht : m.table? table with
  | none => exact MemorySource.value_fetch_unknown ht
  | some t =>
    have hpinned : MemorySource.MemoryTable.unpinned? t [] = none := by
      rw [MemorySource.MemoryTable.unpinned?, hr t ht]
      rfl
    have hall : t.rows.filter (fun row => [].all (Predicate.holds row)) = t.rows :=
      List.filter_eq_self.2 fun _ _ => rfl
    have hfetch : (m.fetch { table, columns := [], filters := [] }).value = _ :=
      MemorySource.value_fetch_pinned ht hpinned
    rw [hfetch, hall, restrict_nil]
    rfl

theorem Engine.value_answer_all (config : EngineConfig) {m : MemorySource} {source table : String}
    (hr : ∀ t ∈ m.table? table, t.required = []) :
    (Engine.answer config m.toSource (.all source table)).value = .ok {
      columns := m.columns table
      rows := ((m.table? table).map MemoryTable.rows).getD [] } := by
  have hfetch := value_fetch_all hr
  have hrequest : requestUnder config (.all source table) = { table, columns := [], filters := [] } := by
    rw [requestUnder_eq, Query.all, List.isEmpty_nil, Bool.not_true, Bool.and_false,
      if_neg Bool.false_ne_true]
  have hpass (rows : List Row) : secondPass config [] rows = pure rows := by
    rw [secondPass, List.isEmpty_nil, Bool.not_true, Bool.and_false, if_neg Bool.false_ne_true]
  rw [← hrequest] at hfetch
  rw [answer_of_ok hfetch]
  simp only [Query.all, Logged.value_bind, Logged.value_pure, hpass, cut, if_true, restrict_nil]
  rfl

theorem text_all (source table : String) :
    (Query.all source table).text = "SELECT * FROM " ++ source ++ "." ++ table := by
  rw [← String.toList_inj]
  simp [Query.text, Query.all, Query.selection, Query.conditions]

/-- A statement for a whole table is a query for it by the names that are read. -/
theorem value_query_all {e : Engine} {source table : String} (h : (Query.all source table).Spellable)
    (hlen : (Query.all source table).text.utf8ByteSize ≤ e.config.maxStatementLength) :
    (e.query (Query.all source table).text).value =
      (e.execute (.all (readSource source table) (readTable source table))).value := by
  have hqualified := qualified_read (Query.source_ne h) h.table_ne h.source_plain h.table_plain
  have hparse := Query.parse_text_folded h hqualified (Nat.zero_le _) (by simp [Query.folded, Query.all])
  have hvalid : validateStatement (Query.all source table).text e.config.maxStatementLength = .ok () := by
    have hs : Text.isBlank 'S' = false := by decide
    have hblank : Text.isBlankText (Query.all source table).text = false := by
      simp [Text.isBlankText, Query.text, hs]
    rw [validateStatement, hblank, if_neg Bool.false_ne_true, if_neg (Nat.not_lt.2 hlen)]
  have hrelabel : ((Statement.parse (Query.all source table).text).relabel Activity.event).value =
      (Statement.parse (Query.all source table).text).value := rfl
  simp only [Engine.query, hvalid, Logged.value_bind, hrelabel, hparse]
  rfl

/-- **The answer to a statement for a registered table** hangs on the names that are read. -/
theorem query_registered {source table : String} (h : (Query.all source table).Spellable)
    (hlen : (Query.all source table).text.utf8ByteSize ≤ defaultMaxStatementLength)
    (columns : List String) (rows : List Row) :
    ∃ e, (Engine.register {} source (MemorySource.withTable {} table columns rows).toSource).value =
        .ok e ∧
      (e.query (Query.all source table).text).value =
        if readSource source table = Text.lowerCase source then
          .ok (if readTable source table = Text.lowerCase table then { columns, rows }
            else { columns := [], rows := [] })
        else .error (.unknownSource (readSource source table)) := by
  obtain ⟨e, he, hconfig, hsources⟩ :=
    Engine.value_register source (MemorySource.withTable {} table columns rows).toSource
  -- the names that are read are in lower case, so that looking them up changes nothing more
  have hlower : Text.lowerCase (Query.all (readSource source table) (readTable source table)).source =
      readSource source table := lowerCase_readSource source table
  have hkey := hsources
    (Text.lowerCase (Query.all (readSource source table) (readTable source table)).source)
  refine ⟨e, he, ?_⟩
  rw [value_query_all h (by rw [hconfig]; exact hlen)]
  split
  · next hs =>
    rw [if_pos (hlower.trans hs)] at hkey
    have htable := table?_withTable table (readTable source table) columns rows
    rw [lowerCase_readTable] at htable
    have hrequired : ∀ t ∈ (MemorySource.withTable {} table columns rows).table?
        (readTable source table), t.required = [] := by
      rw [htable]
      split <;> simp
    rw [Engine.value_execute hkey, Engine.value_answer_all e.config hrequired, MemorySource.columns,
      htable]
    split <;> rfl
  · next hs =>
    rw [if_neg (by rwa [hlower])] at hkey
    rw [Engine.value_execute_unknown hkey, hlower]

/-- **Tables by their names.**  A statement with the names under which a source and its table were
    registered gets the columns and rows of the table, unless a capital sigma at the seam of the two
    names goes to the one small sigma in the registration and to the other in the statement; then
    the source is unknown, or the table seems empty. -/
theorem query_registered_iff {source table : String} (hs : Scan.isWord source.toList = true)
    (hs' : '.' ∉ source.toList) (ht : table ≠ "") (ht' : table.toList.all Scan.inWord = true)
    (ht'' : '.' ∉ table.toList)
    (hlen : ("SELECT * FROM " ++ source ++ "." ++ table).utf8ByteSize ≤ defaultMaxStatementLength)
    (columns : List String) (rows : List Row) :
    ∃ e, (Engine.register {} source (MemorySource.withTable {} table columns rows).toSource).value =
        .ok e ∧
      ((e.query ("SELECT * FROM " ++ source ++ "." ++ table)).value = .ok { columns, rows } ↔
        ¬ SourceLost source table ∧ (TableLost source table → columns = [] ∧ rows = [])) ∧
      (SourceLost source table →
        (e.query ("SELECT * FROM " ++ source ++ "." ++ table)).value =
          .error (.unknownSource (readSource source table))) ∧
      (¬ SourceLost source table → TableLost source table →
        (e.query ("SELECT * FROM " ++ source ++ "." ++ table)).value =
          .ok { columns := [], rows := [] }) := by
  have hq : (Query.all source table).Spellable :=
    ⟨hs, hs', ht, ht', ht'', by simp [Query.all], by simp [Query.all], Nat.zero_le _⟩
  rw [← text_all] at hlen ⊢
  obtain ⟨e, he, hvalue⟩ := query_registered hq hlen columns rows
  refine ⟨e, he, ?_, ?_, ?_⟩
  · rw [hvalue]
    -- an empty table looks the same whether it is found or not
    by_cases hlost : SourceLost source table
    · have hread : readSource source table ≠ Text.lowerCase source :=
        fun h => readSource_eq_iff.1 h hlost
      simp [hread, hlost]
    · rw [if_pos (readSource_eq_iff.2 hlost)]
      by_cases hlost' : TableLost source table
      · have hread : readTable source table ≠ Text.lowerCase table :=
          fun h => readTable_eq_iff.1 h hlost'
        simp [hread, hlost, hlost', eq_comm]
      · have hread : readTable source table = Text.lowerCase table := readTable_eq_iff.2 hlost'
        simp [hread, hlost, hlost']
  · intro hlost
    rw [hvalue, if_neg fun h => readSource_eq_iff.1 h hlost]
  · intro hkept hlost
    rw [hvalue, if_pos (readSource_eq_iff.2 hkept), if_neg fun h => readTable_eq_iff.1 h hlost]

/-- Capital sigmas away from the seam do no harm. -/
theorem query_registered_iff_samos :
    ∃ e, (Engine.register {} "ΣΑΜΟΣ1" (MemorySource.withTable {} "ΛΟΓΟΣ" ["a"]
        [.ofPairs [("a", "1")]]).toSource).value = .ok e ∧
      (e.query "SELECT * FROM ΣΑΜΟΣ1.ΛΟΓΟΣ").value =
        .ok { columns := ["a"], rows := [.ofPairs [("a", "1")]] } := by
  obtain ⟨e, he, hiff, -⟩ := @query_registered_iff "ΣΑΜΟΣ1" "ΛΟΓΟΣ" (by decide +kernel)
    (by decide) (by decide) (by decide +kernel) (by decide) (by decide +kernel) ["a"]
    [.ofPairs [("a", "1")]]
  refine ⟨e, he, hiff.2 ⟨readSource_eq_iff.1 (by decide +kernel), fun h => ?_⟩⟩
  exact absurd h (readTable_eq_iff.1 (by decide +kernel))

/-- A source whose name ends in a capital sigma is not found again. -/
theorem query_registered_unknown :
    ¬ ∀ (source table : String) (columns : List String) (rows : List Row),
      Scan.isWord source.toList = true → '.' ∉ source.toList → table ≠ "" →
      table.toList.all Scan.inWord = true → '.' ∉ table.toList →
      ("SELECT * FROM " ++ source ++ "." ++ table).utf8ByteSize ≤ defaultMaxStatementLength →
      ∀ e, (Engine.register {} source
          (MemorySource.withTable {} table columns rows).toSource).value = .ok e →
        (e.query ("SELECT * FROM " ++ source ++ "." ++ table)).value = .ok { columns, rows } := by
  intro h
  have hq : (Query.all "ΑΣ" "T").Spellable :=
    ⟨by decide +kernel, by decide, by decide, by decide +kernel, by decide, by simp [Query.all],
      by simp [Query.all], Nat.zero_le _⟩
  have hread : readSource "ΑΣ" "T" ≠ Text.lowerCase "ΑΣ" := by decide +kernel
  obtain ⟨e, he, hvalue⟩ := query_registered hq (by decide +kernel) ["a"] [.ofPairs [("a", "1")]]
  rw [text_all, if_neg hread] at hvalue
  have hfound := h "ΑΣ" "T" _ _ hq.source_word hq.source_plain hq.table_ne hq.table_word
    hq.table_plain (by decide +kernel) e he
  rw [hvalue] at hfound
  cases hfound

end FederatedQuery
