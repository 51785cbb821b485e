/-
  Queries that were read from a statement, as JSON.

  A text of JSON may nest 127 arrays and objects, and every level of a binary predicate takes two of
  them.

  * `Query.Parsed`: what is true of every query that was read: a limit of 63 bits, and at most one
    filter, a binary one; `parsed_of_parse`;
  * `Predicate.Binary.depth_toJson`: a binary predicate as JSON;
  * `Query.decode_json_of_parse`: a query that was read comes back from its JSON as long as its
    filter is at most 63 high;
  * `Query.decode_json_chain_64`: the bound on filters is larger.
-/
import FederatedQuery.Proofs.Query.RoundTrip
import FederatedQuery.Proofs.Query.WellFormed
import FederatedQuery.Proofs.Query.Wire

namespace FederatedQuery

/-! ## Queries that were read -/

theorem Predicate.WellFormed.binary {p : Predicate} (h : p.WellFormed) : p.Binary := by
  induction h with
  | comparison => exact .comparison
  | logical _ _ ihp ihq => exact .logical ihp ihq

namespace Query

/-- What every query that was read from a statement has in common. -/
structure Parsed (q : Query) : Prop where
  limit_lt : q.limit < Nat.pow 2 63
  filters_le : q.filters.length ≤ 1
  binary : ∀ p ∈ q.filters, p.Binary

theorem parsed_of_parse {s : String} {q : Query} (h : (Statement.parse s).value = .ok q) :
    q.Parsed := by
  obtain ⟨d, body, ending, hspells, hbody, -, -, hh⟩ := Statement.parse_eq_ok_iff.1 h
  have hwell := @Grammar.Body.wellFormed _ [] _ _ _ _ hspells hbody hh
  exact ⟨Nat.lt_of_le_pred (by decide) hwell.limit_le, hwell.filters_le,
    fun p hp => (hwell.filters p hp).1.binary⟩

end Query

/-! ## How deeply their JSON nests -/

theorem Predicate.Binary.depth_toJson {p : Predicate} (h : p.Binary) :
    p.toJson.depth + 1 = 2 * p.height := by
  induction h with
  | comparison => rfl
  | @logical op p q _ _ ihp ihq =>
    have hdepth : (Predicate.logical op [p, q]).toJson.depth = max p.toJson.depth q.toJson.depth + 2 := by
      simp [toJson, listToJson, Json.depth, Json.depthOfFields, Json.depthOfItems]
    rw [hdepth, height_pair]
    omega

namespace Query

theorem depth_toJson (q : Query) :
    q.toJson.depth = Json.depthOfItems (Predicate.listToJson q.filters) + 2 := by
  have hcolumns : (Json.ofStrings q.columns).depth = 1 := by
    have hitems : Json.depthOfItems (q.columns.map .string) ≤ 0 :=
      Json.depthOfItems_le_iff.2 (by simp [Json.depth])
    rw [Json.ofStrings, Json.depth, Nat.le_zero.1 hitems]
  simp [toJson, Json.depth, Json.depthOfFields, Json.ofNat, hcolumns]

/-- A query that was read keeps to the bound on JSON when its filter is at most 63 high. -/
theorem Parsed.depth_le_iff {q : Query} (h : q.Parsed) :
    q.toJson.depth ≤ Json.maxDepth ↔ Predicate.heightOf q.filters ≤ 63 := by
  obtain ⟨-, hlength, hbinary⟩ := h
  rw [depth_toJson, Json.maxDepth]
  match hf : q.filters with
  | [] => simp [Predicate.listToJson, Json.depthOfItems, Predicate.heightOf]
  | [p] =>
    have hp := (hbinary p (hf ▸ List.mem_cons_self)).depth_toJson
    simp only [Predicate.listToJson, Json.depthOfItems, Predicate.heightOf, Nat.max_zero]
    omega
  | _ :: _ :: _ => simp [hf] at hlength

/-! ## Chains -/

/-- A query for the rows that meet a condition `n` times. -/
def chain (n : Nat) : Query where
  source := "s"
  table := "t"
  filters := List.replicate n (.eq "a" "x")

theorem spellable_chain (n : Nat) : (chain n).Spellable where
  source_word := (by decide +kernel : Scan.isWord "s".toList = true)
  source_plain := (by decide : '.' ∉ "s".toList)
  table_ne := (by decide : "t" ≠ "")
  table_word := (by decide +kernel : "t".toList.all Scan.inWord = true)
  table_plain := (by decide : '.' ∉ "t".toList)
  columns := by simp [chain]
  filters := by
    have hname : IsName "a" := ⟨by decide +kernel, by decide +kernel, by decide +kernel⟩
    have hp : (Predicate.eq "a" "x").Spellable := .comparison (by decide) hname (by decide)
    exact fun p hmem => (List.mem_replicate.1 hmem).2 ▸ hp
  limit_le := by simp [chain]

theorem height_foldl_replicate (op : Connective) (p q : Predicate) (hq : q.height ≤ p.height)
    (n : Nat) : ((List.replicate n q).foldl (fun left right => .logical op [left, right]) p).height =
      p.height + n := by
  induction n generalizing p with
  | zero => rfl
  | succ n ih =>
    have hpair := Predicate.height_pair op p q
    rw [Nat.max_eq_left hq] at hpair
    rw [List.replicate_succ, List.foldl_cons, ih _ (by omega), hpair]
    omega

theorem foldedOf_replicate (n : Nat) (p : Predicate) :
    Predicate.foldedOf (List.replicate n p) = List.replicate n p.folded := by
  induction n with
  | zero => rfl
  | succ n ih => rw [List.replicate_succ, Predicate.foldedOf, ih, List.replicate_succ]

/-- Every condition of a chain adds a level. -/
theorem heightOf_chain (n : Nat) : Predicate.heightOf (chain (n + 1)).folded.filters = n + 1 := by
  have hfilters : (chain (n + 1)).folded.filters =
      [Predicate.fold .and (List.replicate (n + 1) (.eq "a" "x"))] := by
    simp only [folded, chain, foldedOf_replicate]
    rfl
  rw [hfilters, List.replicate_succ, Predicate.fold, Predicate.heightOf, Predicate.heightOf,
    height_foldl_replicate _ _ _ (Nat.le_refl _), Nat.max_zero]
  exact Nat.add_comm 1 n

/-- A chain is read as a tree that leans to the left. -/
theorem parse_chain {n : Nat} (h : n + 1 ≤ maxHeight) :
    (Statement.parse (chain (n + 1)).text).value = .ok (chain (n + 1)).folded := by
  have hname : Grammar.Qualified (Text.lowerCase (chain (n + 1)).qualified) "s" "t" :=
    qualified_of_lower (spellable_chain _) (by decide +kernel : Text.lowerCase "s" = "s")
      (by decide +kernel : Text.lowerCase "t" = "t")
  have hflat : Predicate.heightOf (chain (n + 1)).filters ≤ maxParentheses + 1 := by
    refine Predicate.heightOf_le_iff.2 fun p hp => ?_
    rw [(List.mem_replicate.1 hp).2]
    decide
  refine parse_text_folded (spellable_chain _) hname hflat (Predicate.heightOf_le_iff.1 ?_)
  rwa [heightOf_chain]

example : (chain 2).text = "SELECT * FROM s.t WHERE a = 'x' AND a = 'x'" := by decide +kernel

/-! ## Reading them back -/

/-- The JSON of a query is read back, unless it nests too deeply. -/
theorem decode?_json {q : Query} (h : q.limit < Nat.pow 2 64) :
    decode? q.json = if q.toJson.depth ≤ Json.maxDepth then some q else none := by
  have hwhole := q.whole_toJson h
  split
  · next hd => exact decode?_of_rearranged h hd hwhole.rearranged_refl
  · next hd =>
    obtain ⟨fields, hfields, hwanted⟩ : ∃ fields, q.toJson = .object fields ∧
        ∀ f ∈ fields, fieldNames.contains f.1 = true := ⟨_, rfl, by simp [fieldNames]⟩
    rw [hfields] at hwhole hd
    cases hwhole with
    | object hparts =>
      have hdoc := Json.document?_object fieldNames.contains hparts
      rw [if_neg] at hdoc
      · rw [decode?, json, hfields, hdoc, Option.bind_none]
      · intro hle
        exact hd (Nat.succ_le_succ (Json.depthOfFields_le_iff.2 fun f hf => hle f hf (hwanted f hf)))

/-- **Queries that were read**: such a query comes back from its JSON when its filter is at most 63
    high, and is refused when it is higher. -/
theorem decode_json_of_parse {s : String} {q : Query} (h : (Statement.parse s).value = .ok q) :
    decode? q.json = if Predicate.heightOf q.filters ≤ 63 then some q else none := by
  have hparsed := parsed_of_parse h
  have hlimit : q.limit < Nat.pow 2 64 := Nat.lt_trans hparsed.limit_lt (by decide)
  rw [decode?_json hlimit]
  simp only [hparsed.depth_le_iff]

theorem decode_json_chain_63 :
    (Statement.parse (chain 63).text).value = .ok (chain 63).folded ∧
      decode? (chain 63).folded.json = some (chain 63).folded := by
  have hparse := parse_chain (by decide : 62 + 1 ≤ maxHeight)
  have hread := decode_json_of_parse hparse
  rw [heightOf_chain, if_pos (by decide)] at hread
  exact ⟨hparse, hread⟩

/-- One condition more is read from a statement, but no longer from JSON. -/
theorem decode_json_chain_64 :
    (Statement.parse (chain 64).text).value = .ok (chain 64).folded ∧
      decode? (chain 64).folded.json = none := by
  have hparse := parse_chain (by decide : 63 + 1 ≤ maxHeight)
  have hlimit : (chain 64).folded.limit < Nat.pow 2 64 := by decide
  have hdepth := (parsed_of_parse hparse).depth_le_iff.not
  rw [heightOf_chain] at hdepth
  have hnone := decode?_json hlimit
  rw [if_neg (hdepth.2 (by decide))] at hnone
  exact ⟨hparse, hnone⟩

end Query

end FederatedQuery
