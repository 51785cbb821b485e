/-
  Queries and predicates through JSON.

  * `Json.Rearranged v w`: every object of `w` has the fields of the one in `v`, in any order, and
    perhaps others, which hold strings;
  * `Predicate.ofJson?_of_rearranged`, `Query.ofJson?_of_rearranged`: either form stands for what was
    written;
  * `Query.decode?_of_rearranged`, `Predicate.decode?_of_rearranged`: so does its text, unless it
    nests too deeply;
  * `decode_encode`: what is written is read back, in every arrangement.
-/
import FederatedQuery.Proofs.Json.Value
import FederatedQuery.Proofs.Predicate.Basic
import FederatedQuery.Query.Wire
import Mathlib.Data.List.Forall2

namespace FederatedQuery

/-! ## Arrangements of fields -/

namespace Json

/-- The same value, with the fields of every object in any order and among others that hold
    strings. -/
inductive Rearranged : Json → Json → Prop
  | scalar {v : Json} : v.depth = 0 → Rearranged v v
  | array {vs ws : List Json} : List.Forall₂ Rearranged vs ws → Rearranged (.array vs) (.array ws)
  | object {fields kept others written : List (String × Json)} :
      kept.map Prod.fst = fields.map Prod.fst →
      List.Forall₂ Rearranged (fields.map Prod.snd) (kept.map Prod.snd) →
      (∀ f ∈ others, f.1 ∉ fields.map Prod.fst ∧ ∃ s, f.2 = .string s) →
      written.Perm (kept ++ others) → Rearranged (.object fields) (.object written)

theorem Rearranged.eq_of_depth_eq_zero {v w : Json} (h : Rearranged v w) (hv : v.depth = 0) :
    w = v := by
  cases h with
  | scalar => rfl
  | array | object => simp [depth] at hv

theorem rearranged_array {vs : List Json} {w : Json} (h : Rearranged (.array vs) w) :
    ∃ ws, w = .array ws ∧ List.Forall₂ Rearranged vs ws := by
  cases h with
  | scalar hd => simp [depth] at hd
  | array hvs => exact ⟨_, rfl, hvs⟩

theorem forall₂_mem_right {α β : Type} {R : α → β → Prop} {l : List α} {l' : List β}
    (h : List.Forall₂ R l l') {b : β} (hb : b ∈ l') : ∃ a ∈ l, R a b := by
  induction h with
  | nil => cases hb
  | cons hr _ ih =>
    rcases List.mem_cons.1 hb with rfl | hb
    · exact ⟨_, List.mem_cons_self, hr⟩
    · obtain ⟨a, ha, hab⟩ := ih hb
      exact ⟨a, List.mem_cons_of_mem _ ha, hab⟩

/-- Arranging the fields of a value does not make it deeper. -/
theorem Whole.of_rearranged {v : Json} (h : v.Whole) :
    ∀ w, Rearranged v w → w.Whole ∧ w.depth ≤ v.depth := by
  induction h with
  | null => rintro w hw; cases hw.eq_of_depth_eq_zero rfl; exact ⟨.null, Nat.le_refl _⟩
  | bool b => rintro w hw; cases hw.eq_of_depth_eq_zero rfl; exact ⟨.bool b, Nat.le_refl _⟩
  | number hn => rintro w hw; cases hw.eq_of_depth_eq_zero rfl; exact ⟨.number hn, Nat.le_refl _⟩
  | string s => rintro w hw; cases hw.eq_of_depth_eq_zero rfl; exact ⟨.string s, Nat.le_refl _⟩
  | @array items hitems ih =>
    intro w hw
    obtain ⟨ws, rfl, hws⟩ := rearranged_array hw
    have hpart : ∀ w ∈ ws, w.Whole ∧ w.depth ≤ depthOfItems items := by
      intro w hw
      obtain ⟨v, hv, hvw⟩ := forall₂_mem_right hws hw
      obtain ⟨hwhole, hdepth⟩ := ih v hv w hvw
      exact ⟨hwhole, Nat.le_trans hdepth (depthOfItems_le_iff.1 (Nat.le_refl _) v hv)⟩
    refine ⟨.array fun w hw => (hpart w hw).1, Nat.succ_le_succ ?_⟩
    exact depthOfItems_le_iff.2 fun w hw => (hpart w hw).2
  | @object fields hfields ih =>
    intro w hw
    cases hw with
    | scalar hd => simp [depth] at hd
    | @object _ kept others written hnames hvalues hothers hperm =>
      have hpart : ∀ f ∈ written, f.2.Whole ∧ f.2.depth ≤ depthOfFields fields := by
        intro f hf
        rcases List.mem_append.1 (hperm.mem_iff.1 hf) with hf | hf
        · obtain ⟨v, hv, hvw⟩ := forall₂_mem_right hvalues (List.mem_map_of_mem hf)
          obtain ⟨g, hg, rfl⟩ := List.mem_map.1 hv
          obtain ⟨hwhole, hdepth⟩ := ih g hg f.2 hvw
          exact ⟨hwhole, Nat.le_trans hdepth (depthOfFields_le_iff.1 (Nat.le_refl _) g hg)⟩
        · obtain ⟨-, s, hs⟩ := hothers f hf
          rw [hs]
          exact ⟨.string s, Nat.zero_le _⟩
      refine ⟨.object fun f hf => (hpart f hf).1, Nat.succ_le_succ ?_⟩
      exact depthOfFields_le_iff.2 fun f hf => (hpart f hf).2

theorem Whole.rearranged_refl {v : Json} (h : v.Whole) : Rearranged v v := by
  induction h with
  | null | bool | number | string => exact .scalar rfl
  | array _ ih => exact .array (List.forall₂_same.2 ih)
  | @object fields _ ih =>
    have hvalues : List.Forall₂ Rearranged (fields.map Prod.snd) (fields.map Prod.snd) := by
      refine List.forall₂_same.2 fun v hv => ?_
      obtain ⟨f, hf, rfl⟩ := List.mem_map.1 hv
      exact ih f hf
    exact @Rearranged.object fields fields [] fields rfl hvalues (by simp) (by simp)

theorem Rearranged.reversed {fields : List (String × Json)} (kept others : List (String × Json))
    (hvalues : List.Forall₂ Rearranged (fields.map Prod.snd) (kept.map Prod.snd))
    (hnames : kept.map Prod.fst = fields.map Prod.fst)
    (hothers : ∀ f ∈ others, f.1 ∉ fields.map Prod.fst ∧ ∃ s, f.2 = .string s) :
    Rearranged (.object fields) (.object (kept ++ others).reverse) :=
  .object hnames hvalues hothers (List.reverse_perm _)

/-! ## Look-up of fields -/

theorem filter_name_of_nodup {fields : List (String × Json)} (h : (fields.map Prod.fst).Nodup)
    {f : String × Json} (hf : f ∈ fields) : fields.filter (·.1 = f.1) = [f] := by
  induction fields with
  | nil => cases hf
  | cons g gs ih =>
    obtain ⟨hg, hgs⟩ := List.nodup_cons.1 h
    rcases List.mem_cons.1 hf with rfl | hf
    · have hnone : gs.filter (·.1 = f.1) = [] := by
        refine List.filter_eq_nil_iff.2 fun g' hg' heq => hg ?_
        exact of_decide_eq_true heq ▸ List.mem_map_of_mem hg'
      rw [List.filter_cons_of_pos (by simp), hnone]
    · have hne : g.1 ≠ f.1 := fun heq => hg (heq ▸ List.mem_map_of_mem hf)
      rw [List.filter_cons_of_neg (by simpa using hne), ih hgs hf]

theorem exists_kept {fields kept : List (String × Json)}
    (hnames : kept.map Prod.fst = fields.map Prod.fst)
    (hvalues : List.Forall₂ Rearranged (fields.map Prod.snd) (kept.map Prod.snd))
    {f : String × Json} (hf : f ∈ fields) : ∃ v, (f.1, v) ∈ kept ∧ Rearranged f.2 v := by
  induction fields generalizing kept with
  | nil => cases hf
  | cons g gs ih =>
    cases kept with
    | nil => cases hnames
    | cons k ks =>
      simp only [List.map_cons, List.cons.injEq, List.forall₂_cons] at hnames hvalues
      rcases List.mem_cons.1 hf with rfl | hf
      · exact ⟨k.2, hnames.1 ▸ List.mem_cons_self, hvalues.1⟩
      · obtain ⟨v, hv, hr⟩ := ih hnames.2 hvalues.2 hf
        exact ⟨v, List.mem_cons_of_mem _ hv, hr⟩

/-- Every field of an object is found in all of its arrangements. -/
theorem field?_of_rearranged {fields : List (String × Json)} (hnodup : (fields.map Prod.fst).Nodup)
    {w : Json} (h : Rearranged (.object fields) w) :
    ∃ written, w = .object written ∧
      ∀ f ∈ fields, ∃ v, field? f.1 written = some v ∧ Rearranged f.2 v := by
  cases h with
  | scalar hd => simp [depth] at hd
  | @object _ kept others written hnames hvalues hothers hperm =>
    refine ⟨written, rfl, fun f hf => ?_⟩
    obtain ⟨v, hv, hr⟩ := exists_kept hnames hvalues hf
    have hkept : kept.filter (·.1 = f.1) = [(f.1, v)] :=
      filter_name_of_nodup (hnames ▸ hnodup) hv
    have hrest : others.filter (·.1 = f.1) = [] := by
      refine List.filter_eq_nil_iff.2 fun g hg heq => (hothers g hg).1 ?_
      exact of_decide_eq_true heq ▸ List.mem_map_of_mem hf
    have hfilter : written.filter (·.1 = f.1) = [(f.1, v)] := by
      have := hperm.filter (·.1 = f.1)
      rwa [List.filter_append, hkept, hrest, List.append_nil, List.perm_singleton] at this
    exact ⟨v, by rw [field?, hfilter], hr⟩

end Json

/-! ## Written forms -/

@[simp] theorem Comparator.ofName?_name (op : Comparator) : ofName? op.name = some op := by
  cases op <;> rfl

@[simp] theorem Connective.ofName?_name (op : Connective) : ofName? op.name = some op := by
  cases op <;> rfl

theorem Json.nat64?_ofNat {n : Nat} (h : n < Nat.pow 2 64) : (Json.ofNat n).nat64? = some n := by
  have hread : Decimal.read? (Nat.pow 2 64 - 1) (Nat.toDigits 10 n) = some n :=
    Decimal.read?_eq_some_iff.2 ⟨Nat.ofDigitChars_ten_toDigits, Nat.le_sub_one_of_lt h⟩
  have hdigits : (Nat.toDigits 10 n).all Char.isDigit = true :=
    List.all_eq_true.2 fun _ => Json.Number.isDigit_toDigits
  rw [ofNat, nat64?, Number.nat?, Nat.toList_repr]
  split
  · next hnil => exact absurd hnil Nat.toDigits_ne_nil
  · rw [if_pos hdigits, hread]

theorem Json.strings?_ofStrings (ss : List String) : (Json.ofStrings ss).strings? = some ss := by
  rw [ofStrings, strings?]
  induction ss with
  | nil => rfl
  | cons s ss ih => simp [string?, ih]

theorem Json.ofStrings_of_rearranged {ss : List String} {w : Json}
    (h : Rearranged (ofStrings ss) w) : w = ofStrings ss := by
  obtain ⟨ws, rfl, hws⟩ := rearranged_array h
  refine congrArg array ?_
  clear h
  induction ss generalizing ws with
  | nil => cases hws; rfl
  | cons s ss ih =>
    cases hws with
    | cons hr hrs => rw [hr.eq_of_depth_eq_zero rfl, ih _ hrs, List.map_cons]

theorem Json.whole_ofStrings (ss : List String) : (Json.ofStrings ss).Whole := by
  refine .array fun v hv => ?_
  obtain ⟨s, -, rfl⟩ := List.mem_map.1 hv
  exact .string s

namespace Predicate

theorem listToJson_eq (ps : List Predicate) : listToJson ps = ps.map toJson := by
  induction ps with
  | nil => rfl
  | cons p ps ih => rw [listToJson, List.map_cons, ih]

theorem whole_toJson (p : Predicate) : p.toJson.Whole := by
  induction p using treeInduction with
  | comparison op field value => exact .object (by simp [Json.Whole.string])
  | logical op children ih =>
    have hchildren : (Json.array (listToJson children)).Whole := by
      refine .array fun v hv => ?_
      rw [listToJson_eq] at hv
      obtain ⟨c, hc, rfl⟩ := List.mem_map.1 hv
      exact ih c hc
    exact .object (by simp [Json.Whole.string, hchildren])

end Predicate

theorem Query.whole_toJson {q : Query} (h : q.limit < Nat.pow 2 64) : q.toJson.Whole := by
  have hfilters : (Json.array (Predicate.listToJson q.filters)).Whole := by
    refine .array fun v hv => ?_
    rw [Predicate.listToJson_eq] at hv
    obtain ⟨c, -, rfl⟩ := List.mem_map.1 hv
    exact c.whole_toJson
  exact .object (by simp [Json.Whole.string, Json.whole_ofStrings, Json.Whole.number h, hfilters])

/-! ## Reading arrangements -/

namespace Predicate

theorem listOfJson?_of_rearranged {child : Bool} {ps : List Predicate}
    (h : ∀ p ∈ ps, ∀ w, Json.Rearranged p.toJson w → ofJson? child w = some p) {ws : List Json}
    (hw : List.Forall₂ Json.Rearranged (listToJson ps) ws) : listOfJson? child ws = some ps := by
  induction ps generalizing ws with
  | nil => cases hw; rw [listOfJson?]
  | cons p ps ih =>
    obtain ⟨hp, hps⟩ := List.forall_mem_cons.1 h
    rw [listToJson] at hw
    cases hw with
    | @cons _ w _ ws hr hrs =>
      rw [listOfJson?, hp w hr, ih hps hrs]
      rfl

/-- **Predicates**: every arrangement of a predicate's JSON stands for it. -/
theorem ofJson?_of_rearranged (p : Predicate) :
    ∀ child w, Json.Rearranged p.toJson w → ofJson? child w = some p := by
  induction p using treeInduction with
  | comparison op field value =>
    intro child w hw
    obtain ⟨fields, rfl, hfields⟩ := Json.field?_of_rearranged (by simp) hw
    simp only [List.forall_mem_cons] at hfields
    obtain ⟨⟨k, hk, hkr⟩, ⟨o, ho, hor⟩, ⟨f, hf, hfr⟩, ⟨v, hv, hvr⟩, -⟩ := hfields
    cases hkr.eq_of_depth_eq_zero rfl
    cases hor.eq_of_depth_eq_zero rfl
    cases hfr.eq_of_depth_eq_zero rfl
    cases hvr.eq_of_depth_eq_zero rfl
    simp [ofJson?, hk, ho, hf, hv, Kind.ofJson?, comparisonOf?, Json.choice?, Json.string?]
  | logical op children ih =>
    intro child w hw
    obtain ⟨fields, rfl, hfields⟩ := Json.field?_of_rearranged (by simp) hw
    simp only [List.forall_mem_cons] at hfields
    obtain ⟨⟨k, hk, hkr⟩, ⟨o, ho, hor⟩, ⟨c, hc, hcr⟩, -⟩ := hfields
    cases hkr.eq_of_depth_eq_zero rfl
    cases hor.eq_of_depth_eq_zero rfl
    obtain ⟨ws, rfl, hws⟩ := Json.rearranged_array hcr
    have hread := listOfJson?_of_rearranged (fun p hp => ih p hp true) hws
    simp only [ofJson?, hk, Kind.ofJson?, Option.bind_some]
    split
    · next hop hchildren =>
      rw [ho] at hop
      rw [hc] at hchildren
      cases hop
      cases hchildren
      simp [Json.choice?, hread]
    · next hnone => exact absurd hc (hnone _ _ ho)

end Predicate

namespace Query

/-- **Queries**: every arrangement of a query's JSON stands for it. -/
theorem ofJson?_of_rearranged {q : Query} (h : q.limit < Nat.pow 2 64) {w : Json}
    (hw : Json.Rearranged q.toJson w) : ofJson? w = some q := by
  obtain ⟨fields, rfl, hfields⟩ := Json.field?_of_rearranged (by simp) hw
  simp only [List.forall_mem_cons] at hfields
  obtain ⟨⟨s, hs, hsr⟩, ⟨t, ht, htr⟩, ⟨c, hc, hcr⟩, ⟨l, hl, hlr⟩, ⟨f, hf, hfr⟩, -⟩ := hfields
  cases hsr.eq_of_depth_eq_zero rfl
  cases htr.eq_of_depth_eq_zero rfl
  cases Json.ofStrings_of_rearranged hcr
  cases hlr.eq_of_depth_eq_zero rfl
  obtain ⟨ws, rfl, hws⟩ := Json.rearranged_array hfr
  have hfilters := Predicate.listOfJson?_of_rearranged
    (fun p _ w => p.ofJson?_of_rearranged false w) hws
  simp [ofJson?, hs, ht, hc, hl, hf, ofValues?, Json.string?, Json.strings?_ofStrings,
    Json.nat64?_ofNat h, hfilters]

end Query

/-! ## Texts -/

theorem Json.document?_of_rearranged (wanted : String → Bool) {fields : List (String × Json)}
    (h : (object fields).Whole) (hd : (object fields).depth ≤ maxDepth) {w : Json}
    (hw : Rearranged (.object fields) w) : document? wanted w.text = some w := by
  obtain ⟨hwhole, hdepth⟩ := h.of_rearranged w hw
  cases hw with
  | scalar hd => simp [depth] at hd
  | @object _ _ _ written =>
    cases hwhole with
    | object hwritten =>
      have hle : depthOfFields written ≤ maxDepth - 1 :=
        Nat.le_sub_one_of_lt (Nat.le_trans hdepth hd)
      rw [Json.document?_object wanted hwritten, if_pos]
      exact fun f hf _ => Json.depthOfFields_le_iff.1 hle f hf

theorem Predicate.decode?_of_rearranged {p : Predicate} (hd : p.toJson.depth ≤ Json.maxDepth)
    {w : Json} (hw : Json.Rearranged p.toJson w) : decode? w.text = some p := by
  obtain ⟨fields, hfields⟩ : ∃ fields, p.toJson = .object fields := by cases p <;> exact ⟨_, rfl⟩
  have hwhole := p.whole_toJson
  have hread := p.ofJson?_of_rearranged false w hw
  rw [hfields] at hd hw hwhole
  rw [decode?, Json.document?_of_rearranged _ hwhole hd hw, Option.bind_some, hread]

theorem Query.decode?_of_rearranged {q : Query} (h : q.limit < Nat.pow 2 64)
    (hd : q.toJson.depth ≤ Json.maxDepth) {w : Json} (hw : Json.Rearranged q.toJson w) :
    decode? w.text = some q := by
  have hdoc := Json.document?_of_rearranged fieldNames.contains (q.whole_toJson h) hd hw
  rw [decode?, hdoc, Option.bind_some, ofJson?_of_rearranged h hw]

/-- **What is written is read back**: every query and every predicate whose JSON nests at most 127
    arrays and objects deep is read back from it, and from every other arrangement of it. -/
theorem decode_encode :
    (∀ q : Query, q.limit < Nat.pow 2 64 → q.toJson.depth ≤ 127 →
      Query.decode? q.json = some q ∧
        ∀ w, Json.Rearranged q.toJson w → Query.decode? w.text = some q) ∧
    (∀ p : Predicate, p.toJson.depth ≤ 127 →
      Predicate.decode? p.toJson.text = some p ∧
        ∀ w, Json.Rearranged p.toJson w → Predicate.decode? w.text = some p) := by
  constructor
  · intro q hlimit hdepth
    have hread := fun w => Query.decode?_of_rearranged (w := w) hlimit hdepth
    exact ⟨hread _ (q.whole_toJson hlimit).rearranged_refl, hread⟩
  · intro p hdepth
    have hread := fun w => p.decode?_of_rearranged (w := w) hdepth
    exact ⟨hread _ p.whole_toJson.rearranged_refl, hread⟩

/-- A query with empty lists and texts, escapes and the greatest limit. -/
def Query.unusual : Query where
  source := "a\"b\\"
  table := "\x00\n\u2028😀"
  columns := ["", "π\t"]
  limit := Nat.pow 2 64 - 1
  filters := [.or [.and [], .found "" "^\\w"]]

/-- The same with every object turned around, so that `kind` comes last, and with fields that no
    reader knows in front. -/
def Query.unusualArranged : Json :=
  .object [("kind", .string "query"),
    ("filters", .array [.object [("note", .string "\\"), ("children", .array
        [.object [("children", .array []), ("op", .string "and"), ("kind", .string "logical")],
          (Predicate.found "" "^\\w").toJson]),
      ("op", .string "or"), ("kind", .string "logical")]]),
    ("limit", .ofNat (Nat.pow 2 64 - 1)), ("columns", .ofStrings ["", "π\t"]),
    ("table", .string "\x00\n\u2028😀"), ("source_name", .string "a\"b\\")]

theorem Query.unusual_rearranged : Json.Rearranged unusual.toJson unusualArranged := by
  have hand : Json.Rearranged (Predicate.and []).toJson
      (.object [("children", .array []), ("op", .string "and"), ("kind", .string "logical")]) :=
    .reversed [("kind", .string "logical"), ("op", .string "and"), ("children", .array [])] []
      (.cons (.scalar rfl) (.cons (.scalar rfl) (.cons (.array .nil) .nil))) rfl (by simp)
  have hfound := (Predicate.found "" "^\\w").whole_toJson.rearranged_refl
  have hor : Json.Rearranged (Predicate.or [.and [], .found "" "^\\w"]).toJson _ :=
    .reversed [("kind", .string "logical"), ("op", .string "or"), ("children", .array _)]
      [("note", .string "\\")]
      (.cons (.scalar rfl) (.cons (.scalar rfl) (.cons (.array (.cons hand (.cons hfound .nil)))
        .nil))) rfl (by simp)
  have hcolumns := (Json.whole_ofStrings unusual.columns).rearranged_refl
  exact .reversed [("source_name", .string unusual.source), ("table", .string unusual.table),
      ("columns", .ofStrings unusual.columns), ("limit", .ofNat unusual.limit),
      ("filters", .array _)] [("kind", .string "query")]
    (.cons (.scalar rfl) (.cons (.scalar rfl) (.cons hcolumns (.cons (.scalar rfl)
      (.cons (.array (.cons hor .nil)) .nil))))) rfl (by simp)

theorem decode_encode_unusual :
    (Query.unusual.limit < Nat.pow 2 64 ∧ Query.unusual.toJson.depth ≤ 127 ∧
      Query.decode? Query.unusual.json = some Query.unusual ∧
      Query.decode? Query.unusualArranged.text = some Query.unusual) ∧
    (Predicate.or []).toJson.depth ≤ 127 ∧
      Predicate.decode? (Predicate.or []).toJson.text = some (.or []) := by
  have hlimit : Query.unusual.limit < Nat.pow 2 64 := by decide
  have hdepth : Query.unusual.toJson.depth ≤ 127 := by decide
  have hempty : (Predicate.or []).toJson.depth ≤ 127 := by decide
  obtain ⟨hread, harranged⟩ := decode_encode.1 Query.unusual hlimit hdepth
  exact ⟨⟨hlimit, hdepth, hread, harranged _ Query.unusual_rearranged⟩, hempty,
    (decode_encode.2 (.or []) hempty).1⟩

end FederatedQuery
