/-
  Filters that differ in the case of letters.

  * `Like.fits_form_eq`, `Like.CoversChars.of_same`: wildcard patterns with the same letters are of
    the same size and cover the same texts;
  * `Row.SameLetters`: rows with the same fields, whose texts have the same letters;
  * `Predicate.Alike.evaluate_eq`: predicates that are alike say the same of such rows;
  * `keptPositions`: at which positions filters keep rows, and `filterRows_eq_keptPositions`;
  * `Statement.parse_sameLetters`: neither the case of the letters in a statement nor that in the rows
    changes which rows are kept.
-/
import FederatedQuery.Proofs.Query.Like
import FederatedQuery.Proofs.Statement.LetterCase
import Mathlib.Control.Monad.Basic

namespace FederatedQuery

open Text (IgnoresCase SameLetters)

/-! ## Wildcard patterns -/

namespace Like

theorem ignoresCase_measures_piece : IgnoresCase fun c => (piece c).form.measures := by
  intro c
  have hupper : c.toUpper.toUpper = c.toUpper := Text.ignoresCase_toUpper c
  have hwild : c.toUpper = '%' ↔ c = '%' := Text.eq_iff_of_not_alpha (by decide) hupper
  by_cases hc : c = '%'
  · have hsame : c.toUpper = c := (hwild.2 hc).trans hc.symm
    simp only [hsame]
  · have hvariants : Text.caseVariants c.toUpper = Text.caseVariants c := by
      rw [Text.caseVariants, Text.caseVariants, Text.ignoresCase_fold c]
    have hpoints : (CharClass.variants c.toUpper).codePoints = (CharClass.variants c).codePoints := by
      rw [CharClass.codePoints, CharClass.codePoints, hvariants]
    simp only [piece, if_neg hc, if_neg (mt hwild.1 hc), Form.measures, Form.branches, hpoints]
    rfl

/-- Patterns with the same letters are of the same size. -/
theorem fits_form_eq {like like' : String} (h : Text.Alike like like') :
    (form like).fits = (form like').fits := by
  have hpieces := h.map_eq ignoresCase_measures_piece
  refine Form.fits_catAll_eq ?_
  simp only [readPieces, List.map_cons, List.map_append, List.map_map]
  exact congrArg (fun middle => _ :: (middle ++ _)) hpieces

/-- Patterns with the same letters cover the texts with the same letters. -/
theorem CoversChars.of_same {free : Char → Prop} (hfree : IgnoresCase free)
    {like like' text text' : List Char} (hlike : SameLetters like like')
    (htext : SameLetters text text') (h : CoversChars free like text) :
    CoversChars free like' text' := by
  induction like generalizing like' text text' with
  | nil =>
    obtain rfl := SameLetters.nil_iff.1 hlike
    rw [CoversChars] at h ⊢
    subst h
    exact SameLetters.nil_iff.1 htext
  | cons c like ih =>
    obtain ⟨d, like', rfl, hc, hlike⟩ := SameLetters.cons_iff.1 hlike
    have hwild : c = '%' ↔ d = '%' := Text.eq_iff_of_not_alpha (by decide) hc
    rw [CoversChars] at h ⊢
    by_cases hp : c = '%'
    · rw [if_pos hp] at h
      rw [if_pos (hwild.1 hp)]
      obtain ⟨gap, rest, rfl, hgap, hrest⟩ := h
      obtain ⟨gap', rest', rfl, hsame, hrest'⟩ := SameLetters.append_iff.1 htext
      exact ⟨gap', rest', rfl, (hsame.forall_mem_iff hfree).1 hgap, ih hlike hrest' hrest⟩
    · rw [if_neg hp] at h
      rw [if_neg (mt hwild.2 hp)]
      obtain ⟨x, rest, rfl, hx, hrest⟩ := h
      obtain ⟨y, rest', rfl, hxy, hrest'⟩ := SameLetters.cons_iff.1 htext
      have hy : Text.fold y = Text.fold d := by
        rw [← Text.ignoresCase_fold.eq hxy, hx, Text.ignoresCase_fold.eq hc]
      exact ⟨y, rest', rfl, hy, ih hlike hrest' hrest⟩

theorem ignoresCase_ne_lineFeed : IgnoresCase (· ≠ '\n') := by
  intro c
  have hupper : c.toUpper.toUpper = c.toUpper := Text.ignoresCase_toUpper c
  exact propext (not_congr (Text.eq_iff_of_not_alpha (by decide) hupper))

theorem covers_iff_of_same {like like' : String} (hlike : Text.Alike like like')
    {text text' : List Char} (htext : SameLetters text text') :
    Covers (· ≠ '\n') (pieces like) text ↔ Covers (· ≠ '\n') (pieces like') text' := by
  rw [pieces, pieces, covers_iff_chars, covers_iff_chars]
  exact ⟨.of_same ignoresCase_ne_lineFeed hlike htext,
    .of_same ignoresCase_ne_lineFeed hlike.symm htext.symm⟩

end Like

/-! ## Rows -/

/-- Two rows with the same fields, whose texts only differ in the case of ASCII letters. -/
def Row.SameLetters (row row' : Row) : Prop :=
  ∀ column, Option.Rel Text.Alike (row.get? column) (row'.get? column)

theorem Row.SameLetters.value {row row' : Row} (h : row.SameLetters row') (column : String) :
    Text.Alike (row.value column) (row'.value column) := by
  have hcolumn := h column
  rw [Row.value, Row.value]
  generalize row.get? column = field at hcolumn
  generalize row'.get? column = field' at hcolumn
  cases hcolumn with
  | some htext => exact htext
  | none => exact .refl _

/-! ## Predicates -/

namespace Predicate

/-- **Predicates that are alike** say the same of rows with the same letters. -/
theorem Alike.evaluate_eq {p p' : Predicate} (h : p.Alike Text.Alike p') {row row' : Row}
    (hrow : row.SameLetters row') : p'.evaluate row' = p.evaluate row := by
  induction h with
  | @compared op field value value' hop hvalue =>
    have hfield : Text.lowerCase (row'.value field) = Text.lowerCase (row.value field) :=
      (hrow.value field).symm.lowerCase_eq
    rw [evaluate_eq_holds, evaluate_eq_holds, holds, holds]
    cases op with
    | eq | ne => rw [compares, compares, hfield, hvalue.symm.lowerCase_eq]
    -- a pattern in other letters may be another pattern, such as `\S` for `\s`
    | found => exact absurd rfl hop
  | like field hpattern =>
    rw [Bool.eq_iff_iff, evaluate_like_iff, evaluate_like_iff, Like.fits_form_eq hpattern,
      Like.covers_iff_of_same hpattern (hrow.value field)]
  | join op _ _ ihp ihq =>
    simp only [evaluate_eq_holds] at ihp ihq ⊢
    cases op with
    | and => simp only [holds_and, List.all_cons, List.all_nil, ihp, ihq]
    | or => simp only [holds_or, List.any_cons, List.any_nil, ihp, ihq]

end Predicate

/-! ## Positions -/

/-- The positions of the rows for which all predicates hold. -/
def keptPositions (ps : List Predicate) (rows : List Row) : List Nat :=
  rows.findIdxs fun row => ps.all (·.evaluate row)

theorem filter_eq_findIdxs {α : Type} (p : α → Bool) (before rows : List α) :
    rows.filter p = (rows.findIdxs p before.length).filterMap ((before ++ rows)[·]?) := by
  -- positions are counted from the first row of all, so the rows before go along
  induction rows generalizing before with
  | nil => rfl
  | cons row rows ih =>
    have hrest := ih (before ++ [row])
    rw [List.append_assoc, List.length_append] at hrest
    rw [List.filter_cons, List.findIdxs_cons, hrest]
    split
    · simp
    · rfl

/-- Filtering keeps the rows at these positions. -/
theorem filterRows_eq_keptPositions (ps : List Predicate) (rows : List Row) :
    (filterRows ps rows).value = (keptPositions ps rows).filterMap (rows[·]?) := by
  rw [value_filterRows, keptPositions]
  simp only [Predicate.evaluate_eq_holds]
  exact filter_eq_findIdxs _ [] rows

theorem keptPositions_eq {ps ps' : List Predicate} {rows rows' : List Row}
    (hps : List.Forall₂ (Predicate.Alike Text.Alike) ps ps')
    (hrows : List.Forall₂ Row.SameLetters rows rows') :
    keptPositions ps' rows' = keptPositions ps rows := by
  have hall {row row' : Row} (hrow : row.SameLetters row') :
      ps'.all (·.evaluate row') = ps.all (·.evaluate row) := by
    induction hps with
    | nil => rfl
    | cons hp _ ih => rw [List.all_cons, List.all_cons, hp.evaluate_eq hrow, ih]
  rw [keptPositions, keptPositions]
  -- the rows behind the first are counted from its position on
  generalize 0 = first
  induction hrows generalizing first with
  | nil => rfl
  | cons hrow _ ih => rw [List.findIdxs_cons, List.findIdxs_cons, hall hrow, ih]

/-! ## Statements -/

namespace Statement

/-- Texts with the same letters may stand for each other in a statement. -/
theorem resembles_alike : Resembles Text.Alike where
  refl value := .refl _
  ne_empty := by
    intro value value' h hne
    rintro rfl
    exact hne (String.toList_inj.1 (SameLetters.nil_iff.1 h.symm))

/-- **The case of letters** does not matter: a text with the same letters as one that is read is read
    as well, and the query asks for the same rows, whatever the case of the letters in them. -/
theorem parse_sameLetters {text text' : String} (hs : Text.Alike text text')
    {q : Query} (h : (parse text).value = .ok q) :
    ∃ q', (parse text').value = .ok q' ∧ q'.source = q.source ∧ q'.table = q.table ∧
      q'.columns = q.columns ∧ q'.limit = q.limit ∧
      ∀ rows rows' : List Row, List.Forall₂ Row.SameLetters rows rows' →
        keptPositions q'.filters rows' = keptPositions q.filters rows ∧
        (filterRows q.filters rows).value = (keptPositions q.filters rows).filterMap (rows[·]?) ∧
        (filterRows q'.filters rows').value =
          (keptPositions q.filters rows).filterMap (rows'[·]?) := by
  have hletters (v v' : List Char) (hv : SameLetters v v') :
      SameLetters (String.ofList v).toList (String.ofList v').toList := by simpa using hv
  obtain ⟨q', hparse, hq⟩ := parse_alike resembles_alike hletters hs h
  refine ⟨q', hparse, hq.source, hq.table, hq.columns, hq.limit, ?_⟩
  intro rows rows' hrows
  have hkept := keptPositions_eq hq.filters hrows
  refine ⟨hkept, filterRows_eq_keptPositions _ _, ?_⟩
  rw [filterRows_eq_keptPositions, hkept]

/-- A row with nothing but a name. -/
def named (name : String) : Row := .ofPairs [("name", name)]

theorem sameLetters_named {name name' : String} (h : Text.Alike name name') :
    (named name).SameLetters (named name') := by
  intro column
  simp only [named, Dict.ofPairs, List.foldl_cons, List.foldl_nil, Dict.get?_insert]
  split
  · exact .some h
  · exact .none

/-- A statement that asks for the rows of one name. -/
def byName : String := "SELECT * FROM s.t WHERE name = 'Bob'"

theorem parse_byName : (parse byName).value =
    .ok { source := "s", table := "t", columns := [], limit := 0, filters := [.eq "name" "Bob"] } := by
  have htokens : Scan.tokens? byName = .ok [.keyword .select, .star, .keyword .from_, .ident "s.t",
      .keyword .where_, .ident "name", .equals, .literal "Bob"] := by
    decide +kernel
  have hname : Grammar.Qualified (Text.lowerCase "s.t") "s" "t" :=
    ⟨by decide, by decide, by decide, by decide, by decide⟩
  have hcolumn : Text.lowerCase "name" = "name" := by decide
  rw [parse_equality (Scan.tokens?_eq_ok_iff.1 htokens) hname (by decide), hcolumn]

/-- Rows are kept by name, written in capitals or not. -/
theorem parse_sameLetters_byName :
    Text.Alike byName "select * from S.t where NAME = 'bOB'" ∧
      ∃ q', (parse "select * from S.t where NAME = 'bOB'").value = .ok q' ∧ q'.source = "s" ∧
        q'.table = "t" ∧ keptPositions q'.filters [named "Ann", named "bob"] = [1] ∧
        (filterRows q'.filters [named "Ann", named "bob"]).value = [named "bob"] := by
  have hletters : Text.Alike byName "select * from S.t where NAME = 'bOB'" := by
    unfold Text.Alike SameLetters
    decide
  obtain ⟨q', hparse', hsource, htable, -, -, hrows⟩ := parse_sameLetters hletters parse_byName
  have hann : (named "ANN").SameLetters (named "Ann") :=
    sameLetters_named (by unfold Text.Alike SameLetters; decide)
  have hbob : (named "BOB").SameLetters (named "bob") :=
    sameLetters_named (by unfold Text.Alike SameLetters; decide)
  have hkept : keptPositions [.eq "name" "Bob"] [named "ANN", named "BOB"] = [1] := by
    decide
  obtain ⟨hpositions, -, hfiltered⟩ := hrows _ _ (.cons hann (.cons hbob .nil))
  rw [hkept] at hpositions hfiltered
  exact ⟨hletters, q', hparse', hsource, htable, hpositions, hfiltered⟩

end Statement

end FederatedQuery
