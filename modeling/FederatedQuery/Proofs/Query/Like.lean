/-
  What a wildcard pattern finds.

  * `Like.Covers`: the meaning of wildcard patterns: the pieces between the wildcards in order, letter
    case aside, with gaps between them;
  * `read?_toPattern`: the regular expression for a wildcard pattern is read as `Like.form`, piece by
    piece;
  * `occurs_form`: it is found in the texts that the wildcard pattern covers, as long as no gap holds
    a line feed;
  * `fits_form`: it is not too large, unless the wildcard pattern is very long;
  * `evaluate_like`: what the comparison says of a row.
-/
import FederatedQuery.Proofs.Pattern.Form
import FederatedQuery.Proofs.Pattern.Reader
import FederatedQuery.Proofs.Pattern.Search
import FederatedQuery.Proofs.Predicate.Filtering

namespace FederatedQuery

namespace Like

open CharReader (bare)

/-! ## Meaning -/

/-- A text is made of pieces in order, letter case aside, with gaps of `free` characters between
    them. -/
inductive Covers (free : Char → Prop) : List (List Char) → List Char → Prop
  | last {piece part : List Char} : part.map Text.fold = piece.map Text.fold →
      Covers free [piece] part
  | gap {piece part gap rest : List Char} {pieces : List (List Char)} :
      part.map Text.fold = piece.map Text.fold → (∀ c ∈ gap, free c) → Covers free pieces rest →
      Covers free (piece :: pieces) (part ++ gap ++ rest)

/-- The pieces of a wildcard pattern: what stands between the wildcards. -/
def pieces (like : String) : List (List Char) := like.toList.splitOn '%'

/-- The same, character by character. -/
def CoversChars (free : Char → Prop) : List Char → List Char → Prop
  | [], text => text = []
  | c :: like, text =>
    if c = '%' then ∃ gap rest, text = gap ++ rest ∧ (∀ x ∈ gap, free x) ∧ CoversChars free like rest
    else ∃ x rest, text = x :: rest ∧ Text.fold x = Text.fold c ∧ CoversChars free like rest

variable {free : Char → Prop}

theorem not_covers_nil {text : List Char} : ¬ Covers free [] text := nofun

theorem covers_last {piece text : List Char} :
    Covers free [piece] text ↔ text.map Text.fold = piece.map Text.fold := by
  constructor
  · intro h
    cases h with
    | last hpart => exact hpart
    | gap _ _ hrest => exact absurd hrest not_covers_nil
  · exact .last

theorem covers_wildcard {pieces : List (List Char)} (hne : pieces ≠ []) {text : List Char} :
    Covers free ([] :: pieces) text ↔
      ∃ gap rest, text = gap ++ rest ∧ (∀ x ∈ gap, free x) ∧ Covers free pieces rest := by
  constructor
  · intro h
    cases h with
    | last => exact absurd rfl hne
    | @gap _ part gap rest _ hpart hgap hrest =>
      obtain rfl : part = [] := by simpa using hpart
      exact ⟨gap, rest, rfl, hgap, hrest⟩
  · rintro ⟨gap, rest, rfl, hgap, hrest⟩
    exact @Covers.gap _ [] [] gap rest _ rfl hgap hrest

theorem covers_character {c : Char} {piece : List Char} {pieces : List (List Char)}
    {text : List Char} :
    Covers free ((c :: piece) :: pieces) text ↔ ∃ x rest, text = x :: rest ∧
      Text.fold x = Text.fold c ∧ Covers free (piece :: pieces) rest := by
  constructor
  · intro h
    cases h with
    | last hpart =>
      obtain ⟨x, part, rfl, hx, hpart⟩ := List.map_eq_cons_iff.1 hpart
      exact ⟨x, part, rfl, hx, .last hpart⟩
    | gap hpart hgap hrest =>
      obtain ⟨x, part, rfl, hx, hpart⟩ := List.map_eq_cons_iff.1 hpart
      exact ⟨x, _, rfl, hx, .gap hpart hgap hrest⟩
  · rintro ⟨x, rest, rfl, hx, h⟩
    cases h with
    | last hpart => exact .last (by rw [List.map_cons, List.map_cons, hx, hpart])
    | @gap _ part gap rest _ hpart hgap hrest =>
      have hpart' : (x :: part).map Text.fold = (c :: piece).map Text.fold := by
        rw [List.map_cons, List.map_cons, hx, hpart]
      exact .gap hpart' hgap hrest

theorem covers_iff_chars (like text : List Char) :
    Covers free (like.splitOn '%') text ↔ CoversChars free like text := by
  induction like generalizing text with
  | nil =>
    rw [CoversChars, List.splitOn_nil, covers_last, List.map_nil, List.map_eq_nil_iff]
  | cons c like ih =>
    rw [List.splitOn_cons_eq_if_modifyHead, CoversChars]
    by_cases hc : c = '%'
    · simp only [hc, beq_self_eq_true, if_true, covers_wildcard (List.splitOn_ne_nil _ _), ih]
    · obtain ⟨first, others, he⟩ := List.exists_cons_of_ne_nil (List.splitOn_ne_nil '%' like)
      simp only [hc, beq_iff_eq, if_false, he, List.modifyHead_cons, covers_character, ← ih]

/-! ## Reading the regular expression -/

/-- How a character of a wildcard pattern is spelled in the regular expression. -/
def spelling (c : Char) : List Char := if c = '%' then ['.', '*'] else escape [c]

theorem spelling_cases (c : Char) :
    (c = '%' ∧ spelling c = ['.', '*']) ∨ (c ≠ '%' ∧ c ∈ special ∧ spelling c = ['\\', c]) ∨
      (c ≠ '%' ∧ c ∉ special ∧ spelling c = [c]) := by
  by_cases hc : c = '%'
  · exact .inl ⟨hc, if_pos hc⟩
  · by_cases hs : c ∈ special <;> simp [spelling, escape, hc, hs]

theorem intercalate_escape (like : List Char) :
    ['.', '*'].intercalate ((like.splitOn '%').map escape) = like.flatMap spelling := by
  induction like with
  | nil => rfl
  | cons c like ih =>
    obtain ⟨first, others, he⟩ := List.exists_cons_of_ne_nil (List.splitOn_ne_nil '%' like)
    rw [List.splitOn_cons_eq_if_modifyHead, List.flatMap_cons, ← ih, he, spelling]
    by_cases hc : c = '%'
    · simp [hc, escape, List.intercalate]
    · have hescape : escape (c :: first) = escape [c] ++ escape first := by simp [escape]
      cases others <;> simp [hc, hescape, List.intercalate]

theorem toPatternChars_eq (like : List Char) :
    toPatternChars like = '^' :: (like.flatMap spelling ++ ['$']) := by
  rw [toPatternChars, intercalate_escape]

/-- The class of the characters that a wildcard stands for. -/
def gapClass : CharClass := .complement (.letter '\n')

/-- What a character of a wildcard pattern is read as. -/
def piece (c : Char) : Piece :=
  if c = '%' then { form := .repeated ⟨0, none, false⟩ (.one gapClass), depth := 1 }
  else { form := .one (.variants c) }

/-- What the whole wildcard pattern is read as. -/
def readPieces (like : String) : List Piece :=
  { form := .boundary .textStart } ::
    (like.toList.map piece ++ [{ form := .boundary .textEnd }])

/-- The form of the regular expression for a wildcard pattern. -/
def form (like : String) : Form := .catAll ((readPieces like).map Piece.form)

variable {nested : PatternFlags → List String → CharReader (Piece × List String)}

theorem head?_spelling (like : List Char) : (like.flatMap spelling ++ ['$']).head? ≠ some '?' := by
  cases like with
  | nil => simp
  | cons c like =>
    rw [List.flatMap_cons]
    rcases spelling_cases c with ⟨-, he⟩ | ⟨-, -, he⟩ | ⟨-, hs, he⟩
    · simp [he]
    · simp [he]
    · have hne : c ≠ '?' := by rintro rfl; exact hs (by decide)
      simpa [he] using hne

/-- A repetition is what it is unless a question mark follows. -/
theorem repetition?_star {rest : List Char} (hr : rest.head? ≠ some '?') :
    PatternReader.repetition? {} '*' rest = some (⟨0, none, false⟩, rest) := by
  have hpreferred : PatternReader.preferred {} 0 none rest = (⟨0, none, false⟩, rest) := by
    unfold PatternReader.preferred
    split
    · next after => exact absurd rfl hr
    · rfl
  exact congrArg some hpreferred

/-- A character of a wildcard pattern is read as one piece. -/
theorem bare_body_character (c : Char) {rest : List Char} (hr : rest.head? ≠ some '?') {b : Body}
    (hf : b.flags = {}) {bound : Nat} (h : (spelling c ++ rest).length ≤ bound)
    (h' : rest.length ≤ bound) :
    bare (PatternReader.body nested b (spelling c ++ rest) bound h) =
      bare (PatternReader.body nested (b.add (piece c)) rest bound h') := by
  have hverbose : b.flags.verbose = false := by rw [hf]
  rcases spelling_cases c with ⟨rfl, he⟩ | ⟨hc, hs, he⟩ | ⟨hc, hs, he⟩
  · have hdot : PatternReader.atom? b.flags ('.' :: '*' :: rest) =
        some (.one gapClass, '*' :: rest) := by rw [hf]; rfl
    have hflags : (b.add { form := .one gapClass }).flags = {} := hf
    have hstar : PatternReader.repetition? (b.add { form := .one gapClass }).flags '*' rest =
        some (⟨0, none, false⟩, rest) := by rw [hflags, repetition?_star hr]
    have hrepeat : (b.add { form := .one gapClass }).repeat? ⟨0, none, false⟩ =
        some (b.add (piece '%')) := rfl
    simp only [he, List.cons_append, List.nil_append] at h ⊢
    refine (PatternReader.bare_body_atom hverbose (by decide) hdot h (Nat.le_of_succ_le h)).trans ?_
    exact PatternReader.bare_body_repeat (by exact hverbose) rfl hstar hrepeat _ h'
  · have hatom : PatternReader.atom? b.flags ('\\' :: c :: rest) = some (.one (.variants c), rest) := by
      rw [hf]
      exact PatternReader.atom?_special {} hs rest
    simp only [he, List.cons_append, List.nil_append] at h ⊢
    rw [piece, if_neg hc]
    exact PatternReader.bare_body_atom hverbose (by decide) hatom h h'
  · have hatom : PatternReader.atom? b.flags (c :: rest) = some (.one (.variants c), rest) := by
      rw [hf]
      exact PatternReader.atom?_plain {} hs rest
    simp only [he, List.cons_append, List.nil_append] at h ⊢
    rw [piece, if_neg hc]
    exact PatternReader.bare_body_atom hverbose (PatternReader.not_mem_structural hs) hatom h h'

/-- The characters of a wildcard pattern are read one by one. -/
theorem bare_body_spelling (like : List Char) {b : Body} (hf : b.flags = {}) {bound : Nat}
    (h : (like.flatMap spelling ++ ['$']).length ≤ bound) :
    bare (PatternReader.body nested b (like.flatMap spelling ++ ['$']) bound h) =
      some ({ b with
        pieces := { form := .boundary .textEnd } :: ((like.map piece).reverse ++ b.pieces) }, []) := by
  induction like generalizing b with
  | nil =>
    have hverbose : b.flags.verbose = false := by rw [hf]
    have hatom : PatternReader.atom? b.flags ['$'] = some (.boundary .textEnd, []) := by rw [hf]; rfl
    exact (PatternReader.bare_body_atom hverbose (by decide) hatom h (Nat.zero_le _)).trans
      (PatternReader.bare_body_nil (by exact hverbose) _)
  | cons c like ih =>
    have hchars : (c :: like).flatMap spelling ++ ['$'] =
        spelling c ++ (like.flatMap spelling ++ ['$']) := by simp
    simp only [hchars] at h ⊢
    have hle : (like.flatMap spelling ++ ['$']).length ≤ bound := by
      rw [List.length_append] at h
      exact Nat.le_trans (Nat.le_add_left ..) h
    have hadd : (b.add (piece c)).flags = {} := hf
    rw [bare_body_character c (head?_spelling like) hf h hle, ih hadd]
    simp [Body.add]

theorem foldr_max_le {l : List Nat} {n : Nat} (h : ∀ x ∈ l, x ≤ n) : l.foldr max 0 ≤ n := by
  induction l with
  | nil => exact Nat.zero_le _
  | cons x l ih =>
    obtain ⟨hx, hl⟩ := List.forall_mem_cons.1 h
    exact Nat.max_le.2 ⟨hx, ih hl⟩

/-- All pieces are read as one branch, which nests no deeper than two levels. -/
theorem sequence_readPieces (like : String) :
    (Piece.sequence (readPieces like)).form = form like ∧
      (Piece.sequence (readPieces like)).depth ≤ 2 := by
  have hdepth : ∀ d ∈ (readPieces like).map Piece.depth, d ≤ 1 := by
    intro d hd
    obtain ⟨p, hp, rfl⟩ := List.mem_map.1 hd
    simp only [readPieces, List.mem_cons, List.mem_append, List.mem_map, List.not_mem_nil,
      or_false] at hp
    rcases hp with rfl | ⟨c, -, rfl⟩ | rfl
    · exact Nat.zero_le _
    · unfold piece
      split <;> simp
    · exact Nat.zero_le _
  obtain ⟨p, ps, hps⟩ : ∃ p ps, readPieces like = { form := .boundary .textStart } :: p :: ps := by
    rw [readPieces]
    cases like.toList <;> exact ⟨_, _, rfl⟩
  rw [hps] at hdepth
  rw [form, hps]
  exact ⟨rfl, Nat.succ_le_succ (foldr_max_le hdepth)⟩

/-- **Wildcard patterns** are read as they are meant, piece by piece. -/
theorem read?_toPattern (like : String) : Form.read? (toPattern like) = some (form like) := by
  have hchars : (toPattern like).toList = '^' :: (like.toList.flatMap spelling ++ ['$']) := by
    rw [toPattern, String.toList_ofList, toPatternChars_eq]
  have hread (bound : Nat) (h : (toPattern like).toList.length ≤ bound) :
      bare (PatternReader.body (PatternReader.group maxNesting) { flags := {}, names := [] }
        (toPattern like).toList bound h) =
          some ({ flags := {}, names := [], pieces := (readPieces like).reverse }, []) := by
    have hstart : PatternReader.atom? {} ('^' :: (like.toList.flatMap spelling ++ ['$'])) =
        some (.boundary .textStart, like.toList.flatMap spelling ++ ['$']) := rfl
    simp only [hchars] at h ⊢
    rw [PatternReader.bare_body_atom rfl (by decide) hstart h (Nat.le_of_succ_le h),
      bare_body_spelling like.toList rfl]
    simp [readPieces, Body.add]
  obtain ⟨hle, hbody⟩ := CharReader.bare_eq_some.1 (hread _ (Nat.le_refl _))
  obtain ⟨hform, hdepth⟩ := sequence_readPieces like
  have hpiece : Body.piece { flags := {}, names := [], pieces := (readPieces like).reverse } =
      Piece.sequence (readPieces like) := by
    rw [Body.piece, Body.endBranch, List.reverse_reverse]
    rfl
  have hnesting : (Piece.sequence (readPieces like)).depth ≤ maxNesting :=
    Nat.le_trans hdepth (by decide)
  simp only [Form.read?, hbody, hpiece, if_pos hnesting, hform]

/-! ## Finding it -/

/-- The pattern for a character of a wildcard pattern. -/
def piecePattern (c : Char) : Pattern := (piece c).form.pattern

theorem piecePattern_wildcard : piecePattern '%' = .star (.one gapClass) := by decide

theorem piecePattern_of_ne {c : Char} (hc : c ≠ '%') : piecePattern c = .one (.variants c) := by
  rw [piecePattern, piece, if_neg hc, Form.pattern]

theorem contains_gapClass {x : Char} : gapClass.contains x = true ↔ x ≠ '\n' := by
  have hletter : (CharClass.letter '\n').contains x = true ↔ x = '\n' := by
    rw [CharClass.letter, CharClass.contains, Bool.and_eq_true, decide_eq_true_iff,
      decide_eq_true_iff]
    exact ⟨fun ⟨h, h'⟩ => Char.le_antisymm h' h, fun h => ⟨h ▸ Char.le_refl _, h ▸ Char.le_refl _⟩⟩
  rw [gapClass, CharClass.contains, Bool.not_eq_true', ← Bool.not_eq_true, hletter]

theorem contains_variants {c x : Char} :
    (CharClass.variants c).contains x = true ↔ Text.fold x = Text.fold c := beq_iff_eq

/-- From a place on, the pieces cover the rest of a text as the wildcard pattern does. -/
theorem spansAll_pieces {text : List Char} (like : List Char) {i : Nat} (hi : i ≤ text.length) :
    Pattern.SpansAll text (like.map piecePattern) i text.length ↔
      CoversChars (· ≠ '\n') like (text.drop i) := by
  induction like generalizing i with
  | nil =>
    rw [List.map_nil, Pattern.SpansAll, CoversChars, List.drop_eq_nil_iff]
    exact ⟨Nat.le_of_eq, fun h => Nat.le_antisymm h hi⟩
  | cons c like ih =>
    rw [List.map_cons, Pattern.SpansAll, CoversChars]
    by_cases hc : c = '%'
    · rw [if_pos hc, hc, piecePattern_wildcard]
      constructor
      · rintro ⟨j, hgap, hrest⟩
        have hj : j ≤ text.length := hgap.le_length hi
        obtain ⟨gap, hdrop, -, hfree⟩ := Pattern.spans_star_one.1 hgap
        exact ⟨gap, _, hdrop, fun x hx => contains_gapClass.1 (hfree x hx), (ih hj).1 hrest⟩
      · rintro ⟨gap, rest, hdrop, hfree, hrest⟩
        obtain ⟨hj, rfl⟩ := Pattern.drop_of_drop_eq_append hi hdrop
        have hgap : Pattern.Spans text (.star (.one gapClass)) i (i + gap.length) :=
          Pattern.spans_star_one.2 ⟨gap, hdrop, rfl, fun x hx => contains_gapClass.2 (hfree x hx)⟩
        exact ⟨_, hgap, (ih hj).2 hrest⟩
    · rw [if_neg hc, piecePattern_of_ne hc]
      constructor
      · rintro ⟨j, hone, hrest⟩
        have hj : j ≤ text.length := hone.le_length hi
        obtain ⟨⟨x, hx, hfold⟩, rfl⟩ := Pattern.spans_one.1 hone
        exact ⟨x, _, Pattern.getElem?_eq_some_iff_drop.1 hx, contains_variants.1 hfold,
          (ih hj).1 hrest⟩
      · rintro ⟨x, rest, hdrop, hfold, hrest⟩
        obtain ⟨hj, rfl⟩ := Pattern.drop_of_drop_eq_append hi (w := [x]) hdrop
        have hx : text[i]? = some x := Pattern.getElem?_eq_some_iff_drop.2 hdrop
        exact ⟨_, Pattern.spans_one.2 ⟨⟨x, hx, contains_variants.2 hfold⟩, rfl⟩, (ih hj).2 hrest⟩

/-- The patterns for the parts of a wildcard pattern stand one behind the other, anchored. -/
theorem spans_form {like : String} {text : List Char} {i k : Nat} :
    (form like).pattern.Spans text i k ↔ Pattern.SpansAll text
      (.boundary .textStart :: (like.toList.map piecePattern ++ [.boundary .textEnd])) i k := by
  rw [form, Form.spans_catAll, readPieces, List.map_cons, List.map_cons, List.map_append,
    List.map_append, List.map_map, List.map_map]
  rfl

/-- The regular expression for a wildcard pattern **is found** in the texts that the wildcard pattern
    covers without line feeds in the gaps. -/
theorem occurs_form {like : String} {text : List Char} :
    (form like).pattern.Occurs text ↔ Covers (· ≠ '\n') (pieces like) text := by
  have hwhole : Covers (· ≠ '\n') (pieces like) text ↔
      Pattern.SpansAll text (like.toList.map piecePattern) 0 text.length := by
    rw [spansAll_pieces _ (Nat.zero_le _), pieces, covers_iff_chars, List.drop_zero]
  rw [hwhole, Pattern.Occurs]
  simp only [spans_form, Pattern.SpansAll, Pattern.spansAll_append, Pattern.spans_boundary,
    Pattern.holds_textEnd]
  constructor
  · rintro ⟨i, _, hi, _, ⟨hstart, rfl⟩, j, hspans, _, ⟨hend, rfl⟩, rfl⟩
    obtain rfl := (Pattern.holds_textStart hi).1 hstart
    have hwhole := Nat.le_antisymm (hspans.le_length hi) hend
    rwa [hwhole] at hspans
  · intro hspans
    exact ⟨0, text.length, Nat.zero_le _, 0, ⟨(Pattern.holds_textStart (Nat.zero_le _)).2 rfl, rfl⟩,
      text.length, hspans, text.length, ⟨Nat.le_refl _, rfl⟩, rfl⟩

/-! ## Size -/

theorem roughBytes_piece_le (c : Char) : (piece c).form.roughBytes + 128 ≤ 13696 := by
  have hrange : Form.rangeBytes = 3360 := rfl
  unfold piece
  split
  · have hgap : gapClass.maxRanges = 2 := rfl
    simp only [Form.roughBytes, hgap, hrange, Option.getD_none, Nat.max_self]
    omega
  · simp only [Form.roughBytes, CharClass.maxRanges, hrange]
    omega

/-- Wildcard patterns of some hundred characters are not too large. -/
theorem fits_form {like : String} (h : like.toList.length ≤ 760) : (form like).fits = true := by
  have hpieces : ∀ f ∈ (readPieces like).map Piece.form, f.roughBytes + 128 ≤ 13696 := by
    intro f hf
    simp only [readPieces, List.map_cons, List.map_append, List.map_map, List.map_nil,
      List.mem_cons, List.mem_append, List.mem_map, List.not_mem_nil, or_false] at hf
    rcases hf with rfl | ⟨c, -, rfl⟩ | rfl
    · decide
    · exact roughBytes_piece_le c
    · decide
  have hlength : ((readPieces like).map Piece.form).length = like.toList.length + 2 := by
    simp [readPieces]
  have hsequence : (form like).roughBytes + 128 ≤ (like.toList.length + 2) * 13696 := by
    rw [form, ← hlength]
    exact Form.roughBytes_catAll_le (by simp [readPieces]) hpieces
  have hlimit : Room.limit = 10485760 := rfl
  have hrough : (form like).roughBytes + 256 ≤ Room.limit := by omega
  rw [Form.fits, if_pos hrough]

end Like

/-! ## Comparing -/

namespace Predicate

/-- A regular expression is found in the fields in which its pattern occurs, if it has one and that
    is not too large. -/
theorem evaluate_found {field text : String} {row : Row} :
    (Predicate.found field text).evaluate row = true ↔
      ∃ f, Form.read? text = some f ∧ f.fits = true ∧ f.pattern.Occurs (row.value field).toList := by
  rw [evaluate_eq_holds, found, holds, compares, Option.any_eq_true]
  simp only [Pattern.isIn_iff_occurs, Pattern.read?, Option.bind_eq_some_iff,
    Option.ite_none_right_eq_some, Option.some.injEq]
  constructor
  · rintro ⟨_, ⟨f, hread, hfits, rfl⟩, hoccurs⟩
    exact ⟨f, hread, hfits, hoccurs⟩
  · rintro ⟨f, hread, hfits, hoccurs⟩
    exact ⟨_, ⟨f, hread, hfits, rfl⟩, hoccurs⟩

theorem evaluate_like_iff {field pattern : String} {row : Row} :
    (Predicate.like field pattern).evaluate row = true ↔ (Like.form pattern).fits = true ∧
      Like.Covers (· ≠ '\n') (Like.pieces pattern) (row.value field).toList := by
  rw [like, evaluate_found, Like.read?_toPattern]
  simp only [Option.some.injEq, exists_eq_left', Like.occurs_form]

/-- **Wildcard patterns** that are not too large, as those of some hundred characters never are, match
    the fields that they cover, letter case aside, with no line feed in the part for a wildcard. -/
theorem evaluate_like (field pattern : String) (row : Row) :
    ∃ f, Form.read? (Like.toPattern pattern) = some f ∧
      (pattern.toList.length ≤ 760 → f.fits = true) ∧
      ((Predicate.like field pattern).evaluate row = true ↔
        f.fits = true ∧
          Like.Covers (· ≠ '\n') (Like.pieces pattern) (row.value field).toList) :=
  ⟨Like.form pattern, Like.read?_toPattern pattern, Like.fits_form, evaluate_like_iff⟩

/-- The first sign that fits is not the one to stop at, and a field that a row lacks is empty. -/
theorem evaluate_like_signs :
    let row : Row := .ofPairs [("n", "+a+C")]
    (Predicate.like "n" "%+c").evaluate row = true ∧
      (Predicate.like "m" "%+c").evaluate row = false := by
  intro row
  have hpieces : Like.pieces "%+c" = [[], ['+', 'c']] := by decide
  constructor
  · obtain ⟨f, -, hfits, h⟩ := evaluate_like "n" "%+c" row
    have hvalue : (row.value "n").toList = ['+', 'a'] ++ ['+', 'C'] := by decide
    refine h.2 ⟨hfits (by decide), ?_⟩
    rw [hpieces, hvalue, Like.covers_wildcard (by decide)]
    exact ⟨_, _, rfl, by simp, .last (by decide +kernel)⟩
  · obtain ⟨f, -, -, h⟩ := evaluate_like "m" "%+c" row
    have hvalue : (row.value "m").toList = [] := by decide
    rw [← Bool.not_eq_true, h, hpieces, hvalue, Like.covers_wildcard (by decide)]
    rintro ⟨-, gap, rest, htext, -, hrest⟩
    obtain ⟨-, rfl⟩ := List.append_eq_nil_iff.1 htext.symm
    cases Like.covers_last.1 hrest

/-- A field of two lines. -/
def twoLines : Row := .ofPairs [("n", "a\nb")]

/-- A wildcard does not stand for both lines. -/
theorem evaluate_like_line_feed :
    (∃ f, Form.read? (Like.toPattern "%") = some f ∧ f.fits = true) ∧
      Like.Covers (fun _ => True) (Like.pieces "%") (twoLines.value "n").toList ∧
      (Predicate.like "n" "%").evaluate twoLines = false := by
  have hpieces : Like.pieces "%" = [[], []] := by decide
  have hvalue : (twoLines.value "n").toList = ['a', '\n', 'b'] := by decide
  refine ⟨⟨_, Like.read?_toPattern _, Like.fits_form (by decide)⟩, ?_, ?_⟩
  · rw [hpieces, hvalue]
    exact @Like.Covers.gap _ [] [] ['a', '\n', 'b'] [] _ rfl (fun _ _ => trivial) (.last rfl)
  · rw [← Bool.not_eq_true, evaluate_like_iff, hpieces, hvalue, Like.covers_wildcard (by decide)]
    rintro ⟨-, gap, rest, htext, hgap, hrest⟩
    obtain rfl : rest = [] := by simpa using Like.covers_last.1 hrest
    rw [List.append_nil] at htext
    exact hgap '\n' (htext ▸ by decide) rfl

end Predicate

end FederatedQuery
