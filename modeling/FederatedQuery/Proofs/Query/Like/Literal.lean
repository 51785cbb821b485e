/-
  Patterns without wildcards.

  On ASCII texts case variants and lower-case forms come to the same, so that a wildcard pattern
  without wildcards covers the texts that equal it, letter case aside.  Very long patterns are the
  exception: the regular expression for them is too large, and is found nowhere.

  * `Like.covers_of_no_wildcard`: what a pattern without wildcards covers;
  * `Like.not_fits_form`: a pattern of more than 327680 characters is too large;
  * `Predicate.evaluate_like_of_isAscii`: comparing with a pattern without wildcards, and comparing for
    equality.
-/
import FederatedQuery.Proofs.Query.Like
import FederatedQuery.Proofs.Text.LetterCase

namespace FederatedQuery

/-! ## What a pattern without wildcards covers -/

namespace Like

theorem covers_of_no_wildcard {free : Char → Prop} {pattern : String} (h : '%' ∉ pattern.toList)
    {text : List Char} : Covers free (pieces pattern) text ↔
      text.map Text.fold = pattern.toList.map Text.fold := by
  rw [pieces, List.splitOn_eq_singleton h, covers_last]

/-! ## Size -/

theorem leastStates_piece (c : Char) : (piece c).form.leastStates = 1 := by
  unfold piece
  split <;> rfl

theorem choices_piece (c : Char) : (piece c).form.choices = 0 := by
  unfold piece
  split <;> rfl

/-- A measure that adds up over forms in sequence, and is the same for every character, goes by the
    length of the pattern. -/
theorem measure_form {m : Form → Nat} {each : Nat} (hempty : m .empty = 0)
    (hboundary : ∀ b, m (.boundary b) = 0) (hcat : ∀ f g, m (.cat f g) = m f + m g)
    (hpiece : ∀ c, m (piece c).form = each) (pattern : String) :
    m (form pattern) = pattern.toList.length * each := by
  rw [form, Form.catAll_eq_sum hempty hcat, readPieces]
  simp [hboundary, hpiece, Function.comp_def, List.map_const']

/-- The automaton has a state for every character of the pattern. -/
theorem leastStates_form (pattern : String) : (form pattern).leastStates = pattern.toList.length := by
  rw [measure_form rfl (fun _ => rfl) (fun _ _ => rfl) leastStates_piece, Nat.mul_one]

theorem choices_form (pattern : String) : (form pattern).choices = 0 :=
  measure_form rfl (fun _ => rfl) (fun _ _ => rfl) choices_piece pattern

/-- A pattern of more than some hundred thousand characters is too large. -/
theorem not_fits_form {pattern : String} (h : 327680 < pattern.toList.length) :
    (form pattern).fits = false := by
  refine Form.fits_eq_false_of_limit_lt (choices_form pattern) ?_
  have hlimit : Room.limit = 10485760 := rfl
  have hbytes : Room.stateBytes = 32 := rfl
  rw [leastStates_form, hlimit, hbytes]
  omega

end Like

/-! ## Comparing -/

theorem Row.value_ofPairs_singleton (field text : String) :
    value (.ofPairs [(field, text)]) field = text := by
  rw [value, Dict.ofPairs, List.foldl_cons, List.foldl_nil, Dict.get?_insert, if_pos rfl,
    Option.getD_some]

namespace Predicate

theorem evaluate_eq_iff {field text : String} {row : Row} :
    (Predicate.eq field text).evaluate row = true ↔
      Text.lowerCase (row.value field) = Text.lowerCase text := by
  rw [evaluate_eq_holds, Predicate.eq, holds, compares, beq_iff_eq]

/-- **A pattern without wildcards** says the same of ASCII texts as an equality, unless the regular
    expression for it is too large. -/
theorem evaluate_like_of_isAscii {field pattern : String} {row : Row}
    (hpattern : Text.IsAscii pattern) (hwildcard : '%' ∉ pattern.toList)
    (hrow : ∀ text, row.get? field = some text → Text.IsAscii text) :
    ∃ f, Form.read? (Like.toPattern pattern) = some f ∧
      (pattern.toList.length ≤ 760 → f.fits = true) ∧
      (Predicate.like field pattern).evaluate row =
        (f.fits && (Predicate.eq field pattern).evaluate row) := by
  have hvalue : Text.IsAscii (row.value field) := by
    rw [Row.value]
    cases h : row.get? field with
    | none => exact fun c hc => absurd hc (by simp)
    | some text => exact hrow text h
  refine ⟨Like.form pattern, Like.read?_toPattern pattern, Like.fits_form, ?_⟩
  rw [Bool.eq_iff_iff, Bool.and_eq_true, evaluate_like_iff, evaluate_eq_iff,
    Like.covers_of_no_wildcard hwildcard, Text.lowerCase_eq_iff_of_isAscii hvalue hpattern]

/-- Characters with a meaning of their own in regular expressions, and a line feed at the end. -/
theorem evaluate_like_of_isAscii_line_feed :
    let row : Row := .ofPairs [("f", "(A.*|\\N\n")]
    (Predicate.like "f" "(a.*|\\n\n").evaluate row = true ∧
      (Predicate.like "f" "(a.*|\\n").evaluate row = false := by
  intro row
  have hget : row.get? "f" = some "(A.*|\\N\n" := rfl
  have hrow : ∀ text, row.get? "f" = some text → Text.IsAscii text := by
    intro text h
    obtain rfl := Option.some.inj (hget.symm.trans h)
    decide
  constructor
  · obtain ⟨f, -, hfits, h⟩ :=
      @evaluate_like_of_isAscii "f" "(a.*|\\n\n" row (by decide) (by decide) hrow
    rw [h, hfits (by decide), Bool.true_and]
    decide +kernel
  · obtain ⟨f, -, -, h⟩ :=
      @evaluate_like_of_isAscii "f" "(a.*|\\n" row (by decide) (by decide) hrow
    have hne : (Predicate.eq "f" "(a.*|\\n").evaluate row = false := by decide +kernel
    rw [h, hne, Bool.and_false]

/-- A text of ones. -/
def ones (length : Nat) : String := String.ofList (List.replicate length '1')

theorem eq_of_mem_ones {length : Nat} {c : Char} (h : c ∈ (ones length).toList) : c = '1' := by
  rw [ones, String.toList_ofList] at h
  exact List.eq_of_mem_replicate h

/-- A text that is too long to be looked for, although it equals itself. -/
theorem evaluate_like_long :
    Text.IsAscii (ones 340000) ∧ '%' ∉ (ones 340000).toList ∧
      (Predicate.like "f" (ones 340000)).evaluate (.ofPairs [("f", ones 340000)]) = false ∧
      (Predicate.eq "f" (ones 340000)).evaluate (.ofPairs [("f", ones 340000)]) = true := by
  have hlength : 327680 < (ones 340000).toList.length := by
    rw [ones, String.toList_ofList, List.length_replicate]
    decide
  refine ⟨fun c hc => ?_, fun h => ?_, ?_, ?_⟩
  · rw [eq_of_mem_ones hc]
    decide
  · exact absurd (eq_of_mem_ones h) (by decide)
  · rw [← Bool.not_eq_true, evaluate_like_iff, Like.not_fits_form hlength]
    exact fun h => Bool.false_ne_true h.1
  · rw [evaluate_eq_iff, Row.value_ofPairs_singleton]

end Predicate

end FederatedQuery
