/-
  Wildcard patterns read back.

  Nothing of a wildcard pattern is lost in the regular expression for it: an unescaped `.*` stands for
  a wildcard, a backslash in front of the character that it escapes for that character.

  * `ofPattern?`: the wildcard pattern of a regular expression; `ofPattern?_eq_some_iff`: it gives the
    one for which the regular expression is, and none for any other text;
  * `prepare_like`: preparing a comparison with a wildcard pattern warns of nothing but its size;
  * `toPattern_recoverable`: the regular expression is well formed, and the wildcard pattern can be
    had from it.
-/
import FederatedQuery.Proofs.Query.Like

namespace FederatedQuery

namespace Like

/-! ## Reading back -/

/-- Reads the characters of a wildcard pattern from their spellings, up to the dollar sign behind the
    last one. -/
def unspell? : List Char → Option (List Char)
  | ['$'] => some []
  | '.' :: '*' :: rest => (unspell? rest).map ('%' :: ·)
  | '\\' :: c :: rest => if c ∈ special then (unspell? rest).map (c :: ·) else none
  | c :: rest => if c = '%' ∨ c ∈ special then none else (unspell? rest).map (c :: ·)
  | [] => none

/-- The wildcard pattern of a regular expression, if there is one. -/
def ofPattern? (text : String) : Option String :=
  match text.toList with
  | '^' :: rest => (unspell? rest).map String.ofList
  | _ => none

theorem unspell?_plain {c : Char} (hc : c ≠ '%') (hs : c ∉ special) (rest : List Char) :
    unspell? (c :: rest) = (unspell? rest).map (c :: ·) := by
  have hne : ∀ d ∈ special, c ≠ d := fun d hd he => hs (he ▸ hd)
  rw [unspell?, if_neg (not_or.2 ⟨hc, hs⟩)]
  · rintro rfl
    exact absurd rfl (hne '$' (by decide))
  · rintro _ rfl
    exact absurd rfl (hne '.' (by decide))
  · rintro _ _ rfl
    exact absurd rfl (hne '\\' (by decide))

/-- What is spelled is read back. -/
theorem unspell?_spelling (like : List Char) :
    unspell? (like.flatMap spelling ++ ['$']) = some like := by
  induction like with
  | nil => rfl
  | cons c like ih =>
    rw [List.flatMap_cons, List.append_assoc]
    rcases spelling_cases c with ⟨rfl, he⟩ | ⟨-, hs, he⟩ | ⟨hc, hs, he⟩
    · rw [he, List.cons_append, List.cons_append, List.nil_append, unspell?, ih, Option.map_some]
    · rw [he, List.cons_append, List.cons_append, List.nil_append, unspell?, if_pos hs, ih,
        Option.map_some]
    · rw [he, List.cons_append, List.nil_append, unspell?_plain hc hs, ih, Option.map_some]

/-- What is read has been spelled. -/
theorem eq_of_unspell? {text like : List Char} (h : unspell? text = some like) :
    text = like.flatMap spelling ++ ['$'] := by
  fun_induction unspell? text generalizing like with
  | case1 =>
    cases h
    rfl
  | case2 rest ih =>
    obtain ⟨like, hlike, rfl⟩ := Option.map_eq_some_iff.1 h
    rw [ih hlike]
    rfl
  | case3 c rest hs ih =>
    obtain ⟨like, hlike, rfl⟩ := Option.map_eq_some_iff.1 h
    have hspelling : spelling c = ['\\', c] := by
      rcases spelling_cases c with ⟨rfl, -⟩ | ⟨-, -, he⟩ | ⟨-, hs', -⟩
      · exact absurd hs (by decide)
      · exact he
      · exact absurd hs hs'
    rw [ih hlike, List.flatMap_cons, hspelling]
    rfl
  | case4 => cases h
  | case5 => cases h
  | case6 c rest _ _ _ hc ih =>
    obtain ⟨like, hlike, rfl⟩ := Option.map_eq_some_iff.1 h
    obtain ⟨hc, hs⟩ := not_or.1 hc
    have hspelling : spelling c = [c] := by
      rcases spelling_cases c with ⟨hc', -⟩ | ⟨-, hs', -⟩ | ⟨-, -, he⟩
      · exact absurd hc' hc
      · exact absurd hs' hs
      · exact he
    rw [ih hlike, List.flatMap_cons, hspelling]
    rfl
  | case7 => cases h

theorem toList_toPattern (like : String) :
    (toPattern like).toList = '^' :: (like.toList.flatMap spelling ++ ['$']) := by
  rw [toPattern, String.toList_ofList, toPatternChars_eq]

/-- **Reading back** gives the wildcard pattern for which the regular expression is, and gives none
    for any other text. -/
theorem ofPattern?_eq_some_iff {text like : String} :
    ofPattern? text = some like ↔ text = toPattern like := by
  rw [← String.toList_inj, toList_toPattern]
  constructor
  · intro h
    unfold ofPattern? at h
    split at h
    · next rest htext =>
      obtain ⟨chars, hchars, rfl⟩ := Option.map_eq_some_iff.1 h
      rw [htext, eq_of_unspell? hchars, String.toList_ofList]
    · cases h
  · intro h
    simp only [ofPattern?, h, unspell?_spelling, Option.map_some, String.ofList_toList]

theorem toPattern_injective : Function.Injective toPattern := by
  intro like other h
  have hlike := ofPattern?_eq_some_iff.2 (Eq.refl (toPattern like))
  exact Option.some.inj (hlike.symm.trans (ofPattern?_eq_some_iff.2 h))

end Like

/-! ## Preparing -/

/-- **Preparing** a comparison with a wildcard pattern finds nothing wrong with it but its size. -/
theorem Predicate.prepare_like (field pattern : String) :
    (Predicate.like field pattern).prepare =
      if (Like.form pattern).fits then pure (.found field (some (Like.form pattern).pattern))
      else ⟨.found field none, [.badPattern (Like.toPattern pattern)]⟩ := by
  have hread : Pattern.read? (Like.toPattern pattern) =
      if (Like.form pattern).fits then some (Like.form pattern).pattern else none := by
    rw [Pattern.read?, Like.read?_toPattern, Option.bind_some]
  rw [Predicate.like, Predicate.found, prepare, readPattern, hread]
  by_cases hfits : (Like.form pattern).fits = true
  · rw [if_pos hfits, if_pos hfits]
    rfl
  · rw [if_neg hfits, if_neg hfits]
    rfl

namespace Like

/-- **Nothing of a wildcard pattern is lost.**  The regular expression for it is well formed, so that
    a comparison is prepared without a warning, a pattern that is too large aside; the wildcard
    pattern is read back from it, and from no other text; and it is that of no other wildcard
    pattern. -/
theorem toPattern_recoverable (like : String) :
    (∃ f, Form.read? (toPattern like) = some f ∧ ∀ field, f.fits = true →
      (Predicate.like field like).prepare = pure (.found field (some f.pattern))) ∧
    (∀ text, ofPattern? text = some like ↔ text = toPattern like) ∧
    ∀ other, toPattern like = toPattern other → like = other := by
  refine ⟨⟨form like, read?_toPattern like, fun field hfits => ?_⟩,
    fun text => ofPattern?_eq_some_iff, fun other h => toPattern_injective h⟩
  rw [Predicate.prepare_like, if_pos hfits]

/-- A backslash in front of a wildcard, and characters that look like one when they are not escaped. -/
theorem toPattern_recoverable_escaped :
    toPattern "\\%.*" = "^\\\\.*\\.\\*$" ∧ ofPattern? "^\\\\.*\\.\\*$" = some "\\%.*" ∧
      (Predicate.like "f" "\\%.*").prepare.log = [] ∧ toPattern "\\%.*" ≠ toPattern "\\%%" := by
  obtain ⟨⟨f, hread, hprepare⟩, hback, hsame⟩ := toPattern_recoverable "\\%.*"
  have hpattern : toPattern "\\%.*" = "^\\\\.*\\.\\*$" := by decide +kernel
  have hfits : f.fits = true := by
    obtain rfl := Option.some.inj (hread.symm.trans (read?_toPattern _))
    exact fits_form (by decide)
  refine ⟨hpattern, (hback _).2 hpattern.symm, ?_, fun h => ?_⟩
  · rw [hprepare "f" hfits]
    rfl
  · exact absurd (hsame _ h) (by decide)

end Like

end FederatedQuery
