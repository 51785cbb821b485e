/-
  Lower-casing texts.

  * `Settled`: the characters that lower-casing leaves alone; it gives no others
    (`settled_of_mem_lowerFrom`), so that a second time changes nothing (`lowerCase_lowerCase`);
  * `lowerAmid`: the lower-case form of a text between two others (`lowerFrom_append`);
  * `EndsInSigma`, `BeginsInSigma`: the texts whose lower-case form depends on what follows them,
    and on what comes before them (`lowerAmid_eq_iff`, `lowerFrom_eq_iff`).
-/
import FederatedQuery.Text.LowerCase

namespace FederatedQuery

/-! ## Runs -/

namespace CaseRun

theorem image?_eq_some {r : CaseRun} {n m : Nat} :
    r.image? n = some m ↔ (r.first ≤ n ∧ n ≤ r.last ∧ (n - r.first) % r.step = 0) ∧
      r.target + (n - r.first) = m := by
  simp [image?]

theorem apply_of_none {n : Nat} {runs : List CaseRun} (h : ∀ r ∈ runs, r.image? n = none) :
    apply n runs = n := by
  induction runs with
  | nil => rfl
  | cons r runs ih =>
    obtain ⟨hr, hruns⟩ := List.forall_mem_cons.1 h
    simp only [apply, hr, Option.getD_none, ih hruns, ite_self]

/-- A code point stays where it is, or one of the runs sends it on. -/
theorem apply_cases (n : Nat) (runs : List CaseRun) :
    apply n runs = n ∨ ∃ r ∈ runs, r.image? n = some (apply n runs) := by
  induction runs with
  | nil => exact Or.inl rfl
  | cons r runs ih =>
    rw [apply]
    split
    · exact Or.inl rfl
    · cases hr : r.image? n with
      | some m => exact Or.inr ⟨r, List.mem_cons_self, hr⟩
      | none =>
        rcases ih with h | ⟨r', hmem, h⟩
        · exact Or.inl h
        · exact Or.inr ⟨r', List.mem_cons_of_mem _ hmem, h⟩

/-- A check that no code point to which the run sends another one is itself sent on by `s`: the two
    sets lie apart, or one holds even and the other odd code points. -/
def misses (r s : CaseRun) : Bool :=
  Nat.blt (r.target + (r.last - r.first)) s.first || Nat.blt s.last r.target ||
    (Nat.beq r.step 2 || Nat.beq r.first r.last) && Nat.beq s.step 2 &&
      Nat.beq ((r.target + s.first) % 2) 1

theorem image?_of_misses {r s : CaseRun} (h : r.misses s = true) {n m : Nat}
    (hr : r.image? n = some m) : s.image? m = none := by
  obtain ⟨⟨hl, hu, hstep⟩, rfl⟩ := image?_eq_some.1 hr
  rw [image?, if_neg]
  rintro ⟨hl', hu', hstep'⟩
  simp only [misses, Bool.or_eq_true, Bool.and_eq_true, Nat.blt_eq, Nat.beq_eq] at h
  rcases h with (h | h) | ⟨⟨h | h, hs⟩, hodd⟩
  · omega
  · omega
  · rw [h] at hstep
    rw [hs] at hstep'
    omega
  · rw [hs] at hstep'
    omega

end CaseRun

namespace Text

/-! ## Single characters -/

/-- Lower-casing leaves the character alone, whatever stands around it. -/
def Settled (c : Char) : Prop := c ≠ 'Σ' ∧ lowerChar c = [c]

instance (c : Char) : Decidable (Settled c) := inferInstanceAs (Decidable (_ ∧ _))

/-- The dotted capital I, as a run of its own. -/
def dottedRun : CaseRun := ⟨'İ'.toNat, 'İ'.toNat, 1, 'i'.toNat⟩

theorem lowerRuns_miss : ∀ r ∈ lowerRuns, ∀ s ∈ dottedRun :: lowerRuns, r.misses s = true := by
  have h : (lowerRuns.all fun r => (dottedRun :: lowerRuns).all r.misses) = true := by
    decide +kernel
  simpa only [List.all_eq_true] using h

/-- The runs lead to characters after the punctuation of ASCII. -/
theorem lowerRuns_target : ∀ r ∈ lowerRuns, '.'.toNat < r.target ∧
    (r.target + (r.last - r.first) < 0xd800 ∨
      0xdfff < r.target ∧ r.target + (r.last - r.first) < 0x110000) := by
  decide +kernel

theorem settled_of_image? {r : CaseRun} (hr : r ∈ lowerRuns) {n m : Nat}
    (h : r.image? n = some m) : Settled (Char.ofNat m) ∧ Char.ofNat m ≠ '.' := by
  -- no run takes hold of where another one led, nor does the dotted capital I
  have hmiss : ∀ s ∈ dottedRun :: lowerRuns, s.image? m = none :=
    fun s hs => CaseRun.image?_of_misses (lowerRuns_miss r hr s hs) h
  obtain ⟨hdotted, hruns⟩ := List.forall_mem_cons.1 hmiss
  obtain ⟨⟨hl, hu, -⟩, hm⟩ := CaseRun.image?_eq_some.1 h
  obtain ⟨htarget, hvalid⟩ := lowerRuns_target r hr
  have hchar : m.isValidChar := by
    rcases hvalid with hv | hv
    · exact Or.inl (by omega)
    · exact Or.inr ⟨by omega, by omega⟩
  have hnat : (Char.ofNat m).toNat = m := by
    rw [Char.ofNat, dif_pos hchar]
    rfl
  have happly : CaseRun.apply m lowerRuns = m := CaseRun.apply_of_none hruns
  refine ⟨⟨fun e => ?_, ?_⟩, fun e => ?_⟩
  · rw [← hnat, e] at happly
    revert happly
    decide +kernel
  · rw [lowerChar, if_neg, hnat, happly]
    intro e
    rw [← hnat, e] at hdotted
    revert hdotted
    decide
  · rw [e] at hnat
    omega

/-- A character stays what it is, or becomes characters that are settled and no dots. -/
theorem lowerChar_cases (c : Char) :
    lowerChar c = [c] ∨ ∀ d ∈ lowerChar c, Settled d ∧ d ≠ '.' := by
  by_cases hc : c = 'İ'
  · subst hc
    have h : ((lowerChar 'İ').all fun d => decide (Settled d ∧ d ≠ '.')) = true := by
      decide +kernel
    exact Or.inr (by simpa only [List.all_eq_true, decide_eq_true_iff] using h)
  · rw [lowerChar, if_neg hc]
    rcases CaseRun.apply_cases c.toNat lowerRuns with h | ⟨r, hr, h⟩
    · exact Or.inl (by rw [h, Char.ofNat_toNat])
    · exact Or.inr (by simpa using settled_of_image? hr h)

theorem lowerChar_ne_nil (c : Char) : lowerChar c ≠ [] := by
  unfold lowerChar
  split <;> simp

theorem lowerBetween_of_settled {c : Char} (h : Settled c) (before after : List Char) :
    lowerBetween before c after = [c] := by
  rw [lowerBetween, if_neg h.1, h.2]

theorem settled_of_mem_lowerBetween {before after : List Char} {c d : Char}
    (h : d ∈ lowerBetween before c after) : Settled d := by
  unfold lowerBetween at h
  split at h
  · split at h
    · rw [List.mem_singleton.1 h]
      decide +kernel
    · rw [List.mem_singleton.1 h]
      decide +kernel
  · next hc =>
    rcases lowerChar_cases c with hsame | hother
    · rw [hsame] at h
      rw [List.mem_singleton.1 h]
      exact ⟨hc, hsame⟩
    · exact (hother d h).1

theorem dot_mem_lowerBetween {before after : List Char} {c : Char}
    (h : '.' ∈ lowerBetween before c after) : c = '.' := by
  unfold lowerBetween at h
  split at h
  · split at h <;> cases h <;> contradiction
  · rcases lowerChar_cases c with hsame | hother
    · rw [hsame] at h
      exact (List.mem_singleton.1 h).symm
    · exact absurd rfl (hother '.' h).2

theorem length_lowerBetween_pos (before : List Char) (c : Char) (after : List Char) :
    0 < (lowerBetween before c after).length := by
  unfold lowerBetween
  split
  · split <;> exact Nat.zero_lt_one
  · exact List.length_pos_iff.2 (lowerChar_ne_nil c)

/-! ## Texts between others -/

/-- The lower-case form of a text between `before` (in reverse) and `after`. -/
def lowerAmid (after before : List Char) : List Char → List Char
  | [] => []
  | c :: rest =>
    lowerBetween before c (rest ++ after) ++ lowerAmid after (c :: before) rest

theorem lowerAmid_nil (before text : List Char) : lowerAmid [] before text = lowerFrom before text := by
  induction text generalizing before with
  | nil => rfl
  | cons c rest ih => rw [lowerAmid, lowerFrom, List.append_nil, ih]

theorem lowerFrom_append (before text after : List Char) :
    lowerFrom before (text ++ after) =
      lowerAmid after before text ++ lowerFrom (text.reverse ++ before) after := by
  induction text generalizing before with
  | nil => rfl
  | cons c rest ih => simp [lowerFrom, lowerAmid, ih]

theorem settled_of_mem_lowerAmid {after before text : List Char} {d : Char}
    (h : d ∈ lowerAmid after before text) : Settled d := by
  induction text generalizing before with
  | nil => cases h
  | cons c rest ih =>
    rcases List.mem_append.1 h with h | h
    · exact settled_of_mem_lowerBetween h
    · exact ih h

theorem settled_of_mem_lowerFrom {before text : List Char} {d : Char}
    (h : d ∈ lowerFrom before text) : Settled d := by
  rw [← lowerAmid_nil] at h
  exact settled_of_mem_lowerAmid h

theorem dot_mem_lowerAmid {after before text : List Char} (h : '.' ∈ lowerAmid after before text) :
    '.' ∈ text := by
  induction text generalizing before with
  | nil => cases h
  | cons c rest ih =>
    rcases List.mem_append.1 h with h | h
    · rw [dot_mem_lowerBetween h]
      exact List.mem_cons_self
    · exact List.mem_cons_of_mem _ (ih h)

theorem lowerAmid_ne_nil {text : List Char} (h : text ≠ []) (after before : List Char) :
    lowerAmid after before text ≠ [] := by
  obtain ⟨c, rest, rfl⟩ := List.exists_cons_of_ne_nil h
  have hc := length_lowerBetween_pos before c (rest ++ after)
  intro e
  rw [lowerAmid, List.append_eq_nil_iff] at e
  simp [e.1] at hc

theorem lowerFrom_of_settled {text : List Char} (h : ∀ c ∈ text, Settled c) (before : List Char) :
    lowerFrom before text = text := by
  induction text generalizing before with
  | nil => rfl
  | cons c rest ih =>
    obtain ⟨hc, hrest⟩ := List.forall_mem_cons.1 h
    rw [lowerFrom, lowerBetween_of_settled hc, ih hrest, List.singleton_append]

theorem settled_of_lowerFrom_eq {before text : List Char} (h : lowerFrom before text = text) :
    ∀ c ∈ text, Settled c := by
  intro c hc
  rw [← h] at hc
  exact settled_of_mem_lowerFrom hc

/-- The texts that lower-casing does not change. -/
theorem lowerCase_eq_self_iff {text : String} :
    lowerCase text = text ↔ ∀ c ∈ text.toList, Settled c := by
  rw [← String.toList_inj, toList_lowerCase]
  exact ⟨settled_of_lowerFrom_eq, fun h => lowerFrom_of_settled h []⟩

/-- **Lower-casing twice** is lower-casing once. -/
@[simp] theorem lowerCase_lowerCase (text : String) : lowerCase (lowerCase text) = lowerCase text := by
  rw [lowerCase_eq_self_iff, toList_lowerCase]
  exact fun c hc => settled_of_mem_lowerFrom hc

theorem lowerCase_ne_empty {text : String} (h : text ≠ "") : lowerCase text ≠ "" := by
  have hne := lowerAmid_ne_nil (by simpa using h : text.toList ≠ []) [] []
  rw [lowerAmid_nil] at hne
  intro hempty
  rw [← toList_lowerCase, hempty] at hne
  exact hne rfl

/-! ## The final sigma -/

theorem meetsCased_append (l l' : List Char) :
    meetsCased (l ++ l') =
      if l.all caseIgnorable.contains then meetsCased l' else meetsCased l := by
  induction l with
  | nil => rfl
  | cons c l ih =>
    unfold meetsCased at ih ⊢
    rw [List.cons_append, List.dropWhile_cons, List.dropWhile_cons, List.all_cons]
    cases caseIgnorable.contains c with
    | true => exact ih
    | false => rfl

theorem meetsCased_of_all {l : List Char} (h : l.all caseIgnorable.contains = true) :
    meetsCased l = false := by
  have happend := meetsCased_append l []
  rwa [List.append_nil, if_pos h] at happend

/-- Characters further off only count behind ignorable ones. -/
theorem meetsCased_append_eq_iff {l l' : List Char} :
    meetsCased (l ++ l') = meetsCased l ↔
      ¬ (l.all caseIgnorable.contains = true ∧ meetsCased l' = true) := by
  rw [meetsCased_append]
  split
  · next h => simp [h, meetsCased_of_all h]
  · next h => simp [h]

/-- The form of a character hangs on what follows it for a capital sigma in a word alone. -/
theorem lowerBetween_after {before after after' : List Char} {c : Char} :
    lowerBetween before c after = lowerBetween before c after' ↔
      (c = 'Σ' → meetsCased before = true → meetsCased after = meetsCased after') := by
  unfold lowerBetween endsWord
  by_cases hc : c = 'Σ'
  · cases meetsCased before <;> cases meetsCased after <;> cases meetsCased after' <;> simp [hc]
  · simp [hc]

/-- The form of a character hangs on what comes before it for a capital sigma at an end alone. -/
theorem lowerBetween_before {before before' after : List Char} {c : Char} :
    lowerBetween before c after = lowerBetween before' c after ↔
      (c = 'Σ' → meetsCased after = false → meetsCased before = meetsCased before') := by
  unfold lowerBetween endsWord
  by_cases hc : c = 'Σ'
  · cases meetsCased before <;> cases meetsCased before' <;> cases meetsCased after <;> simp [hc]
  · simp [hc]

/-- All forms of a character are equally long. -/
theorem lowerBetween_append_eq_iff {before before' after after' rest rest' : List Char} {c : Char} :
    lowerBetween before c after ++ rest = lowerBetween before' c after' ++ rest' ↔
      lowerBetween before c after = lowerBetween before' c after' ∧ rest = rest' := by
  have hlength : (lowerBetween before c after).length = (lowerBetween before' c after').length := by
    unfold lowerBetween
    split
    · split <;> split <;> rfl
    · rfl
  exact ⟨fun h => List.append_inj h hlength, fun ⟨h, hrest⟩ => by rw [h, hrest]⟩

/-- After `before` (in reverse) the text ends in a word with a capital sigma as its last cased
    character, as far as the text goes. -/
def EndsInSigma (before text : List Char) : Prop :=
  ∃ a b, text = a ++ 'Σ' :: b ∧ meetsCased (a.reverse ++ before) = true ∧
    b.all caseIgnorable.contains = true

/-- The text begins with a capital sigma at which a word would end if one came before. -/
def BeginsInSigma (text : List Char) : Prop :=
  ∃ a b, text = a ++ 'Σ' :: b ∧ a.all caseIgnorable.contains = true ∧ meetsCased b = false

theorem endsInSigma_cons {before rest : List Char} {c : Char} :
    EndsInSigma before (c :: rest) ↔
      (c = 'Σ' ∧ meetsCased before = true ∧ rest.all caseIgnorable.contains = true) ∨
        EndsInSigma (c :: before) rest := by
  constructor
  · rintro ⟨_ | ⟨d, a⟩, b, h, ha, hb⟩
    · cases h
      exact Or.inl ⟨rfl, ha, hb⟩
    · cases h
      exact Or.inr ⟨a, b, rfl, by simpa using ha, hb⟩
  · rintro (⟨rfl, ha, hb⟩ | ⟨a, b, rfl, ha, hb⟩)
    · exact ⟨[], rest, rfl, ha, hb⟩
    · exact ⟨c :: a, b, rfl, by simpa using ha, hb⟩

theorem beginsInSigma_cons {rest : List Char} {c : Char} :
    BeginsInSigma (c :: rest) ↔
      (c = 'Σ' ∧ meetsCased rest = false) ∨ (caseIgnorable.contains c = true ∧ BeginsInSigma rest) := by
  constructor
  · rintro ⟨_ | ⟨d, a⟩, b, h, ha, hb⟩
    · cases h
      exact Or.inl ⟨rfl, hb⟩
    · cases h
      obtain ⟨hc, ha⟩ := Bool.and_eq_true_iff.1 ha
      exact Or.inr ⟨hc, a, b, rfl, ha, hb⟩
  · rintro (⟨rfl, hb⟩ | ⟨hc, a, b, rfl, ha, hb⟩)
    · exact ⟨[], rest, rfl, rfl, hb⟩
    · exact ⟨c :: a, b, rfl, by rw [List.all_cons, hc, ha]; rfl, hb⟩

/-- **What follows a text** changes its form exactly when it ends in a capital sigma and the word
    goes on behind it. -/
theorem lowerAmid_eq_iff (after before text : List Char) :
    lowerAmid after before text = lowerFrom before text ↔
      ¬ (EndsInSigma before text ∧ meetsCased after = true) := by
  induction text generalizing before with
  | nil =>
    refine iff_of_true rfl ?_
    rintro ⟨⟨a, b, h, -⟩, -⟩
    cases a <;> cases h
  | cons c rest ih =>
    rw [lowerAmid, lowerFrom, lowerBetween_append_eq_iff, lowerBetween_after, ih,
      meetsCased_append_eq_iff, endsInSigma_cons]
    grind

/-- **What comes before a text** changes its form exactly when it begins in a capital sigma at which
    the word then ends. -/
theorem lowerFrom_eq_iff (between before text : List Char) :
    lowerFrom (between ++ before) text = lowerFrom between text ↔
      ¬ (meetsCased before = true ∧ between.all caseIgnorable.contains = true ∧
        BeginsInSigma text) := by
  induction text generalizing between with
  | nil =>
    refine iff_of_true rfl ?_
    rintro ⟨-, -, a, b, h, -⟩
    cases a <;> cases h
  | cons c rest ih =>
    -- the character moves over to what stands between
    have hrest := ih (c :: between)
    rw [List.cons_append, List.all_cons] at hrest
    rw [lowerFrom, lowerFrom, lowerBetween_append_eq_iff, lowerBetween_before, hrest,
      meetsCased_append_eq_iff, beginsInSigma_cons]
    grind

end Text

end FederatedQuery
