/-
  The search for a pattern finds it.

  A mark stands for the ways through the pattern that have just covered a character with the marked
  class.

  * `Marked.bare`: a marked pattern without its marks;
  * `Marked.Leads`: the ways from the marks to the end of the pattern;
  * `leaves_step`, `Marked.moves`: a step moves every way over one character;
  * `isInFrom_iff`: what is found from a place on, given the marks there;
  * `isIn_iff_occurs`: a pattern is found in a text exactly when it covers some part of it.
-/
import FederatedQuery.Pattern.Search
import FederatedQuery.Proofs.Pattern.Spans
import Mathlib.Tactic.Tauto

namespace FederatedQuery

namespace Marked

variable {text : List Char}

/-! ## Ways -/

/-- The pattern without its marks. -/
def bare : Marked → Pattern
  | empty => .empty
  | boundary b => .boundary b
  | one c _ => .one c
  | cat p q => .cat p.bare q.bare
  | alt p q => .alt p.bare q.bare
  | star p => .star p.bare

/-- A way leads from a mark at place `i` to the end of the pattern at place `k`. -/
def Leads (text : List Char) : Marked → Nat → Nat → Prop
  | empty, _, _ | boundary _, _, _ => False
  | one _ marked, i, k => marked = true ∧ k = i
  | cat p q, i, k => (∃ j, p.Leads text i j ∧ q.bare.Spans text j k) ∨ q.Leads text i k
  | alt p q, i, k => p.Leads text i k ∨ q.Leads text i k
  | star p, i, k => ∃ j, p.Leads text i j ∧ (Pattern.star p.bare).Spans text j k

@[simp] theorem bare_ofPattern (p : Pattern) : (ofPattern p).bare = p := by
  induction p <;> simp_all [ofPattern, bare]

@[simp] theorem bare_step (place : Place) (entering : Bool) (m : Marked) :
    (m.step place entering).2.bare = m.bare := by
  induction m generalizing entering with
  | empty | boundary | one => rfl
  | cat p q ihp ihq => simp only [step, bare, ihp, ihq]
  | alt p q ihp ihq => simp only [step, bare, ihp, ihq]
  | star p ih => simp only [step, bare, ih]

theorem not_leads_ofPattern (p : Pattern) {i k : Nat} : ¬ (ofPattern p).Leads text i k := by
  induction p generalizing i k <;> simp_all [ofPattern, Leads]

theorem Leads.le {m : Marked} {i k : Nat} (h : m.Leads text i k) : i ≤ k := by
  induction m generalizing i k with
  | empty | boundary => cases h
  | one => exact Nat.le_of_eq h.2.symm
  | cat p q ihp ihq =>
    rcases h with ⟨j, hp, hq⟩ | h
    · exact Nat.le_trans (ihp hp) hq.le
    · exact ihq h
  | alt p q ihp ihq => exact h.elim ihp ihq
  | star p ih =>
    obtain ⟨j, hp, hrest⟩ := h
    exact Nat.le_trans (ih hp) hrest.le

theorem Leads.le_length {m : Marked} {i k : Nat} (h : m.Leads text i k) (hi : i ≤ text.length) :
    k ≤ text.length := by
  induction m generalizing i k with
  | empty | boundary => cases h
  | one => exact h.2 ▸ hi
  | cat p q ihp ihq =>
    rcases h with ⟨j, hp, hq⟩ | h
    · exact hq.le_length (ihp hp hi)
    · exact ihq h hi
  | alt p q ihp ihq => exact h.elim (ihp · hi) (ihq · hi)
  | star p ih =>
    obtain ⟨j, hp, hrest⟩ := h
    exact hrest.le_length (ih hp hi)

/-! ## One place -/

/-- What a pattern covers of nothing at all, part by part: ways do not go backwards. -/
theorem exists_between_self {P Q : Nat → Nat → Prop} (hP : ∀ {i k}, P i k → i ≤ k)
    (hQ : ∀ {i k}, Q i k → i ≤ k) {i : Nat} : (∃ j, P i j ∧ Q j i) ↔ P i i ∧ Q i i := by
  constructor
  · rintro ⟨j, hp, hq⟩
    obtain rfl := Nat.le_antisymm (hP hp) (hQ hq)
    exact ⟨hp, hq⟩
  · exact fun h => ⟨i, h⟩

theorem spans_cat_self {p q : Pattern} {i : Nat} :
    (p.cat q).Spans text i i ↔ p.Spans text i i ∧ q.Spans text i i :=
  Pattern.spans_cat.trans (exists_between_self Pattern.Spans.le Pattern.Spans.le)

theorem leads_cat_self {p q : Marked} {i : Nat} :
    (cat p q).Leads text i i ↔ p.Leads text i i ∧ q.bare.Spans text i i ∨ q.Leads text i i :=
  or_congr_left (exists_between_self Leads.le Pattern.Spans.le)

theorem leads_star_self {p : Marked} {i : Nat} :
    (star p).Leads text i i ↔ p.Leads text i i :=
  (exists_between_self Leads.le Pattern.Spans.le).trans (and_iff_left .starNil)

theorem passes_iff (m : Marked) {i : Nat} :
    m.passes (Pattern.placeAt text i) = true ↔ m.bare.Spans text i i := by
  induction m with
  | empty => simp [passes, bare]
  | boundary => simp [passes, bare]
  | one => simp [passes, bare, Pattern.spans_one]
  | cat p q ihp ihq =>
    rw [passes, Bool.and_eq_true, ihp, ihq, bare, spans_cat_self]
  | alt p q ihp ihq => rw [passes, Bool.or_eq_true, ihp, ihq, bare, Pattern.spans_alt]
  | star p => simpa [passes, bare] using Pattern.Spans.starNil

theorem ends_iff (m : Marked) {i : Nat} :
    m.ends (Pattern.placeAt text i) = true ↔ m.Leads text i i := by
  induction m with
  | empty | boundary => simp [ends, Leads]
  | one => simp [ends, Leads]
  | cat p q ihp ihq =>
    rw [ends, Bool.or_eq_true, Bool.and_eq_true, ihp, ihq, passes_iff, leads_cat_self]
  | alt p q ihp ihq => rw [ends, Bool.or_eq_true, ihp, ihq, Leads]
  | star p ih => rw [ends, ih, leads_star_self]

/-- Whether a step leaves the pattern: from a mark, or by passing it all. -/
theorem leaves_step (m : Marked) (entering : Bool) {i : Nat} :
    (m.step (Pattern.placeAt text i) entering).1 = true ↔
      m.Leads text i i ∨ entering = true ∧ m.bare.Spans text i i := by
  induction m generalizing entering with
  | empty => simp [step, Leads, bare]
  | boundary => simp [step, Leads, bare]
  | one => simp [step, Leads, bare, Pattern.spans_one]
  | cat p q ihp ihq =>
    simp only [step, ihp, ihq, leads_cat_self, bare, spans_cat_self]
    tauto
  | alt p q ihp ihq =>
    simp only [step, Bool.or_eq_true, ihp, ihq, Leads, bare, Pattern.spans_alt]
    tauto
  | star p ih =>
    have hnil : (Pattern.star p.bare).Spans text i i := .starNil
    simp only [step, Bool.or_eq_true, ends_iff, leads_star_self, bare, hnil, and_true]
    exact Or.comm

/-! ## One character -/

/-- A step at place `i` moves every way over one character, those that enter the pattern there as
    well. -/
def Moves (text : List Char) (i : Nat) (m : Marked) : Prop :=
  ∀ (entering : Bool) {k : Nat}, i < k →
    ((m.step (Pattern.placeAt text i) entering).2.Leads text (i + 1) k ↔
      m.Leads text i k ∨ entering = true ∧ m.bare.Spans text i k)

theorem Moves.cat {p q : Marked} {i : Nat} (ihp : p.Moves text i) (ihq : q.Moves text i) :
    (Marked.cat p q).Moves text i := by
  intro entering k hik
  simp only [step, Leads, bare, Pattern.spans_cat, bare_step, ihq _ hik, leaves_step]
  constructor
  · rintro (⟨j, hp, hq⟩ | hq | ⟨hp | ⟨he, hp⟩, hq⟩)
    · rcases (ihp entering hp.le).1 hp with hp | ⟨he, hp⟩
      · exact .inl (.inl ⟨j, hp, hq⟩)
      · exact .inr ⟨he, j, hp, hq⟩
    · exact .inl (.inr hq)
    · exact .inl (.inl ⟨i, hp, hq⟩)
    · exact .inr ⟨he, i, hp, hq⟩
  -- the ways that leave the first part at this very place go on in the second part
  · rintro ((⟨j, hp, hq⟩ | hq) | ⟨he, j, hp, hq⟩)
    · rcases Nat.eq_or_lt_of_le hp.le with rfl | hlt
      · exact .inr (.inr ⟨.inl hp, hq⟩)
      · exact .inl ⟨j, (ihp entering hlt).2 (.inl hp), hq⟩
    · exact .inr (.inl hq)
    · rcases Nat.eq_or_lt_of_le hp.le with rfl | hlt
      · exact .inr (.inr ⟨.inr ⟨he, hp⟩, hq⟩)
      · exact .inl ⟨j, (ihp entering hlt).2 (.inr ⟨he, hp⟩), hq⟩

/-- A way that goes around once more begins with a part that covers something. -/
theorem Moves.around {p : Marked} {i k : Nat} (ih : p.Moves text i) (hik : i < k)
    (h : (Pattern.star p.bare).Spans text i k) :
    ∃ j, (p.step (Pattern.placeAt text i) true).2.Leads text (i + 1) j ∧
      (Pattern.star p.bare).Spans text j k := by
  obtain ⟨j, hij, hp, hrest⟩ := h.star_cons_of_lt hik
  exact ⟨j, (ih true hij).2 (.inr ⟨rfl, hp⟩), hrest⟩

theorem Moves.star {p : Marked} {i : Nat} (ih : p.Moves text i) : (Marked.star p).Moves text i := by
  intro entering k hik
  have hentering : (entering || p.ends (Pattern.placeAt text i)) = true ↔
      entering = true ∨ p.Leads text i i := by rw [Bool.or_eq_true, ends_iff]
  simp only [step, Leads, bare, bare_step]
  constructor
  · rintro ⟨j, hp, hrest⟩
    rcases (ih _ hp.le).1 hp with hp | ⟨hin, hp⟩
    · exact .inl ⟨j, hp, hrest⟩
    · rcases hentering.1 hin with he | hback
      · exact .inr ⟨he, .starCons hp hrest⟩
      · exact .inl ⟨i, hback, .starCons hp hrest⟩
  · rintro (⟨j, hp, hrest⟩ | ⟨he, hstar⟩)
    · rcases Nat.eq_or_lt_of_le hp.le with rfl | hlt
      · rw [hentering.2 (.inr hp)]
        exact ih.around hik hrest
      · exact ⟨j, (ih _ hlt).2 (.inl hp), hrest⟩
    · rw [hentering.2 (.inl he)]
      exact ih.around hik hstar

/-- **A step** moves every way over one character. -/
theorem moves (m : Marked) (i : Nat) : m.Moves text i := by
  induction m with
  | empty => intro entering k hik; simp [step, Leads, bare]; omega
  | boundary => intro entering k hik; simp [step, Leads, bare]; omega
  | one c marked =>
    intro entering k hik
    have hafter : (Pattern.placeAt text i).after = text[i]? := rfl
    have hne : k ≠ i := Nat.ne_of_gt hik
    simp [step, Leads, bare, Pattern.spans_one, hafter, hne, Option.any_eq_true, and_assoc]
  | cat p q ihp ihq => exact ihp.cat ihq
  | alt p q ihp ihq =>
    intro entering k hik
    simp only [step, Leads, bare, Pattern.spans_alt, ihp entering hik, ihq entering hik]
    tauto
  | star p ih => exact ih.star

/-! ## Whole texts -/

theorem placeAt_length (done rest : List Char) :
    Pattern.placeAt (done ++ rest) done.length = ⟨done.getLast?, rest.head?⟩ := by
  have hbefore : (if done.length = 0 then none else (done ++ rest)[done.length - 1]?) =
      done.getLast? := by
    split
    · next hzero => rw [List.length_eq_zero_iff.1 hzero, List.getLast?_nil]
    · next hpos =>
      rw [List.getLast?_eq_getElem?, List.getElem?_append_left (by omega)]
  have hafter : (done ++ rest)[done.length]? = rest.head? := by
    rw [List.getElem?_append_right (Nat.le_refl _), Nat.sub_self, List.head?_eq_getElem?]
  rw [Pattern.placeAt, hbefore, hafter]

/-- At a place, what is found from there on is found there, or after a step. -/
theorem found_from_iff (m : Marked) {i : Nat} (hi : i ≤ text.length) :
    ((∃ k, m.Leads text i k) ∨ ∃ j k, i ≤ j ∧ j ≤ text.length ∧ m.bare.Spans text j k) ↔
      (m.step (Pattern.placeAt text i) true).1 = true ∨
        ((∃ k, (m.step (Pattern.placeAt text i) true).2.Leads text (i + 1) k) ∨
          ∃ j k, i + 1 ≤ j ∧ j ≤ text.length ∧ m.bare.Spans text j k) := by
  rw [leaves_step]
  constructor
  · rintro (⟨k, hk⟩ | ⟨j, k, hij, hj, hk⟩)
    · rcases Nat.eq_or_lt_of_le hk.le with rfl | hlt
      · exact .inl (.inl hk)
      · exact .inr (.inl ⟨k, (m.moves i true hlt).2 (.inl hk)⟩)
    · rcases Nat.eq_or_lt_of_le hij with rfl | hlt
      · rcases Nat.eq_or_lt_of_le hk.le with rfl | hlt
        · exact .inl (.inr ⟨rfl, hk⟩)
        · exact .inr (.inl ⟨k, (m.moves i true hlt).2 (.inr ⟨rfl, hk⟩)⟩)
      · exact .inr (.inr ⟨j, k, hlt, hj, hk⟩)
  · rintro ((hk | ⟨-, hk⟩) | ⟨k, hk⟩ | ⟨j, k, hij, hj, hk⟩)
    · exact .inl ⟨i, hk⟩
    · exact .inr ⟨i, i, Nat.le_refl _, hi, hk⟩
    · rcases (m.moves i true hk.le).1 hk with hk | ⟨-, hk⟩
      · exact .inl ⟨k, hk⟩
      · exact .inr ⟨i, k, Nat.le_refl _, hi, hk⟩
    · exact .inr ⟨j, k, Nat.le_of_succ_le hij, hj, hk⟩

/-- What is found from a place on: a way that leads on from a mark, or one that begins there or
    later. -/
theorem isInFrom_iff (m : Marked) (done rest : List Char) :
    m.isInFrom done.getLast? rest = true ↔
      (∃ k, m.Leads (done ++ rest) done.length k) ∨
        ∃ j k, done.length ≤ j ∧ j ≤ (done ++ rest).length ∧ m.bare.Spans (done ++ rest) j k := by
  have hplace := placeAt_length done rest
  rw [found_from_iff m (by simp), hplace]
  induction rest generalizing m done with
  | nil =>
    -- no way goes on behind the last place
    have hend : ∀ k, ¬ (m.step ⟨done.getLast?, none⟩ true).2.Leads (done ++ []) (done.length + 1) k := by
      intro k hk
      have hlt := hk.le
      rw [← List.head?_nil, ← hplace] at hk
      have hle : k ≤ (done ++ []).length := by
        rcases (m.moves _ true hlt).1 hk with hk | ⟨-, hk⟩
        · exact hk.le_length (by simp)
        · exact hk.le_length (by simp)
      simp at hle
      omega
    have hlater : ¬ ∃ j k, done.length + 1 ≤ j ∧ j ≤ (done ++ []).length ∧
        m.bare.Spans (done ++ []) j k := by
      rintro ⟨j, k, hj, hj', -⟩
      simp at hj'
      omega
    simp only [isInFrom, List.head?_nil, hend, exists_false, hlater, or_false]
  | cons c rest ih =>
    have hnext := ih (m.step ⟨done.getLast?, some c⟩ true).2 (done ++ [c]) (placeAt_length _ _)
    rw [← placeAt_length, ← found_from_iff _ (by simp), List.getLast?_concat, List.length_append,
      List.length_singleton, List.append_assoc, List.singleton_append, bare_step] at hnext
    rw [isInFrom, Bool.or_eq_true, List.head?_cons]
    exact or_congr_right hnext

end Marked

/-- **Searching** finds a pattern exactly where it covers some part of the text. -/
theorem Pattern.isIn_iff_occurs (p : Pattern) (text : String) :
    p.isIn text = true ↔ p.Occurs text.toList := by
  have hfrom := (Marked.ofPattern p).isInFrom_iff [] text.toList
  simpa [Marked.not_leads_ofPattern, Pattern.isIn, Pattern.Occurs] using hfrom

end FederatedQuery
