/-
  What patterns cover.

  * `spans_cat`, `spans_alt`, `spans_one`: what a pattern covers, part by part, and
    `holds_textStart`, `holds_textEnd`: where a text begins and ends;
  * `Spans.le`, `Spans.le_length`: parts of a text do not go backwards, nor beyond its end;
  * `Spans.star_cons_of_lt`: a repetition that covers something begins with a part that does;
  * `SpansAll`: what patterns cover one after the other, and `spans_catAll`: so does their sequence;
  * `spans_star_one`: what a repeated class covers.
-/
import FederatedQuery.Pattern.Form

namespace FederatedQuery.Pattern

variable {text : List Char}

/-! ## Parts -/

@[simp] theorem spans_empty {i k : Nat} : Spans text empty i k ↔ k = i :=
  ⟨fun h => by cases h; rfl, fun h => h ▸ .empty⟩

@[simp] theorem spans_boundary {b : Boundary} {i k : Nat} :
    Spans text (boundary b) i k ↔ b.holds (placeAt text i) = true ∧ k = i :=
  ⟨fun h => by cases h with | boundary hb => exact ⟨hb, rfl⟩,
    fun ⟨hb, h⟩ => by subst h; exact .boundary hb⟩

theorem holds_textStart {text : List Char} {i : Nat} (hi : i ≤ text.length) :
    Boundary.textStart.holds (placeAt text i) = true ↔ i = 0 := by
  rw [Boundary.holds, Option.isNone_iff_eq_none, placeAt]
  by_cases h : i = 0
  · simp [h]
  · simp only [h, if_false, iff_false, List.getElem?_eq_none_iff]
    omega

theorem holds_textEnd {text : List Char} {k : Nat} :
    Boundary.textEnd.holds (placeAt text k) = true ↔ text.length ≤ k := by
  rw [Boundary.holds, placeAt, Option.isNone_iff_eq_none, List.getElem?_eq_none_iff]

theorem spans_one {c : CharClass} {i k : Nat} :
    Spans text (one c) i k ↔ (∃ x, text[i]? = some x ∧ c.contains x = true) ∧ k = i + 1 :=
  ⟨fun h => by cases h with | one hx hc => exact ⟨⟨_, hx, hc⟩, rfl⟩,
    fun ⟨⟨_, hx, hc⟩, h⟩ => h ▸ .one hx hc⟩

theorem spans_cat {p q : Pattern} {i k : Nat} :
    Spans text (cat p q) i k ↔ ∃ j, Spans text p i j ∧ Spans text q j k :=
  ⟨fun h => by cases h with | cat hp hq => exact ⟨_, hp, hq⟩, fun ⟨_, hp, hq⟩ => .cat hp hq⟩

theorem spans_alt {p q : Pattern} {i k : Nat} :
    Spans text (alt p q) i k ↔ Spans text p i k ∨ Spans text q i k := by
  constructor
  · intro h
    cases h with
    | altLeft h => exact .inl h
    | altRight h => exact .inr h
  · rintro (h | h)
    · exact .altLeft h
    · exact .altRight h

theorem Spans.le {p : Pattern} {i k : Nat} (h : Spans text p i k) : i ≤ k := by
  induction h with
  | empty | boundary | starNil => exact Nat.le_refl _
  | one => exact Nat.le_succ _
  | cat _ _ ihp ihq | starCons _ _ ihp ihq => exact Nat.le_trans ihp ihq
  | altLeft _ ih | altRight _ ih => exact ih

theorem Spans.le_length {p : Pattern} {i k : Nat} (h : Spans text p i k) (hi : i ≤ text.length) :
    k ≤ text.length := by
  induction h with
  | empty | boundary | starNil => exact hi
  | one hx => exact (List.getElem?_eq_some_iff.1 hx).1
  | cat _ _ ihp ihq | starCons _ _ ihp ihq => exact ihq (ihp hi)
  | altLeft _ ih | altRight _ ih => exact ih hi

/-! ## Repetition -/

/-- A repetition that covers something begins with a part that does. -/
theorem Spans.star_cons_of_lt {p : Pattern} {i k : Nat} (h : Spans text (star p) i k)
    (hlt : i < k) : ∃ j, i < j ∧ Spans text p i j ∧ Spans text (star p) j k := by
  generalize hs : star p = s at h
  induction h with
  | starNil => exact absurd hlt (Nat.lt_irrefl _)
  | @starCons p' i j k hp hrest _ ih =>
    cases hs
    by_cases hij : i < j
    · exact ⟨j, hij, hp, hrest⟩
    · have heq : i = j := Nat.le_antisymm hp.le (Nat.not_lt.1 hij)
      subst heq
      exact ih hlt rfl
  | _ => cases hs

theorem getElem?_eq_some_iff_drop {i : Nat} {x : Char} :
    text[i]? = some x ↔ text.drop i = x :: text.drop (i + 1) := by
  constructor
  · intro h
    obtain ⟨hlt, rfl⟩ := List.getElem?_eq_some_iff.1 h
    exact List.drop_eq_getElem_cons hlt
  · intro h
    rw [← List.head?_drop, h, List.head?_cons]

/-- What a text begins with at a place, and what comes behind that. -/
theorem drop_of_drop_eq_append {i : Nat} {w rest : List Char} (hi : i ≤ text.length)
    (h : text.drop i = w ++ rest) :
    i + w.length ≤ text.length ∧ text.drop (i + w.length) = rest := by
  have hlength := congrArg List.length h
  rw [List.length_drop, List.length_append] at hlength
  exact ⟨by omega, by rw [← List.drop_drop, h, List.drop_left]⟩

/-- A repeated class covers any number of its characters. -/
theorem spans_star_one {c : CharClass} {i k : Nat} :
    Spans text (star (one c)) i k ↔ ∃ w : List Char, text.drop i = w ++ text.drop k ∧
      k = i + w.length ∧ ∀ x ∈ w, c.contains x = true := by
  constructor
  · intro h
    generalize hs : star (one c) = s at h
    induction h with
    | starNil => exact ⟨[], rfl, rfl, by simp⟩
    | starCons hp _ _ ih =>
      cases hs
      obtain ⟨⟨x, hx, hc⟩, rfl⟩ := spans_one.1 hp
      obtain ⟨w, hw, rfl, hall⟩ := ih rfl
      refine ⟨x :: w, ?_, by simp; omega, by simpa [hc] using hall⟩
      rw [getElem?_eq_some_iff_drop.1 hx, hw, List.cons_append]
    | _ => cases hs
  · rintro ⟨w, hw, rfl, hall⟩
    induction w generalizing i with
    | nil => exact .starNil
    | cons x w ih =>
      obtain ⟨hx, hrest⟩ := List.forall_mem_cons.1 hall
      have hk : i + (x :: w).length = i + 1 + w.length := by simp; omega
      have hdrop : text.drop (i + 1) = w ++ text.drop (i + 1 + w.length) := by
        rw [← List.drop_drop, hw, hk]
        rfl
      have hfirst : text[i]? = some x := by rw [← List.head?_drop, hw]; rfl
      rw [hk]
      exact .starCons (.one hfirst hx) (ih hrest hdrop)

/-! ## Sequences -/

/-- The patterns cover the part of the text from place `i` to place `k` one after the other. -/
def SpansAll (text : List Char) : List Pattern → Nat → Nat → Prop
  | [], i, k => k = i
  | p :: ps, i, k => ∃ j, Spans text p i j ∧ SpansAll text ps j k

theorem SpansAll.le_length {ps : List Pattern} {i k : Nat} (h : SpansAll text ps i k)
    (hi : i ≤ text.length) : k ≤ text.length := by
  induction ps generalizing i with
  | nil =>
    rw [SpansAll] at h
    exact h ▸ hi
  | cons p ps ih =>
    obtain ⟨j, hp, hps⟩ := h
    exact ih hps (hp.le_length hi)

theorem spansAll_append {ps qs : List Pattern} {i k : Nat} :
    SpansAll text (ps ++ qs) i k ↔ ∃ j, SpansAll text ps i j ∧ SpansAll text qs j k := by
  induction ps generalizing i with
  | nil => simp [SpansAll]
  | cons p ps ih =>
    simp only [List.cons_append, SpansAll, ih]
    constructor
    · rintro ⟨j, hp, l, hps, hqs⟩
      exact ⟨l, ⟨j, hp, hps⟩, hqs⟩
    · rintro ⟨l, ⟨j, hp, hps⟩, hqs⟩
      exact ⟨j, hp, l, hps, hqs⟩

/-- A measure of all members joined is their measures joined. -/
theorem map_joinAll {α β : Type} {join : α → α → α} {unit : α} {join' : β → β → β} {unit' : β}
    {m : α → β} (hunit : m unit = unit') (hjoin : ∀ a b, m (join a b) = join' (m a) (m b))
    (xs : List α) : m (joinAll join unit xs) = joinAll join' unit' (xs.map m) := by
  have hfold (rest : List α) (a : α) :
      m (rest.foldl join a) = (rest.map m).foldl join' (m a) := by
    induction rest generalizing a with
    | nil => rfl
    | cons x rest ih => rw [List.foldl_cons, ih, hjoin, List.map_cons, List.foldl_cons]
  rw [joinAll, joinAll, List.length_map]
  generalize xs.length.log2 + 1 = depth
  induction depth generalizing xs with
  | zero =>
    match xs with
    | [] => exact hunit
    | [x] => rfl
    | x :: y :: ys => exact hfold (y :: ys) x
  | succ depth ih =>
    match xs with
    | [] => exact hunit
    | [x] => rfl
    | x :: y :: ys =>
      rw [joinTree, hjoin, ih, ih, List.map_take, List.map_drop, ← List.length_map m]
      · rfl
      · simp
      · simp

/-- What holds of no members, of one member, and of two parts joined, holds of all members joined. -/
theorem joinAll_induction {α : Type} {join : α → α → α} {unit : α} {P : List α → α → Prop}
    (hunit : P [] unit) (hone : ∀ x, P [x] x)
    (hjoin : ∀ {xs ys a b}, xs ≠ [] → ys ≠ [] → P xs a → P ys b → P (xs ++ ys) (join a b))
    (xs : List α) : P xs (joinAll join unit xs) := by
  have hfold (rest done : List α) (a : α) (hne : done ≠ []) (h : P done a) :
      P (done ++ rest) (rest.foldl join a) := by
    induction rest generalizing done a with
    | nil => rwa [List.append_nil]
    | cons x rest ih =>
      have hnext := ih (done ++ [x]) (join a x) (by simp) (hjoin hne (by simp) h (hone x))
      rwa [List.append_assoc] at hnext
  rw [joinAll]
  generalize xs.length.log2 + 1 = depth
  induction depth generalizing xs with
  | zero =>
    match xs with
    | [] => exact hunit
    | [x] => exact hone x
    | x :: y :: ys => exact hfold (y :: ys) [x] x (by simp) (hone x)
  | succ depth ih =>
    match xs with
    | [] => exact hunit
    | [x] => exact hone x
    | x :: y :: ys =>
      have hleft : (x :: y :: ys).take ((x :: y :: ys).length / 2) ≠ [] := by simp
      have hright : (x :: y :: ys).drop ((x :: y :: ys).length / 2) ≠ [] := by simp; omega
      have hboth := hjoin hleft hright (ih _) (ih _)
      rw [List.take_append_drop] at hboth
      rwa [joinTree]
      · simp
      · simp

/-- **Sequences** cover what their members cover one after the other. -/
theorem spans_catAll {ps : List Pattern} {i k : Nat} :
    Spans text (catAll ps) i k ↔ SpansAll text ps i k := by
  revert i k
  refine joinAll_induction (P := fun ps p => ∀ {i k}, Spans text p i k ↔ SpansAll text ps i k)
    ?_ ?_ ?_ ps
  · simp [SpansAll]
  · simp [SpansAll]
  · intro ps qs p q _ _ hp hq i k
    rw [spansAll_append, spans_cat]
    exact exists_congr fun j => and_congr hp hq

end FederatedQuery.Pattern
