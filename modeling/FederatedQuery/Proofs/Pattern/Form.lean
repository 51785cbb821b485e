/-
  Forms in sequence.

  * `spans_catAll`: they cover what their patterns cover one after the other;
  * `roughBytes_catAll_le`: they take no more room than their members together;
  * `fits_catAll_eq`: whether they are too large only depends on the measures of their members;
  * `fits_eq_false_of_limit_lt`: a form without choices is too large when the states that it has at
    least do not fit.
-/
import FederatedQuery.Pattern.Automaton.Size
import FederatedQuery.Proofs.Pattern.Spans
import Mathlib.Algebra.GroupWithZero.Nat

namespace FederatedQuery.Form

/-- Forms in sequence cover what their patterns cover one after the other. -/
theorem spans_catAll {text : List Char} (fs : List Form) {i k : Nat} :
    (catAll fs).pattern.Spans text i k ↔ Pattern.SpansAll text (fs.map pattern) i k := by
  revert i k
  refine Pattern.joinAll_induction (P := fun fs f =>
    ∀ {i k}, f.pattern.Spans text i k ↔ Pattern.SpansAll text (fs.map pattern) i k) ?_ ?_ ?_ fs
  · simp [pattern, Pattern.SpansAll]
  · simp [Pattern.SpansAll]
  · intro fs gs f g _ _ hf hg i k
    rw [List.map_append, Pattern.spansAll_append, pattern, Pattern.spans_cat]
    exact exists_congr fun j => and_congr hf hg

/-- Forms in sequence take no more room than their members together. -/
theorem roughBytes_catAll_le {fs : List Form} {most : Nat} (hne : fs ≠ [])
    (h : ∀ f ∈ fs, f.roughBytes + 128 ≤ most) : (catAll fs).roughBytes + 128 ≤ fs.length * most := by
  revert hne h
  refine Pattern.joinAll_induction (P := fun fs f => fs ≠ [] → (∀ g ∈ fs, g.roughBytes + 128 ≤ most) →
    f.roughBytes + 128 ≤ fs.length * most) ?_ ?_ ?_ fs
  · exact fun hne => absurd rfl hne
  · simp
  · intro fs gs f g hfs hgs hf hg _ h
    have hleft := hf hfs fun x hx => h x (List.mem_append_left _ hx)
    have hright := hg hgs fun x hx => h x (List.mem_append_right _ hx)
    rw [List.length_append, Nat.add_mul, roughBytes]
    omega

/-! ## Measures -/

/-- All that decides whether a form is too large. -/
structure Measures where
  branches : List Outline
  roughBytes : Nat
  leastStates : Nat
  choices : Nat

/-- The measures of a form. -/
def measures (f : Form) : Measures where
  branches := f.branches
  roughBytes := f.roughBytes
  leastStates := f.leastStates
  choices := f.choices

/-- The measures of two forms one behind the other. -/
def Measures.cat (m n : Measures) : Measures where
  branches := [.inSequence [.inChoice m.branches, .inChoice n.branches]]
  roughBytes := m.roughBytes + n.roughBytes + 128
  leastStates := m.leastStates + n.leastStates
  choices := m.choices + n.choices

theorem measures_cat (f g : Form) : (cat f g).measures = f.measures.cat g.measures := rfl

theorem fits_eq_of_measures {f g : Form} (h : f.measures = g.measures) : f.fits = g.fits := by
  obtain ⟨hbranches, hrough, hleast, hchoices⟩ := Measures.mk.inj h
  rw [fits, fits, outline, outline, hbranches, hrough, hleast, hchoices]

/-- Forms in sequence are too large together when others with the same measures are. -/
theorem fits_catAll_eq {fs gs : List Form} (h : fs.map measures = gs.map measures) :
    (catAll fs).fits = (catAll gs).fits := by
  apply fits_eq_of_measures
  rw [catAll, catAll, Pattern.map_joinAll rfl measures_cat, Pattern.map_joinAll rfl measures_cat, h]

/-! ## Large forms -/

/-- What adds up over two forms adds up over all forms in sequence. -/
theorem catAll_eq_sum {m : Form → Nat} (hempty : m empty = 0)
    (hcat : ∀ f g, m (cat f g) = m f + m g) (fs : List Form) : m (catAll fs) = (fs.map m).sum := by
  refine Pattern.joinAll_induction (P := fun fs f => m f = (fs.map m).sum) hempty ?_ ?_ fs
  · simp
  · intro fs gs f g _ _ hf hg
    rw [hcat, hf, hg, List.map_append, List.sum_append]

/-- The rough measure counts every state that an automaton has at least. -/
theorem stateBytes_mul_leastStates_le (f : Form) :
    Room.stateBytes * f.leastStates ≤ f.roughBytes := by
  have hbytes : Room.stateBytes = 32 := rfl
  rw [hbytes]
  induction f with
  | empty | boundary => simp [leastStates]
  | one c =>
    rw [leastStates, roughBytes]
    omega
  | cat f g ihf ihg =>
    rw [leastStates, roughBytes]
    omega
  | alt f g ihf ihg =>
    rw [leastStates, roughBytes]
    omega
  | repeated r f ih =>
    have htimes : max r.least (r.most.getD 1) ≤ max r.least (r.most.getD 0) + 1 := by
      cases r.most with
      | none =>
        rw [Option.getD_none, Option.getD_none]
        omega
      | some most => exact Nat.le_succ _
    have hbuilt := Nat.mul_le_mul htimes (Nat.le_trans ih (Nat.le_add_right _ 64))
    rw [leastStates, roughBytes, Nat.mul_left_comm]
    omega
  | group keeps f ih =>
    rw [leastStates, roughBytes]
    omega

/-- A form without choices is too large when the states that it has at least do not fit. -/
theorem fits_eq_false_of_limit_lt {f : Form} (hchoices : f.choices = 0)
    (h : Room.limit < Room.stateBytes * f.leastStates) : f.fits = false := by
  have hrough := stateBytes_mul_leastStates_le f
  have hlist : f.choices + 1 < Outline.wordListLength := by
    rw [hchoices]
    decide
  rw [fits, if_neg (by omega), if_pos ⟨h, hlist⟩]

end FederatedQuery.Form
