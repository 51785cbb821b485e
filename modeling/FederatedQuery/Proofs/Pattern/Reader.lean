/-
  Reading branches of a pattern.

  * `bare_body_nil`, `bare_body_atom`, `bare_body_repeat`: reading on in a group, by what comes next;
  * `atom?_special`, `atom?_plain`: a character that is escaped where it has to be stands for itself.
-/
import FederatedQuery.Pattern.Reader
import FederatedQuery.Query.Like

namespace FederatedQuery

namespace PatternReader

open CharReader (bare)

/-! ## Reading a branch -/

section Body

variable {nested : PatternFlags → List String → CharReader (Piece × List String)} {b : Body}
  {bound : Nat}

/-- The characters at which something else than an atom begins, or ends. -/
def structural : List Char := [')', '|', '(', '[', '*', '+', '?', '\x7b']

theorem skip_of_not_verbose {f : PatternFlags} (hf : f.verbose = false) (input : List Char) :
    f.skip input = input := by
  rw [PatternFlags.skip, hf, if_neg Bool.false_ne_true]

theorem bare_body_nil (hf : b.flags.verbose = false) (h : [].length ≤ bound) :
    bare (body nested b [] bound h) = some (b, []) := by
  have hskip := skip_of_not_verbose hf []
  rw [body]
  split
  · rfl
  · next he => cases hskip.symm.trans he

theorem bare_body_atom (hf : b.flags.verbose = false) {c : Char} {rest after : List Char}
    {form : Form} (hc : c ∉ structural) (hatom : atom? b.flags (c :: rest) = some (form, after))
    (h : (c :: rest).length ≤ bound) (h' : after.length ≤ bound) :
    bare (body nested b (c :: rest) bound h) = bare (body nested (b.add { form }) after bound h') := by
  have hskip := skip_of_not_verbose hf (c :: rest)
  simp only [structural, List.mem_cons, List.not_mem_nil, or_false, not_or] at hc
  have hrep : beginsRepetition c = false := by simp [beginsRepetition, hc]
  rw [body]
  split
  · next he => cases hskip.symm.trans he
  · next he =>
    cases hskip.symm.trans he
    simp only [hc, if_false, hrep, Bool.false_eq_true]
    split
    · next ha => rw [hatom] at ha; cases ha; rfl
    · next ha => rw [hatom] at ha; cases ha

theorem bare_body_repeat (hf : b.flags.verbose = false) {c : Char} {rest after : List Char}
    {r : Repetition} {b' : Body} (hc : beginsRepetition c = true)
    (hr : repetition? b.flags c rest = some (r, after)) (hb : b.repeat? r = some b')
    (h : (c :: rest).length ≤ bound) (h' : after.length ≤ bound) :
    bare (body nested b (c :: rest) bound h) = bare (body nested b' after bound h') := by
  have hskip := skip_of_not_verbose hf (c :: rest)
  have hne : c ≠ ')' ∧ c ≠ '|' ∧ c ≠ '(' ∧ c ≠ '[' := by
    refine ⟨?_, ?_, ?_, ?_⟩ <;> rintro rfl <;> cases hc
  rw [body]
  split
  · next he => cases hskip.symm.trans he
  · next he =>
    cases hskip.symm.trans he
    simp only [hne, if_false, hc, if_true]
    split
    · next he =>
      rw [hr] at he
      cases he
      split
      · next he => rw [hb] at he; cases he; rfl
      · next he => rw [hb] at he; cases he
    · next he => rw [hr] at he; cases he

end Body

/-! ## Characters that stand for themselves -/

theorem not_mem_structural {c : Char} (hc : c ∉ Like.special) : c ∉ structural := by
  have hsub : ∀ d ∈ structural, d ∈ Like.special := by simp [structural, Like.special]
  exact fun h => hc (hsub c h)

theorem read?_special (f : PatternFlags) {c : Char} (hc : c ∈ Like.special) (rest : List Char) :
    Escape.read? f (c :: rest) = some (.letter c, rest) := by
  simp only [Like.special, List.mem_cons, List.not_mem_nil, or_false] at hc
  rcases hc with rfl | rfl | rfl | rfl | rfl | rfl | rfl | rfl | rfl | rfl | rfl | rfl | rfl | rfl |
    rfl | rfl | rfl | rfl <;> rfl

theorem atom?_special (f : PatternFlags) {c : Char} (hc : c ∈ Like.special) (rest : List Char) :
    atom? f ('\\' :: c :: rest) = some (literal f c, rest) := by
  rw [atom?, read?_special f hc]
  rfl

theorem atom?_plain (f : PatternFlags) {c : Char} (hc : c ∉ Like.special) (rest : List Char) :
    atom? f (c :: rest) = some (literal f c, rest) := by
  rw [atom?] <;> rintro rfl <;> exact hc (by decide)

end PatternReader

end FederatedQuery
