/-
  Reading off the front of a text.

  * `CharReader`: a function that reads something off the front of a text, which makes it shorter.
    The type says so, and reading in a loop ends for that reason;
  * `CharReader.bare`: what is read and what is left, where it does not matter that this is shorter.
-/

namespace FederatedQuery

/-- What is left of a text of `bound` characters after something was read off its front. -/
abbrev Shorter (bound : Nat) := { rest : List Char // rest.length < bound }

/-- Reads something off the front of a text. -/
abbrev CharReader (α : Type) := (input : List Char) → Option (α × Shorter input.length)

namespace CharReader

variable {α : Type} {P : List Char → Prop}

/-- What is read and what is left, without a proof about what is left. -/
def bare (x : Option (α × { rest : List Char // P rest })) : Option (α × List Char) :=
  x.map fun (a, rest) => (a, rest.1)

@[simp] theorem bare_none : bare (none : Option (α × { rest : List Char // P rest })) = none := rfl

@[simp] theorem bare_some (a : α) (rest : { rest : List Char // P rest }) :
    bare (some (a, rest)) = some (a, rest.1) := rfl

theorem bare_eq_none {x : Option (α × { rest : List Char // P rest })} :
    bare x = none ↔ x = none := Option.map_eq_none_iff

theorem bare_eq_some {x : Option (α × { rest : List Char // P rest })} {a : α} {rest : List Char} :
    bare x = some (a, rest) ↔ ∃ h, x = some (a, ⟨rest, h⟩) := by
  rcases x with _ | ⟨b, rest', h'⟩
  · simp
  · simp only [bare_some, Option.some.injEq, Prod.mk.injEq, Subtype.mk.injEq]
    exact ⟨fun h => ⟨h.2 ▸ h', h⟩, fun ⟨_, h⟩ => h⟩

/-- Another proof about what is left changes nothing. -/
theorem bare_weaken {Q : List Char → Prop} (x : Option (α × { rest : List Char // P rest }))
    (h : ∀ rest, P rest → Q rest) :
    bare (x.map fun (a, ⟨rest, hr⟩) => (a, (⟨rest, h rest hr⟩ : { rest : List Char // Q rest }))) =
      bare x := by
  cases x <;> rfl

/-- The characters up to the first one outside `p`. -/
theorem takeWhile_append_of_head {α : Type} {p : α → Bool} {l rest : List α} (hl : ∀ a ∈ l, p a)
    (hr : ∀ a ∈ rest.head?, p a = false) :
    (l ++ rest).takeWhile p = l ∧ (l ++ rest).dropWhile p = rest := by
  rw [List.takeWhile_append_of_pos hl, List.dropWhile_append_of_pos hl]
  cases rest with
  | nil => simp
  | cons a rest =>
    have ha : p a = false := hr a rfl
    simp [ha]

end CharReader

end FederatedQuery
