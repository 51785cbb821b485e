/-
  Character classes in brackets.

  * `Bracket.Part`: a class with the number of brackets, unions and operations nested in it;
  * `Bracket.Members`: what has been read of a class so far;
  * `Bracket.range?`: reads a character, a range or a class with a backslash;
  * `Bracket.named?`: reads a class with a name between colons;
  * `Bracket.read`: reads a class behind its opening bracket.
-/
import FederatedQuery.Pattern.Escape
import FederatedQuery.Text.CharReader

namespace FederatedQuery.Bracket

/-- A class, and how deeply brackets, unions and operations nest in it. -/
structure Part where
  class_ : CharClass
  depth : Nat
  deriving DecidableEq, Repr

/-- The operations on two classes, left to right and none before the other. -/
inductive Operation where
  | intersection
  | difference
  | symmetricDifference
  deriving DecidableEq, Repr

/-- The class for an operation. -/
def Operation.apply : Operation → CharClass → CharClass → CharClass
  | intersection => .intersection
  | difference => .difference
  | symmetricDifference => .symmetricDifference

/-- What has been read of a class: perhaps a left operand with its operation, and the members behind
    it (in reverse). -/
structure Members where
  left : Option (Part × Operation) := none
  parts : List Part := []
  deriving Repr

namespace Members

/-- One more member. -/
def add (m : Members) (part : Part) : Members := { m with parts := part :: m.parts }

/-- The members behind the last operation together. -/
def union (m : Members) : Part :=
  match m.parts.reverse with
  | [] => ⟨.nothing, 0⟩
  | [part] => part
  | parts => ⟨.unionAll (parts.map Part.class_), (parts.map Part.depth).foldr max 0 + 1⟩

/-- Everything that has been read, as one class. -/
def part (m : Members) : Part :=
  match m.left with
  | none => m.union
  | some (left, op) =>
    ⟨op.apply left.class_ m.union.class_, max left.depth m.union.depth + 1⟩

/-- Everything that has been read becomes the left operand of an operation. -/
def operate (m : Members) (op : Operation) : Members := { left := some (m.part, op) }

end Members

/-! ## Members -/

/-- A member of a class: a character of its own, or a class. -/
inductive Member where
  | letter (c : Char)
  | class_ (c : CharClass)
  deriving DecidableEq, Repr

/-- Reads a member; boundaries are none. -/
def member? (f : PatternFlags) : List Char → Option (Member × List Char)
  | [] => none
  | '\\' :: rest =>
    match Escape.read? f rest with
    | some (.letter c, rest) => some (.letter c, rest)
    | some (.class_ k, rest) => some (.class_ k, rest)
    | some (.boundary _, _) => none
    | none => none
  | c :: rest => some (.letter c, rest)

/-- The class of the characters from `first` to `last`, in this order.  Without Unicode they have to
    be ASCII. -/
def rangeClass? (f : PatternFlags) (first last : Char) : Option CharClass :=
  if first ≤ last ∧ (f.unicode ∨ last.toNat < 128) then some (f.caseClosure (.range first last))
  else none

/-- The character that decides whether a hyphen in front of it makes a range. -/
def peek (f : PatternFlags) (rest : List Char) : Option Char :=
  if f.verbose then
    match rest.dropWhile Text.isBlank with
    | '#' :: rest => (rest.dropWhile Text.isBlank).head?
    | rest => rest.head?
  else rest.head?

/-- The class of a single member. -/
def single? (f : PatternFlags) : Member → Option CharClass
  | .letter c => rangeClass? f c c
  | .class_ k => some k

/-- Reads a member, or two characters with a hyphen between them.  A hyphen in front of the closing
    bracket or of another hyphen makes no range. -/
def range? (f : PatternFlags) (input : List Char) : Option (CharClass × List Char) := do
  let (first, rest) ← member? f input
  match f.skip rest with
  | [] => none
  | '-' :: behind =>
    if peek f behind = some ']' ∨ peek f behind = some '-' then
      let k ← single? f first
      some (k, '-' :: behind)
    else
      let (last, rest) ← member? f (f.skip behind)
      match first, last with
      | .letter a, .letter b => do
        let k ← rangeClass? f a b
        some (k, rest)
      | _, _ => none
  | behind => do
    let k ← single? f first
    some (k, behind)

/-- Reads a class with a name between colons, behind its opening bracket, and whether its complement
    is meant. -/
def named? : List Char → Option ((CharClass × Bool) × List Char)
  | ':' :: rest => do
    let negated := rest.head? == some '^'
    let rest := if negated then rest.tail else rest
    let k ← CharClass.ofAsciiName? (String.ofList (rest.takeWhile (· ≠ ':')))
    match rest.dropWhile (· ≠ ':') with
    | ':' :: ']' :: rest => some ((k, negated), rest)
    | _ => none
  | _ => none

theorem length_of_member? {f : PatternFlags} {input rest : List Char} {m : Member}
    (h : member? f input = some (m, rest)) : rest.length < input.length := by
  unfold member? at h
  split at h
  · cases h
  · split at h
    · next hr => cases h; have := Escape.length_of_read? hr; simp; omega
    · next hr => cases h; have := Escape.length_of_read? hr; simp; omega
    · cases h
    · cases h
  · cases h; exact Nat.lt_succ_self _

theorem length_of_range? {f : PatternFlags} {input rest : List Char} {k : CharClass}
    (h : range? f input = some (k, rest)) : rest.length < input.length := by
  simp only [range?, Option.bind_eq_bind, Option.bind_eq_some_iff, Prod.exists] at h
  obtain ⟨first, last, hm, h⟩ := h
  have := length_of_member? hm
  have le := f.length_skip_le last
  split at h
  · cases h
  · next behind hs =>
    have := f.length_skip_le behind
    rw [hs, List.length_cons] at le
    split at h
    · simp only [Option.bind_eq_some_iff, Option.some.injEq, Prod.mk.injEq] at h
      obtain ⟨_, -, -, rfl⟩ := h
      simp only [List.length_cons]
      omega
    · simp only [Option.bind_eq_some_iff, Prod.exists] at h
      obtain ⟨second, after, hm', h⟩ := h
      have := length_of_member? hm'
      split at h
      · simp only [Option.bind_eq_some_iff, Option.some.injEq, Prod.mk.injEq] at h
        obtain ⟨_, -, -, rfl⟩ := h
        omega
      · cases h
  · simp only [Option.bind_eq_some_iff, Option.some.injEq, Prod.mk.injEq] at h
    obtain ⟨_, -, -, rfl⟩ := h
    omega

theorem length_of_named? {input rest : List Char} {k : CharClass × Bool}
    (h : named? input = some (k, rest)) : rest.length < input.length := by
  unfold named? at h
  split at h
  · next after =>
    simp only [Option.bind_eq_bind, Option.bind_eq_some_iff] at h
    obtain ⟨_, -, h⟩ := h
    split at h
    · next hd =>
      cases h
      have le := (List.dropWhile_sublist (fun c => decide (c ≠ ':'))
        (l := if after.head? == some '^' then after.tail else after)).length_le
      rw [hd] at le
      simp only [List.length_cons] at le ⊢
      split at le
      · have := List.length_tail (l := after); omega
      · omega
    · cases h
  · cases h

/-! ## Classes -/

/-- Reads members up to the closing bracket, given how a class is read behind an opening bracket. -/
def members (f : PatternFlags) (nested : CharReader Part) (m : Members) (input : List Char)
    (bound : Nat) (h : input.length ≤ bound) : Option (Part × Shorter bound) :=
  match _h : f.skip input with
  | [] => none
  | ']' :: rest =>
    some (m.part, ⟨rest, by have := f.length_skip_le input; simp [_h] at this; omega⟩)
  | '&' :: '&' :: rest =>
    members f nested (m.operate .intersection) rest bound
      (by have := f.length_skip_le input; simp [_h] at this; omega)
  | '-' :: '-' :: rest =>
    members f nested (m.operate .difference) rest bound
      (by have := f.length_skip_le input; simp [_h] at this; omega)
  | '~' :: '~' :: rest =>
    members f nested (m.operate .symmetricDifference) rest bound
      (by have := f.length_skip_le input; simp [_h] at this; omega)
  | '[' :: rest =>
    match hn : named? rest with
    | some ((k, negated), after) =>
      match f.complementIf? negated (f.caseClosure k) with
      | some k =>
        members f nested (m.add ⟨k, 0⟩) after bound
          (by
            have := f.length_skip_le input
            have := length_of_named? hn
            simp [_h] at *
            omega)
      | none => none
    | none =>
      match nested rest with
      | some (part, ⟨after, shorter⟩) =>
        members f nested (m.add part) after bound
          (by have := f.length_skip_le input; simp [_h] at this; omega)
      | none => none
  | c :: rest =>
    match hr : range? f (c :: rest) with
    | some (k, after) =>
      members f nested (m.add ⟨k, 0⟩) after bound
        (by
          have := f.length_skip_le input
          have := length_of_range? hr
          simp [_h] at *
          omega)
    | none => none
termination_by input.length
decreasing_by
  · have := f.length_skip_le input; simp [_h] at this; omega
  · have := f.length_skip_le input; simp [_h] at this; omega
  · have := f.length_skip_le input; simp [_h] at this; omega
  · have := f.length_skip_le input
    have := length_of_named? hn
    simp [_h] at *
    omega
  · have := f.length_skip_le input; simp [_h] at this; omega
  · have := f.length_skip_le input
    have := length_of_range? hr
    simp [_h] at *
    omega

/-- Reads the hyphens with which a class begins; they stand for themselves. -/
def hyphens (f : PatternFlags) (m : Members) (input : List Char) : Members × List Char :=
  match input with
  | '-' :: rest => hyphens f (m.add ⟨f.letter '-', 0⟩) (f.skip rest)
  | input => (m, input)
termination_by input.length
decreasing_by have := f.length_skip_le rest; simp; omega

/-- Reads what may stand in front of the members only: hyphens, or a closing bracket that stands for
    itself. -/
def front (f : PatternFlags) (input : List Char) : Members × List Char :=
  match hyphens f {} input with
  | (m, ']' :: rest) =>
    if m.parts.isEmpty then (m.add ⟨f.letter ']', 0⟩, f.skip rest)
    else (m, ']' :: rest)
  | (m, input) => (m, input)

theorem length_hyphens_le (f : PatternFlags) (m : Members) (input : List Char) :
    (hyphens f m input).2.length ≤ input.length := by
  fun_induction hyphens f m input with
  | case1 _ rest ih => have := f.length_skip_le rest; simp; omega
  | case2 => exact Nat.le_refl _

theorem length_front_le (f : PatternFlags) (input : List Char) :
    (front f input).2.length ≤ input.length := by
  have le := length_hyphens_le f {} input
  unfold front
  split
  · next m rest hh =>
    have := f.length_skip_le rest
    simp [hh] at le
    split <;> simp <;> omega
  · next hh => simp [hh] at le; exact le

/-- Reads a class behind its opening bracket, in which at most `levels` brackets nest. -/
def read (f : PatternFlags) (levels : Nat) : CharReader Part := fun input =>
  match levels with
  | 0 => none
  | levels + 1 =>
    let opened := f.skip input
    let negated := opened.head? == some '^'
    let body := front f (if negated then f.skip opened.tail else opened)
    match members f (read f levels) body.1 body.2 input.length (by
      have := f.length_skip_le input
      have := f.length_skip_le (f.skip input).tail
      refine Nat.le_trans (length_front_le f _) ?_
      simp only [opened]
      split <;> simp at * <;> omega) with
    | none => none
    | some (part, rest) =>
      (f.complementIf? negated part.class_).map fun k => (⟨k, part.depth + 1⟩, rest)

end FederatedQuery.Bracket
