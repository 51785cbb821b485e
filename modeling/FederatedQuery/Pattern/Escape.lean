/-
  What stands behind a backslash in a pattern.

  * `Escape`: a character, a class or a boundary;
  * `Escape.read?`: reads one behind its backslash.
-/
import FederatedQuery.Pattern.Basic
import FederatedQuery.Pattern.Flags
import FederatedQuery.Pattern.Property
import FederatedQuery.Text.Decimal
import FederatedQuery.Text.Hex

namespace FederatedQuery

/-- What stands behind a backslash. -/
inductive Escape where
  /-- The character itself. -/
  | letter (c : Char)
  | class_ (c : CharClass)
  | boundary (b : Boundary)
  deriving DecidableEq, Repr

namespace PatternFlags

/-- The class with all case variants, if letter case does not count. -/
def caseClosure (f : PatternFlags) (c : CharClass) : CharClass :=
  if f.ignoreCase then (if f.unicode then .anyCase c else .anyAsciiCase c) else c

/-- The class of a character, with its case variants if letter case does not count. -/
def letter (f : PatternFlags) (c : Char) : CharClass :=
  if f.ignoreCase && f.unicode then .variants c else f.caseClosure (.letter c)

/-- The complement of a class, if it is asked for.  Without Unicode there would be characters of a
    single byte in it that are none, so it is refused. -/
def complementIf? (f : PatternFlags) (negated : Bool) (c : CharClass) : Option CharClass :=
  if negated then (if f.unicode then some (.complement c) else none) else some c

/-- The class of word characters. -/
def wordClass (f : PatternFlags) : CharClass := if f.unicode then .word else .asciiWord

end PatternFlags

namespace Escape

/-! ## Numbers -/

/-- The character with a code point, if there is one. -/
def charOf? (n : Nat) : Option Char := if h : n.isValidChar then some (Char.ofNatAux n h) else none

/-- Reads a fixed number of hexadecimal digits behind those that denote `n`. -/
def fixedHex? (f : PatternFlags) : Nat → Nat → List Char → Option (Nat × List Char)
  | 0, n, input => some (n, input)
  | _ + 1, _, [] => none
  | digits + 1, n, c :: rest =>
    match Hex.value? c with
    | some d => fixedHex? f digits (n * 16 + d) (f.skip rest)
    | none => none

/-- Reads hexadecimal digits up to a closing brace, behind `digits` ones that denote `n`. -/
def braceHex? (f : PatternFlags) (digits n : Nat) (input : List Char) : Option (Nat × List Char) :=
  match input with
  | [] => none
  | c :: rest =>
    if c = '\x7d' then (if digits = 0 then none else some (n, f.skip rest))
    else
      match Hex.value? c with
      | some d => braceHex? f (digits + 1) (min (n * 16 + d) 0x110000) (f.skip rest)
      | none => none
termination_by input.length
decreasing_by have := f.length_skip_le rest; simp; omega

/-- Reads a number in hexadecimal digits: in braces, or as many as `digits`. -/
def hexNumber? (f : PatternFlags) (digits : Nat) (input : List Char) : Option (Nat × List Char) :=
  match f.skip input with
  | '\x7b' :: rest => braceHex? f 0 0 (f.skip rest)
  | input => fixedHex? f digits 0 input

/-- Reads the number of a character in hexadecimal digits. -/
def hexChar? (f : PatternFlags) (digits : Nat) (input : List Char) : Option (Char × List Char) := do
  let (n, rest) ← hexNumber? f digits input
  let c ← charOf? n
  some (c, rest)

theorem length_of_fixedHex? {f : PatternFlags} {digits n m : Nat} {input rest : List Char}
    (h : fixedHex? f digits n input = some (m, rest)) : rest.length ≤ input.length := by
  fun_induction fixedHex? f digits n input with
  | case1 => simp at h; simp [h.2]
  | case2 => cases h
  | case3 _ _ _ rest' _ _ ih => have := ih h; have := f.length_skip_le rest'; simp; omega
  | case4 => cases h

theorem length_of_braceHex? {f : PatternFlags} {digits n m : Nat} {input rest : List Char}
    (h : braceHex? f digits n input = some (m, rest)) : rest.length ≤ input.length := by
  fun_induction braceHex? f digits n input with
  | case1 => cases h
  | case2 => simp at h
  | case3 _ _ rest' => simp at h; have := f.length_skip_le rest'; simp [← h.2]; omega
  | case4 _ _ _ rest' _ _ _ ih => have := ih h; have := f.length_skip_le rest'; simp; omega
  | case5 => cases h

theorem length_of_hexNumber? {f : PatternFlags} {digits n : Nat} {input rest : List Char}
    (h : hexNumber? f digits input = some (n, rest)) : rest.length ≤ input.length := by
  have := f.length_skip_le input
  unfold hexNumber? at h
  split at h
  · next inner hs =>
    have := length_of_braceHex? h
    have := f.length_skip_le inner
    simp [hs] at *
    omega
  · have := length_of_fixedHex? h; omega

theorem length_of_hexChar? {f : PatternFlags} {digits : Nat} {input rest : List Char} {c : Char}
    (h : hexChar? f digits input = some (c, rest)) : rest.length ≤ input.length := by
  simp only [hexChar?, Option.bind_eq_bind, Option.bind_eq_some_iff, Option.some.injEq,
    Prod.mk.injEq, Prod.exists] at h
  obtain ⟨n, last, h, _, -, -, rfl⟩ := h
  exact length_of_hexNumber? h

/-! ## Classes -/

/-- Reads up to a closing brace, behind the characters of `done` (in reverse). -/
def braced? (f : PatternFlags) (done : List Char) (input : List Char) :
    Option (List Char × List Char) :=
  match input with
  | [] => none
  | c :: rest => if c = '\x7d' then some (done.reverse, rest) else braced? f (c :: done) (f.skip rest)
termination_by input.length
decreasing_by have := f.length_skip_le rest; simp; omega

/-- Reads the description of a property: one letter, or a text in braces. -/
def description? (f : PatternFlags) (input : List Char) : Option (List Char × List Char) :=
  match f.skip input with
  | [] => none
  | '\x7b' :: rest => braced? f [] (f.skip rest)
  | '\\' :: _ => none
  | c :: rest => some ([c], f.skip rest)

/-- Reads the class of a property, or its complement. -/
def property? (f : PatternFlags) (negated : Bool) (input : List Char) :
    Option (CharClass × List Char) := do
  let (description, rest) ← description? f input
  let (c, other) ← Property.find? description
  if f.unicode then
    let c ← f.complementIf? (negated != other) (f.caseClosure c)
    some (c, rest)
  else none

theorem length_of_braced? {f : PatternFlags} {done input text rest : List Char}
    (h : braced? f done input = some (text, rest)) : rest.length ≤ input.length := by
  fun_induction braced? f done input with
  | case1 => cases h
  | case2 => simp at h; simp [h.2]
  | case3 _ _ rest' _ ih => have := ih h; have := f.length_skip_le rest'; simp; omega

theorem length_of_property? {f : PatternFlags} {negated : Bool} {input rest : List Char}
    {c : CharClass} (h : property? f negated input = some (c, rest)) :
    rest.length ≤ input.length := by
  simp only [property?, Option.bind_eq_bind, Option.bind_eq_some_iff, Prod.exists] at h
  obtain ⟨text, last, hd, d, _, -, h⟩ := h
  have le : last.length ≤ input.length := by
    have := f.length_skip_le input
    unfold description? at hd
    split at hd
    · cases hd
    · next inner hs =>
      have := length_of_braced? hd
      have := f.length_skip_le inner
      simp [hs] at *
      omega
    · cases hd
    · next inner _ _ hs =>
      have := f.length_skip_le inner
      simp [hs] at *
      simp [← hd.2]
      omega
  split at h
  · simp only [Option.bind_eq_some_iff, Option.some.injEq, Prod.mk.injEq] at h
    obtain ⟨_, -, -, rfl⟩ := h
    exact le
  · cases h

/-- The class with a letter; a capital stands for its complement. -/
def letterClass? (f : PatternFlags) : Char → Option CharClass
  | 'd' => some (if f.unicode then .digit else .asciiDigit)
  | 's' => some (if f.unicode then .space else .asciiSpace)
  | 'w' => some f.wordClass
  | 'D' => f.complementIf? true .digit
  | 'S' => f.complementIf? true .space
  | 'W' => f.complementIf? true .word
  | _ => none

/-! ## Boundaries -/

/-- The boundaries with a name in braces. -/
def namedBoundary? (word : CharClass) (name : List Char) : Option Boundary :=
  [("start", Boundary.wordStart word), ("end", .wordEnd word),
    ("start-half", .wordStartHalf word), ("end-half", .wordEndHalf word)].lookup
      (String.ofList name)

/-- The characters of which the names of boundaries consist. -/
def inBoundaryName (c : Char) : Bool := c.isAlpha || c = '-'

/-- Reads the rest of a boundary's name, up to a closing brace. -/
def boundaryName? (f : PatternFlags) (done : List Char) (input : List Char) :
    Option (List Char × List Char) :=
  match input with
  | [] => none
  | c :: rest =>
    if inBoundaryName c then boundaryName? f (c :: done) (f.skip rest)
    else if c = '\x7d' then some (done.reverse, rest)
    else none
termination_by input.length
decreasing_by have := f.length_skip_le rest; simp; omega

/-- Reads the kind of word boundary behind its letter.  A brace that is not followed by a name
    belongs to a repetition. -/
def wordBoundary? (f : PatternFlags) : List Char → Option (Boundary × List Char)
  | '\x7b' :: rest =>
    match f.skip rest with
    | [] => none
    | c :: inner =>
      if inBoundaryName c then do
        let (name, rest) ← boundaryName? f [] (c :: inner)
        let b ← namedBoundary? f.wordClass name
        some (b, rest)
      else some (.wordEdge f.wordClass, '\x7b' :: rest)
  | rest => some (.wordEdge f.wordClass, rest)

theorem length_of_boundaryName? {f : PatternFlags} {done input name rest : List Char}
    (h : boundaryName? f done input = some (name, rest)) : rest.length ≤ input.length := by
  fun_induction boundaryName? f done input with
  | case1 => cases h
  | case2 _ _ rest' _ ih => have := ih h; have := f.length_skip_le rest'; simp; omega
  | case3 => simp at h; simp [h.2]
  | case4 => cases h

theorem length_of_wordBoundary? {f : PatternFlags} {input rest : List Char} {b : Boundary}
    (h : wordBoundary? f input = some (b, rest)) : rest.length ≤ input.length := by
  unfold wordBoundary? at h
  split at h
  · next inner =>
    have := f.length_skip_le inner
    split at h
    · cases h
    · next hs =>
      split at h
      · simp only [Option.bind_eq_bind, Option.bind_eq_some_iff, Option.some.injEq,
          Prod.mk.injEq, Prod.exists] at h
        obtain ⟨_, _, h, _, -, -, rfl⟩ := h
        have := length_of_boundaryName? h
        simp [hs] at *
        omega
      · simp at h; simp [← h.2]
  · simp at h; simp [h.2]

/-! ## Escapes -/

/-- The characters for which a backslash and a letter stand. -/
def control? : Char → Option Char
  | 'a' => some '\x07'
  | 'f' => some '\x0c'
  | 't' => some '\t'
  | 'n' => some '\n'
  | 'r' => some '\r'
  | 'v' => some '\x0b'
  | _ => none

/-- Boundaries with a character of their own. -/
def plainBoundary? (f : PatternFlags) : Char → Option Boundary
  | 'A' => some .textStart
  | 'z' => some .textEnd
  | 'B' => some (.noWordEdge f.wordClass)
  | '<' => some (.wordStart f.wordClass)
  | '>' => some (.wordEnd f.wordClass)
  | _ => none

/-- Behind a backslash, an ASCII character that is no letter or digit stands for itself. -/
def standsForItself (c : Char) : Bool :=
  c.toNat < 128 && !c.isAlphanum && c ≠ '<' && c ≠ '>'

/-- Reads what stands behind a backslash. -/
def read? (f : PatternFlags) : List Char → Option (Escape × List Char)
  | [] => none
  | 'x' :: rest => do
    let (c, after) ← hexChar? f 2 rest
    -- without Unicode two digits are a byte, and bytes above 127 are no characters
    if f.unicode ∨ c.toNat < 128 ∨ (f.skip rest).head? = some '\x7b' then some (letter c, after)
    else none
  | 'u' :: rest => (hexChar? f 4 rest).map fun (c, rest) => (letter c, rest)
  | 'U' :: rest => (hexChar? f 8 rest).map fun (c, rest) => (letter c, rest)
  | 'p' :: rest => (property? f false rest).map fun (c, rest) => (class_ c, rest)
  | 'P' :: rest => (property? f true rest).map fun (c, rest) => (class_ c, rest)
  | 'b' :: rest => (wordBoundary? f rest).map fun (b, rest) => (boundary b, rest)
  | c :: rest =>
    if c ∈ ['d', 's', 'w', 'D', 'S', 'W'] then (letterClass? f c).map fun k => (class_ k, rest)
    else if standsForItself c then some (letter c, rest)
    else
      match control? c, plainBoundary? f c with
      | some c, _ => some (letter c, rest)
      | none, some b => some (boundary b, rest)
      | none, none => none

theorem exists_of_map {α β : Type} {g : α → β} {found : Option (α × List Char)} {b : β}
    {rest : List Char} (h : (found.map fun (a, rest) => (g a, rest)) = some (b, rest)) :
    ∃ a, found = some (a, rest) := by
  obtain ⟨⟨a, last⟩, rfl, h⟩ := Option.map_eq_some_iff.1 h
  cases h
  exact ⟨a, rfl⟩

/-- An escape takes at least one character. -/
theorem length_of_read? {f : PatternFlags} {input rest : List Char} {e : Escape}
    (h : read? f input = some (e, rest)) : rest.length < input.length := by
  unfold read? at h
  split at h
  · cases h
  · simp only [Option.bind_eq_bind, Option.bind_eq_some_iff, Prod.exists] at h
    obtain ⟨c, last, h, h'⟩ := h
    have := length_of_hexChar? h
    split at h'
    · simp at h'; simp [← h'.2]; omega
    · cases h'
  · obtain ⟨c, h⟩ := exists_of_map h; have := length_of_hexChar? h; simp; omega
  · obtain ⟨c, h⟩ := exists_of_map h; have := length_of_hexChar? h; simp; omega
  · obtain ⟨c, h⟩ := exists_of_map h; have := length_of_property? h; simp; omega
  · obtain ⟨c, h⟩ := exists_of_map h; have := length_of_property? h; simp; omega
  · obtain ⟨c, h⟩ := exists_of_map h; have := length_of_wordBoundary? h; simp; omega
  · split at h
    · obtain ⟨k, -, h⟩ := Option.map_eq_some_iff.1 h
      cases h
      exact Nat.lt_succ_self _
    · split at h
      · cases h; exact Nat.lt_succ_self _
      · split at h
        · cases h; exact Nat.lt_succ_self _
        · cases h; exact Nat.lt_succ_self _
        · cases h

end Escape

end FederatedQuery
