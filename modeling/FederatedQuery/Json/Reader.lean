/-
  Reading JSON values.

  * `Json.Care`: how carefully a value is read.  One that is used nests at most so many levels, its
    strings are texts and its numbers are in range; one that is skipped only has to look right;
  * `Json.value`: reads a value;
  * `Json.document?`: the value that a whole text holds.  Fields of an outermost object that nobody
    asks for are skipped.
-/
import FederatedQuery.Json.Basic
import FederatedQuery.Json.Number
import FederatedQuery.Text.CharReader
import FederatedQuery.Text.Hex

namespace FederatedQuery.Json

/-- How carefully a value is read. -/
inductive Care where
  /-- For a value that is used. -/
  | used
  /-- For a value that is skipped. -/
  | skipped
  deriving DecidableEq, Repr

/-- The blanks between the parts of a value. -/
def isSpace (c : Char) : Bool := c = ' ' || c = '\n' || c = '\t' || c = '\r'

/-- A text without the blanks at its front. -/
def skipSpace (input : List Char) : List Char := input.dropWhile isSpace

theorem length_skipSpace_le (input : List Char) : (skipSpace input).length ≤ input.length :=
  (List.dropWhile_sublist isSpace).length_le

/-! ## Strings -/

/-- The code unit that four hexadecimal digits stand for. -/
def unit? (a b c d : Char) : Option Nat := do
  let a ← Hex.value? a
  let b ← Hex.value? b
  let c ← Hex.value? c
  let d ← Hex.value? d
  some (((a * 16 + b) * 16 + c) * 16 + d)

/-- The character for the code unit of an escape.  The first half of a pair takes the second one
    with it; a half on its own is no character. -/
def ofUnit? (unit : Nat) (rest : List Char) : Option (Char × List Char) :=
  if unit < 0xd800 ∨ 0xdfff < unit then some (Char.ofNat unit, rest)
  else if unit ≤ 0xdbff then
    match rest with
    | '\\' :: 'u' :: a :: b :: c :: d :: rest => do
      let low ← unit? a b c d
      if 0xdc00 ≤ low ∧ low ≤ 0xdfff then
        some (Char.ofNat (0x10000 + (unit - 0xd800) * 0x400 + (low - 0xdc00)), rest)
      else none
    | _ => none
  else none

/-- The character for which an escape stands, after its backslash.  In a string that is skipped half
    a pair is let through. -/
def unescape? (care : Care) : List Char → Option (Char × List Char)
  | '"' :: rest => some ('"', rest)
  | '\\' :: rest => some ('\\', rest)
  | '/' :: rest => some ('/', rest)
  | 'b' :: rest => some ('\x08', rest)
  | 'f' :: rest => some ('\x0c', rest)
  | 'n' :: rest => some ('\n', rest)
  | 'r' :: rest => some ('\r', rest)
  | 't' :: rest => some ('\t', rest)
  | 'u' :: a :: b :: c :: d :: rest => do
    let unit ← unit? a b c d
    match care with
    | .used => ofUnit? unit rest
    | .skipped => some (Char.ofNat unit, rest)
  | _ => none

theorem length_of_ofUnit? {unit : Nat} {input rest : List Char} {c : Char}
    (h : ofUnit? unit input = some (c, rest)) : rest.length ≤ input.length := by
  unfold ofUnit? at h
  repeat' split at h
  · simp at h; simp [h.2]
  · simp only [Option.bind_eq_bind, Option.bind_eq_some_iff] at h
    obtain ⟨low, -, h⟩ := h
    split at h
    · simp at h; simp [← h.2]; omega
    · cases h
  · cases h
  · cases h

theorem length_of_unescape? {care : Care} {input rest : List Char} {c : Char}
    (h : unescape? care input = some (c, rest)) : rest.length < input.length := by
  unfold unescape? at h
  split at h
  case h_9 =>
    simp only [Option.bind_eq_bind, Option.bind_eq_some_iff] at h
    obtain ⟨unit, -, h⟩ := h
    split at h
    · have := length_of_ofUnit? h; simp; omega
    · simp at h; simp [h.2]; omega
  all_goals simp_all

/-- Reads a string after its opening quote, behind the characters of `done` (in reverse). -/
def stringOnto (care : Care) (done : List Char) (input : List Char) (bound : Nat)
    (h : input.length ≤ bound) : Option (String × Shorter bound) :=
  match input with
  | [] => none
  | '"' :: rest => some (String.ofList done.reverse, ⟨rest, by simp at h; omega⟩)
  | '\\' :: rest =>
    match _h : unescape? care rest with
    | none => none
    | some (c, rest') =>
      stringOnto care (c :: done) rest' bound
        (by have := length_of_unescape? _h; simp at h; omega)
  | c :: rest =>
    if c.toNat < 32 then none
    else stringOnto care (c :: done) rest bound (by simp at h; omega)
termination_by input.length
decreasing_by
  · have := length_of_unescape? _h; simp; omega
  · simp

/-! ## Values -/

/-- Reads items with commas between them and the bracket behind them. -/
def itemsOnto (item : CharReader Json) (done : List Json) (input : List Char) (bound : Nat)
    (h : input.length ≤ bound) : Option (List Json × Shorter bound) :=
  match item input with
  | none => none
  | some (v, ⟨rest, shorter⟩) =>
    match _h : skipSpace rest with
    | ']' :: last =>
      some ((v :: done).reverse,
        ⟨last, by have := length_skipSpace_le rest; simp [_h] at this; omega⟩)
    | ',' :: next =>
      itemsOnto item (v :: done) next bound
        (by have := length_skipSpace_le rest; simp [_h] at this; omega)
    | _ => none
termination_by input.length
decreasing_by have := length_skipSpace_le rest; simp [_h] at this; omega

/-- Reads the name of a field and the colon behind it. -/
def fieldName (care : Care) : CharReader String := fun input =>
  match h : skipSpace input with
  | '"' :: rest =>
    match stringOnto care [] rest rest.length (Nat.le_refl _) with
    | none => none
    | some (name, ⟨rest', shorter⟩) =>
      match h' : skipSpace rest' with
      | ':' :: last =>
        some (name, ⟨last, by
          have := length_skipSpace_le rest'
          have := length_skipSpace_le input
          simp_all
          omega⟩)
      | _ => none
  | _ => none

/-- Reads fields with commas between them and the brace behind them; how the value of a field is
    read may depend on its name. -/
def fieldsOnto (care : Care) (field : String → CharReader Json) (done : List (String × Json))
    (input : List Char) (bound : Nat) (h : input.length ≤ bound) :
    Option (List (String × Json) × Shorter bound) :=
  match fieldName care input with
  | none => none
  | some (name, ⟨rest, shorter⟩) =>
    match field name rest with
    | none => none
    | some (v, ⟨rest', shorter'⟩) =>
      match _h : skipSpace rest' with
      | '\x7d' :: last =>
        some (((name, v) :: done).reverse,
          ⟨last, by have := length_skipSpace_le rest'; simp [_h] at this; omega⟩)
      | ',' :: next =>
        fieldsOnto care field ((name, v) :: done) next bound
          (by have := length_skipSpace_le rest'; simp [_h] at this; omega)
      | _ => none
termination_by input.length
decreasing_by have := length_skipSpace_le rest'; simp [_h] at this; omega

/-- Reads what follows the opening bracket of an array. -/
def arrayBody (item : CharReader Json) : CharReader Json := fun input =>
  match h : skipSpace input with
  | ']' :: rest =>
    some (.array [], ⟨rest, by have := length_skipSpace_le input; simp [h] at this; omega⟩)
  | _ => (itemsOnto item [] input input.length (Nat.le_refl _)).map fun (vs, rest) => (.array vs, rest)

/-- Reads what follows the opening brace of an object. -/
def objectBody (care : Care) (field : String → CharReader Json) : CharReader Json := fun input =>
  match h : skipSpace input with
  | '\x7d' :: rest =>
    some (.object [], ⟨rest, by have := length_skipSpace_le input; simp [h] at this; omega⟩)
  | _ =>
    (fieldsOnto care field [] input input.length (Nat.le_refl _)).map fun (fs, rest) =>
      (.object fs, rest)

/-- Reads a number, which has to be in range if it is used. -/
def numberValue (care : Care) : CharReader Json := fun input =>
  match h : Number.read? input with
  | none => none
  | some (n, rest) =>
    if care = .used && !n.fits then none
    else some (.number (String.ofList n.text), ⟨rest, Number.length_of_read? h⟩)

/-- Reads a value without arrays and objects. -/
def scalar (care : Care) : CharReader Json
  | '"' :: rest =>
    (stringOnto care [] rest rest.length (Nat.le_refl _)).map fun (s, ⟨last, shorter⟩) =>
      (.string s, ⟨last, by simp; omega⟩)
  | 'n' :: 'u' :: 'l' :: 'l' :: rest => some (.null, ⟨rest, by simp; omega⟩)
  | 't' :: 'r' :: 'u' :: 'e' :: rest => some (.bool true, ⟨rest, by simp; omega⟩)
  | 'f' :: 'a' :: 'l' :: 's' :: 'e' :: rest => some (.bool false, ⟨rest, by simp; omega⟩)
  | input => numberValue care input

/-- Reads a value after the blanks in front of it, given how an array and an object are read behind
    their first character. -/
def valueWith (care : Care) (array object : CharReader Json) : CharReader Json := fun input =>
  match h : skipSpace input with
  | '[' :: rest =>
    (array rest).map fun (v, ⟨last, shorter⟩) =>
      (v, ⟨last, by have := length_skipSpace_le input; simp [h] at this; omega⟩)
  | '\x7b' :: rest =>
    (object rest).map fun (v, ⟨last, shorter⟩) =>
      (v, ⟨last, by have := length_skipSpace_le input; simp [h] at this; omega⟩)
  | other =>
    (scalar care other).map fun (v, ⟨last, shorter⟩) =>
      (v, ⟨last, by have := length_skipSpace_le input; simp_all; omega⟩)

/-- Reads a value in which arrays and objects nest at most `levels` deep. -/
def value (care : Care) (levels : Nat) : CharReader Json := fun input =>
  match levels with
  | 0 => valueWith care (fun _ => none) (fun _ => none) input
  | levels + 1 =>
    valueWith care (arrayBody (value care levels)) (objectBody care fun _ => value care levels) input

/-- Skips a value, however deeply it nests: a text has no more levels than characters. -/
def skip : CharReader Json := fun input => value .skipped input.length input

/-! ## Documents -/

/-- The greatest number of arrays and objects around a place of a value that is used. -/
def maxDepth : Nat := 127

/-- Nothing but blanks follows. -/
def atEnd (rest : List Char) : Bool := (skipSpace rest).isEmpty

/-- The value that a whole text holds.  If it is an object, the values of the fields not `wanted` are
    only skipped. -/
def document? (wanted : String → Bool) (text : String) : Option Json :=
  let field := fun name => if wanted name then value .used (maxDepth - 1) else skip
  match valueWith .used (arrayBody (value .used (maxDepth - 1))) (objectBody .used field)
      text.toList with
  | some (v, rest) => if atEnd rest.1 then some v else none
  | none => none

end FederatedQuery.Json
