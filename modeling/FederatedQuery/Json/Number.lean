/-
  Numbers as JSON writes them.

  A number is an integer without needless zeros, perhaps with a sign, a fraction and an exponent.

  * `Json.Number.read?`: the parts of the number at the front of a text;
  * `Json.Number.round53`, `Json.Number.inRange`, `Json.Number.fits`: whether it is within the range
    of a binary floating-point number of 64 bits;
  * `Json.Number.nat?`: the natural number that it writes out in digits.
-/
import FederatedQuery.Text.Decimal

namespace FederatedQuery.Json

/-- The parts of a written number. -/
structure Number where
  /-- The minus sign, if there is one. -/
  sign : List Char
  /-- The digits before the point. -/
  whole : List Char
  /-- The digits behind the point; a number without a point has none. -/
  fraction : List Char
  /-- The letter and the sign with which an exponent begins. -/
  mark : List Char
  /-- The digits of the exponent; a number without an exponent has none. -/
  exponent : List Char
  deriving DecidableEq, Repr

namespace Number

/-- The number as it is written. -/
def text (n : Number) : List Char :=
  n.sign ++ n.whole ++ (if n.fraction.isEmpty then [] else '.' :: n.fraction) ++ n.mark ++ n.exponent

/-- Splits off the digits at the front; there has to be one. -/
def digits? (input : List Char) : Option (List Char × List Char) :=
  match input.takeWhile Char.isDigit with
  | [] => none
  | ds => some (ds, input.dropWhile Char.isDigit)

/-- Splits off a minus sign, if there is one. -/
def splitSign : List Char → List Char × List Char
  | '-' :: rest => (['-'], rest)
  | input => ([], input)

/-- Splits off the digits of an integer: a zero stands alone. -/
def whole? : List Char → Option (List Char × List Char)
  | '0' :: rest => some (['0'], rest)
  | input => digits? input

/-- Splits off a point and the digits behind it, if there is one. -/
def fraction? : List Char → Option (List Char × List Char)
  | '.' :: rest => digits? rest
  | input => some ([], input)

/-- Splits off the letter and the sign of an exponent, if there is one. -/
def splitMark : List Char → List Char × List Char
  | 'e' :: '+' :: rest => (['e', '+'], rest)
  | 'e' :: '-' :: rest => (['e', '-'], rest)
  | 'e' :: rest => (['e'], rest)
  | 'E' :: '+' :: rest => (['E', '+'], rest)
  | 'E' :: '-' :: rest => (['E', '-'], rest)
  | 'E' :: rest => (['E'], rest)
  | input => ([], input)

/-- Splits off the exponent, if there is one. -/
def exponent? (input : List Char) : Option ((List Char × List Char) × List Char) :=
  match splitMark input with
  | ([], rest) => some (([], []), rest)
  | (letter, rest) => (digits? rest).map fun (ds, rest) => ((letter, ds), rest)

/-- The number at the front of a text, and what follows it. -/
def read? (input : List Char) : Option (Number × List Char) := do
  let (sign, rest) := splitSign input
  let (whole, rest) ← whole? rest
  let (fraction, rest) ← fraction? rest
  let ((mark, exponent), rest) ← exponent? rest
  some ({ sign, whole, fraction, mark, exponent }, rest)

theorem length_of_digits? {input ds rest : List Char} (h : digits? input = some (ds, rest)) :
    rest.length < input.length := by
  have all : input.takeWhile Char.isDigit ++ input.dropWhile Char.isDigit = input :=
    List.takeWhile_append_dropWhile
  unfold digits? at h
  split at h
  · cases h
  · next some_digit =>
    simp only [Option.some.injEq, Prod.mk.injEq] at h
    have := congrArg List.length all
    simp only [List.length_append, h.2] at this
    have := List.length_pos_iff.2 some_digit
    omega

theorem length_splitSign_le (input : List Char) : (splitSign input).2.length ≤ input.length := by
  unfold splitSign
  split <;> simp

theorem length_of_whole? {input ds rest : List Char} (h : whole? input = some (ds, rest)) :
    rest.length < input.length := by
  unfold whole? at h
  split at h
  · simp at h; simp [h.2]
  · exact length_of_digits? h

theorem length_of_fraction? {input ds rest : List Char} (h : fraction? input = some (ds, rest)) :
    rest.length ≤ input.length := by
  unfold fraction? at h
  split at h
  · have := length_of_digits? h; simp; omega
  · simp at h; simp [h.2]

theorem length_splitMark_le (input : List Char) : (splitMark input).2.length ≤ input.length := by
  unfold splitMark
  split <;> simp <;> omega

theorem length_of_exponent? {input rest : List Char} {e : List Char × List Char}
    (h : exponent? input = some (e, rest)) : rest.length ≤ input.length := by
  have le := length_splitMark_le input
  unfold exponent? at h
  split at h
  · next he => simp [he] at le; simp at h; simp [← h.2, le]
  · next he =>
    simp only [Option.map_eq_some_iff, Prod.mk.injEq] at h
    obtain ⟨⟨ds, rest'⟩, hd, -, rfl⟩ := h
    have := length_of_digits? hd
    simp [he] at le
    simp only
    omega

/-- A number takes at least one character. -/
theorem length_of_read? {input rest : List Char} {n : Number} (h : read? input = some (n, rest)) :
    rest.length < input.length := by
  simp only [read?, Option.bind_eq_bind, Option.bind_eq_some_iff, Option.some.injEq,
    Prod.mk.injEq, Prod.exists] at h
  obtain ⟨_, _, hw, _, _, hf, _, _, _, he, -, rfl⟩ := h
  have := length_splitSign_le input
  have := length_of_whole? hw
  have := length_of_fraction? hf
  have := length_of_exponent? he
  omega

/-! ## Range -/

/-- The number nearest to `n` that has at most 53 binary digits before its zeros; of two that are as
    near, the one that is even in front of its zeros. -/
def round53 (n : Nat) : Nat :=
  let zeros := n.log2 + 1 - 53
  let unit := Nat.pow 2 zeros
  let kept := n / unit
  let lost := 2 * (n % unit)
  if unit < lost ∨ lost = unit ∧ kept % 2 = 1 then (kept + 1) * unit else kept * unit

/-- Whether a significand times a power of ten is within the range of floating-point numbers of 64
    bits.  Both factors are rounded to such numbers first. -/
def inRange (significand : Nat) (power : Int) : Bool :=
  significand = 0 || power < 0
    || power ≤ 308 &&
      round53 significand * round53 (Nat.pow 10 power.toNat) < Nat.pow 2 1024 - Nat.pow 2 970

/-- Appends digits to those that denote `n`, as long as the number stays below `2 ^ 64`, and returns
    the remaining ones with it. -/
def gather (n : Nat) : List Char → Nat × List Char
  | [] => (n, [])
  | d :: digits =>
    let next := 10 * n + (d.toNat - '0'.toNat)
    if next < Nat.pow 2 64 then gather next digits else (n, d :: digits)

/-- Whether the number is within the range of floating-point numbers of 64 bits.  Its significand
    takes digits before and behind the point, on either side until one does not fit. -/
def fits (n : Number) : Bool :=
  let (whole, dropped) := gather 0 n.whole
  let (significand, ignored) := gather whole n.fraction
  let point : Int := dropped.length + ignored.length - n.fraction.length
  match n.mark.contains '-', Decimal.read? (Nat.pow 2 31 - 1) n.exponent with
  | true, some e => inRange significand (point - e)
  | false, some e => inRange significand (point + e)
  | true, none => true
  | false, none => significand = 0

/-- The natural number up to `max` that is written out in digits, without sign, point or exponent. -/
def nat? (max : Nat) (literal : String) : Option Nat :=
  match literal.toList with
  | [] => none
  | ds => if ds.all Char.isDigit then Decimal.read? max ds else none

end Number

end FederatedQuery.Json
