/-
  Ranges of characters as sequences of bytes.

  A character takes one to four bytes.  The characters of a range are those whose bytes lie, place by
  place, between the bytes of its first and its last character, provided that the range is cut in
  the right places.

  * `Utf8.bytes`: the bytes of a character;
  * `Utf8.ByteRange`: the bytes that are allowed in one place;
  * `Utf8.sequences`: a range of characters, cut into sequences of such ranges.
-/

namespace FederatedQuery.Utf8

/-- The bytes of the character with a code point. -/
def bytes (n : Nat) : List UInt8 := String.utf8EncodeChar (Char.ofNat n)

/-- The bytes that are allowed in one place. -/
structure ByteRange where
  first : UInt8
  last : UInt8
  deriving DecidableEq, Repr

/-- Cuts a range of code points behind each of the given ones. -/
def cutBehind (first last : Nat) : List Nat → List (Nat × Nat)
  | [] => [(first, last)]
  | n :: ns =>
    if first ≤ n ∧ n < last then (first, n) :: cutBehind (n + 1) last ns
    else cutBehind first last ns

/-- The last code points that take one, two and three bytes. -/
def lengthEnds : List Nat := [0x7f, 0x7ff, 0xffff]

/-- Cuts a range of code points that take the same number of bytes so that, of the last bits, as many
    as a place holds vary freely or not at all.  The given sizes are those of blocks in which the
    last place, the last two and the last three vary. -/
def cutBlocks (first last : Nat) : List Nat → List (Nat × Nat)
  | [] => [(first, last)]
  | size :: sizes =>
    if first / size = last / size then [(first, last)]
    else
      let start := if first % size = 0 then first else (first / size + 1) * size
      let stop := if last % size = size - 1 then last + 1 else last / size * size
      let front := if first < start then [(first, start - 1)] else []
      let middle := if start < stop then cutBlocks start (stop - 1) sizes else []
      let back := if stop ≤ last then [(stop, last)] else []
      front ++ middle ++ back

/-- The sizes of the blocks in which the last place, the last two and the last three vary. -/
def blockSizes : List Nat := [Nat.pow 2 6, Nat.pow 2 12, Nat.pow 2 18]

/-- The byte ranges between two characters that take the same number of bytes. -/
def between (range : Nat × Nat) : List ByteRange :=
  List.zipWith ByteRange.mk (bytes range.1) (bytes range.2)

/-- The characters from `first` to `last` as sequences of byte ranges, in ascending order. -/
def sequences (first last : Nat) : List (List ByteRange) :=
  (cutBehind first last lengthEnds).flatMap fun (first, last) =>
    if last ≤ 0x7f then [between (first, last)]
    else (cutBlocks first last blockSizes).map between

end FederatedQuery.Utf8
