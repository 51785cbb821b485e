/-
  Blank characters.

  * `isBlank`: the characters that separate words, which Unicode calls `White_Space`;
  * `isBlankText`: a text that holds nothing else.
-/
import FederatedQuery.Text.CodePoints

namespace FederatedQuery.Text

/-- The blank characters: line and paragraph ends, tabs and every kind of space. -/
def blank : CodePoints := ⟨[
  9, 14, 32, 33, 133, 134, 160, 161, 5760, 5761, 8192, 8203, 8232, 8234, 8239, 8240, 8287, 8288,
  12288, 12289]⟩

/-- A blank separates words and means nothing else. -/
def isBlank (c : Char) : Bool := blank.contains c

/-- A text is blank when every character of it is; the empty text is blank. -/
def isBlankText (text : String) : Bool := text.toList.all isBlank

end FederatedQuery.Text
