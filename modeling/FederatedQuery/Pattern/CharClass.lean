/-
  Character classes of patterns.

  * `CharClass`: a set of characters, as a pattern describes it, and `CharClass.contains`;
  * `CharClass.letter`, `.variants`: the class of a single character, and of its case variants;
  * `CharClass.digit`, `.space`, `.word` and their ASCII counterparts: the classes with a letter;
  * `CharClass.ofAsciiName?`: the classes with a name between colons.
-/
import FederatedQuery.Text.Alphanumeric
import FederatedQuery.Text.Blank
import FederatedQuery.Text.CaseFold
import FederatedQuery.Text.Category.Mark
import FederatedQuery.Text.Category.Number
import FederatedQuery.Text.Category.Other
import FederatedQuery.Text.Category.Punctuation

namespace FederatedQuery

/-- A set of characters. -/
inductive CharClass where
  | nothing
  /-- The characters from `first` to `last`. -/
  | range (first last : Char)
  /-- The characters of a property. -/
  | points (set : CodePoints)
  /-- The case variants of a character. -/
  | variants (c : Char)
  /-- The characters of which the class has a case variant. -/
  | anyCase (c : CharClass)
  /-- The same for ASCII letters alone. -/
  | anyAsciiCase (c : CharClass)
  | complement (c : CharClass)
  | union (c d : CharClass)
  | intersection (c d : CharClass)
  | difference (c d : CharClass)
  | symmetricDifference (c d : CharClass)
  deriving DecidableEq, Repr

namespace CharClass

/-- The ASCII letter with the other case; every other character as it is. -/
def swapAsciiCase (c : Char) : Char := if c.isUpper then c.toLower else c.toUpper

/-- Whether a character is in the class. -/
def contains : CharClass → Char → Bool
  | nothing, _ => false
  | range first last, x => first ≤ x && x ≤ last
  | points set, x => set.contains x
  | variants c, x => Text.fold x == Text.fold c
  | anyCase c, x => (Text.caseVariants x).any c.contains
  | anyAsciiCase c, x => c.contains x || c.contains (swapAsciiCase x)
  | complement c, x => !c.contains x
  | union c d, x => c.contains x || d.contains x
  | intersection c d, x => c.contains x && d.contains x
  | difference c d, x => c.contains x && !d.contains x
  | symmetricDifference c d, x => c.contains x != d.contains x

/-- The class of one character. -/
def letter (c : Char) : CharClass := range c c

/-- The class of every character. -/
def anything : CharClass := complement nothing

/-- The union of several classes. -/
def unionAll (cs : List CharClass) : CharClass := cs.foldr union nothing

/-! ## Classes with a letter -/

/-- The characters that join or separate their neighbours without a width. -/
def joinControl : CharClass := range '\u200c' '\u200d'

/-- Decimal digits. -/
def digit : CharClass := points Category.decimalNumber

/-- Blanks. -/
def space : CharClass := points Text.blank

/-- The alphabetic characters that have a general category.  The categories, which the classes of
    patterns go by, leave out characters that the letters of words take in already. -/
def alphabetic : CharClass := difference (points Text.alphabetic) (points Category.unassigned)

/-- The characters of words: letters, marks, decimal digits, connectors and join controls. -/
def word : CharClass :=
  unionAll [alphabetic, points Category.nonspacingMark, points Category.spacingMark,
    points Category.enclosingMark, digit, points Category.connectorPunctuation, joinControl]

/-- The ASCII letters. -/
def asciiAlpha : CharClass := union (range 'a' 'z') (range 'A' 'Z')

/-- The ASCII digits. -/
def asciiDigit : CharClass := range '0' '9'

/-- The ASCII blanks. -/
def asciiSpace : CharClass := union (letter ' ') (range '\t' '\r')

/-- The ASCII letters and digits. -/
def asciiAlnum : CharClass := union asciiAlpha asciiDigit

/-- The ASCII letters and digits and the low line. -/
def asciiWord : CharClass := union asciiAlnum (letter '_')

/-! ## Classes with a name -/

/-- The class that has the given name between colons. -/
def ofAsciiName? (name : String) : Option CharClass :=
  [("alnum", asciiAlnum), ("alpha", asciiAlpha), ("ascii", range '\x00' '\x7f'),
    ("blank", union (letter ' ') (letter '\t')),
    ("cntrl", union (range '\x00' '\x1f') (letter '\x7f')), ("digit", asciiDigit),
    ("graph", range '!' '~'), ("lower", range 'a' 'z'), ("print", range ' ' '~'),
    ("punct", difference (range '!' '~') asciiAlnum), ("space", asciiSpace),
    ("upper", range 'A' 'Z'), ("word", asciiWord),
    ("xdigit", unionAll [asciiDigit, range 'a' 'f', range 'A' 'F'])].lookup name

end CharClass

end FederatedQuery
