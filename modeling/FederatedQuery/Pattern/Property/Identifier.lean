/-
  What names are made of.

  * `Property.idStart`, `.idContinue`: the characters at the front of a name and within one;
  * `Property.xidStart`, `.xidContinue`: those of them for which this does not change when characters
    are replaced by equivalent ones;
  * `Property.patternSyntax`, `.patternWhiteSpace`: what names never contain;
  * `Property.idCompatMathStart`, `.idCompatMathContinue`: signs of mathematics in names.
-/
import FederatedQuery.Pattern.CharClass
import FederatedQuery.Text.Category.Letter
import FederatedQuery.Text.Category.Mark
import FederatedQuery.Text.Category.Number
import FederatedQuery.Text.Category.Punctuation

namespace FederatedQuery.Property

/-- Characters that are kept for syntax. -/
def patternSyntax : CodePoints := ⟨[
  33, 48, 58, 65, 91, 95, 96, 97, 123, 127, 161, 168, 169, 170, 171, 173, 174, 175, 176, 178, 182,
  183, 187, 188, 191, 192, 215, 216, 247, 248, 8208, 8232, 8240, 8255, 8257, 8276, 8277, 8287,
  8592, 9312, 9472, 10102, 10132, 11264, 11776, 11904, 12289, 12292, 12296, 12321, 12336, 12337,
  64830, 64832, 65093, 65095]⟩

/-- Characters that separate in syntax. -/
def patternWhiteSpace : CodePoints := ⟨[
  9, 14, 32, 33, 133, 134, 8206, 8208, 8232, 8234]⟩

/-- Characters that begin names though they are no letters. -/
def otherIdStart : CodePoints := ⟨[
  6277, 6279, 8472, 8473, 8494, 8495, 12443, 12445]⟩

/-- Characters within names that are no letters, marks, digits or connectors. -/
def otherIdContinue : CodePoints := ⟨[
  183, 184, 903, 904, 4969, 4978, 6618, 6619, 8204, 8206, 12539, 12540, 65381, 65382]⟩

/-- The characters at the front of names. -/
def idStart : CharClass :=
  .difference (.unionAll [.points Category.uppercaseLetter, .points Category.lowercaseLetter,
    .points Category.titlecaseLetter, .points Category.modifierLetter, .points
    Category.otherLetter, .points Category.letterNumber, .points otherIdStart]) (.union (.points
    patternSyntax) (.points patternWhiteSpace))

/-- The characters within names. -/
def idContinue : CharClass :=
  .unionAll [idStart, .points Category.nonspacingMark, .points Category.spacingMark, .digit,
    .points Category.connectorPunctuation, .points otherIdContinue]

/-- Characters within names that are equivalent to ones that are not. -/
def unstableWithin : CodePoints := ⟨[
  890, 891, 12443, 12445, 64606, 64612, 65018, 65020, 65136, 65137, 65138, 65139, 65140, 65141,
  65142, 65143, 65144, 65145, 65146, 65147, 65148, 65149, 65150, 65151]⟩

/-- Characters at the front of names that are equivalent to ones that are not. -/
def unstableStart : CodePoints := ⟨[
  890, 891, 3635, 3636, 3763, 3764, 12443, 12445, 64606, 64612, 65018, 65020, 65136, 65137, 65138,
  65139, 65140, 65141, 65142, 65143, 65144, 65145, 65146, 65147, 65148, 65149, 65150, 65151,
  65438, 65440]⟩

/-- The characters at the front of names, whatever form they are in. -/
def xidStart : CharClass :=
  .difference idStart (.points unstableStart)

/-- The characters within names, whatever form they are in. -/
def xidContinue : CharClass :=
  .difference idContinue (.points unstableWithin)

/-- Signs of mathematics that begin names. -/
def idCompatMathStart : CodePoints := ⟨[
  8706, 8707, 8711, 8712, 8734, 8735, 120513, 120514, 120539, 120540, 120571, 120572, 120597,
  120598, 120629, 120630, 120655, 120656, 120687, 120688, 120713, 120714, 120745, 120746, 120771,
  120772]⟩

/-- Signs of mathematics within names: raised and lowered ones too. -/
def idCompatMathContinue : CharClass :=
  .unionAll [.points idCompatMathStart, .range '²' '³', .letter '¹', .letter '⁰', .range '⁴' '⁾',
    .range '₀' '₎']

end FederatedQuery.Property
