/-
  Breaks between characters as seen by a reader, between words and between sentences.

  * `Property.graphemeBreak?`, `.wordBreak?`, `.sentenceBreak?`: the characters that take one part in
    breaking a text, by the name of the part.
-/
import FederatedQuery.Pattern.Property.Case
import FederatedQuery.Pattern.Property.Emoji
import FederatedQuery.Pattern.Property.Format
import FederatedQuery.Pattern.Property.Ideograph
import FederatedQuery.Pattern.Property.Mark
import FederatedQuery.Pattern.Property.Sign
import FederatedQuery.Text.Script

namespace FederatedQuery.Property

/-! ## Characters as seen by a reader -/

/-- The Hangul syllables. -/
def syllable : CharClass :=
  .range '가' '힣'

/-- The Hangul syllables that end with a vowel: every 28th. -/
def openSyllable : CodePoints :=
  ⟨(List.range 399).flatMap fun i => [44032 + 28 * i, 44033 + 28 * i]⟩

/-- Characters that go with the one behind them, beyond the signs that reach over several. -/
def prefixed : CodePoints := ⟨[
  3406, 3407, 70082, 70084, 70609, 70610, 71999, 72000, 72001, 72002, 72250, 72251, 72324, 72330,
  73030, 73031, 73474, 73475]⟩

/-- Marks with room of their own that do not go with the character before them. -/
def apart : CodePoints := ⟨[
  4139, 4141, 4152, 4153, 4194, 4197, 4199, 4206, 4227, 4228, 4231, 4237, 4239, 4240, 4250, 4253,
  6753, 6754, 6755, 6757, 43643, 43644, 43645, 43646, 71456, 71458]⟩

/-- Characters that go with no other. -/
def graphemeControl : CharClass :=
  .difference (.unionAll [.points Category.lineSeparator, .points Category.paragraphSeparator,
    .points Category.control, .points Category.format, .intersection (.points
    Category.unassigned) defaultIgnorable]) (.unionAll [.joinControl, .letter '\n', .letter
    '\r', .points prependedConcatenationMark, graphemeExtend])

/-- Marks with room of their own that go with the character before them. -/
def graphemeSpacing : CharClass :=
  .difference (.unionAll [.points Category.spacingMark, .letter 'ำ', .letter 'ຳ']) (.union
    graphemeExtend (.points apart))

/-- The parts in breaking a text into characters as seen by a reader. -/
def graphemeBreaks : List (String × CharClass) := [
  ("control", graphemeControl), ("cn", graphemeControl), ("cr", .letter '\r'),
  ("lf", .letter '\n'), ("extend", .union graphemeExtend (.points emojiModifier)),
  ("ex", .union graphemeExtend (.points emojiModifier)),
  ("spacingmark", graphemeSpacing), ("sm", graphemeSpacing),
  ("prepend", .union (.points prependedConcatenationMark) (.points prefixed)),
  ("pp", .union (.points prependedConcatenationMark) (.points prefixed)),
  ("l", .union (.range 'ᄀ' 'ᅟ') (.range 'ꥠ' 'ꥼ')),
  ("v", .unionAll [.range 'ᅠ' 'ᆧ', .range 'ힰ' 'ퟆ', .letter '𖵣', .range '𖵧' '𖵪']),
  ("t", .union (.range 'ᆨ' 'ᇿ') (.range 'ퟋ' 'ퟻ')),
  ("lv", .points openSyllable), ("lvt", .difference syllable (.points openSyllable)),
  ("regionalindicator", .points regionalIndicator), ("ri", .points regionalIndicator),
  ("zwj", .letter '\u200d')]

/-- The characters that take the named part in breaking a text into characters. -/
def graphemeBreak? (name : String) : Option CharClass := graphemeBreaks.lookup name

/-! ## Words -/

/-- Signs that belong to words though they are no letters. -/
def joining : CodePoints := ⟨[
  706, 710, 722, 728, 734, 736, 741, 748, 749, 750, 751, 768, 1370, 1373, 1374, 1375, 1418, 1419,
  1523, 1524, 42760, 42775, 42784, 42786, 42889, 42891, 43867, 43868]⟩

/-- Marks and tones of skin that go with the character before them. -/
def spacing : CharClass :=
  .unionAll [graphemeExtend, .points Category.spacingMark, .points emojiModifier]

/-- The scripts that are written without room between words. -/
def unspaced : CharClass :=
  .unionAll [.points Script.thai, .points Script.lao, .points Script.myanmar, .points
    Script.khmer, .points Script.taiLe, .points Script.newTaiLue, .points Script.taiTham,
    .points Script.taiViet, .points Script.ahom]

/-- Katakana and the signs that go with it. -/
def wordKatakana : CharClass :=
  .unionAll [.points Script.katakana, .range '〱' '〵', .range '゛' '゜', .letter '゠', .letter 'ー',
    .letter 'ｰ']

/-- Hebrew letters. -/
def hebrewLetter : CharClass :=
  .intersection (.points Script.hebrew) (.points Category.otherLetter)

/-- The letters of scripts with room between words. -/
def wordLetter : CharClass :=
  .union (.difference .alphabetic (.unionAll [.points ideographic, wordKatakana, unspaced, .points
    Script.hiragana, spacing, hebrewLetter])) (.points joining)

/-- Format characters within words. -/
def wordFormat : CharClass :=
  .difference (.points Category.format) (.unionAll [.range '\u200b' '\u200d', graphemeExtend])

/-- Spaces that stay together. -/
def wordSpace : CharClass :=
  .difference (.points Category.spaceSeparator) (.unionAll [.letter '\u00a0', .letter '\u2007',
    .letter '\u202f'])

/-- Signs between two digits. -/
def midNumber : CodePoints := ⟨[
  44, 45, 59, 60, 894, 895, 1417, 1418, 1548, 1550, 1644, 1645, 2040, 2041, 8260, 8261, 65040,
  65041, 65044, 65045, 65104, 65105, 65108, 65109, 65292, 65293, 65307, 65308]⟩

/-- Signs between two letters. -/
def midLetter : CodePoints := ⟨[
  58, 59, 183, 184, 903, 904, 1375, 1376, 1524, 1525, 8231, 8232, 65043, 65044, 65109, 65110,
  65306, 65307]⟩

/-- Signs between two letters or two digits. -/
def midEither : CodePoints := ⟨[
  46, 47, 8216, 8218, 8228, 8229, 65106, 65107, 65287, 65288, 65294, 65295]⟩

/-- The apostrophe. -/
def apostrophe : CharClass := .points ⟨[39, 40]⟩

/-- The parts in breaking a text into words. -/
def wordBreaks : List (String × CharClass) := [
  ("aletter", wordLetter), ("le", wordLetter), ("hebrewletter", hebrewLetter),
  ("hl", hebrewLetter), ("katakana", wordKatakana), ("ka", wordKatakana),
  ("numeric", .union .digit (.letter '٫')), ("nu", .union .digit (.letter '٫')),
  ("extend", .difference spacing (.letter '\u200d')), ("format", wordFormat), ("fo", wordFormat),
  ("extendnumlet", .union (.points Category.connectorPunctuation) (.letter '\u202f')),
  ("ex", .union (.points Category.connectorPunctuation) (.letter '\u202f')),
  ("midletter", .points midLetter), ("ml", .points midLetter), ("midnum", .points midNumber),
  ("mn", .points midNumber), ("midnumlet", .points midEither), ("mb", .points midEither),
  ("singlequote", apostrophe), ("sq", apostrophe), ("doublequote", .letter '"'),
  ("dq", .letter '"'), ("cr", .letter '\r'), ("lf", .letter '\n'),
  ("newline", .unionAll [.range '\x0b' '\x0c', .letter '\u0085', .range '\u2028' '\u2029']),
  ("nl", .unionAll [.range '\x0b' '\x0c', .letter '\u0085', .range '\u2028' '\u2029']),
  ("regionalindicator", .points regionalIndicator), ("ri", .points regionalIndicator),
  ("wsegspace", wordSpace), ("zwj", .letter '\u200d')]

/-- The characters that take the named part in breaking a text into words. -/
def wordBreak? (name : String) : Option CharClass := wordBreaks.lookup name

/-! ## Sentences -/

/-- Signs that may end a sentence or an abbreviation. -/
def sentenceEnd : CharClass :=
  .unionAll [.letter '.', .letter '․', .letter '﹒', .letter '．']

/-- The ends of lines and paragraphs. -/
def lineEnd : CharClass :=
  .unionAll [.letter '\u0085', .range '\u2028' '\u2029']

/-- Signs behind which a sentence goes on. -/
def continuing : CodePoints := ⟨[
  44, 46, 58, 60, 894, 895, 1373, 1374, 1548, 1550, 2040, 2041, 6146, 6147, 6152, 6153, 8211,
  8213, 12289, 12290, 65040, 65042, 65043, 65045, 65073, 65075, 65104, 65106, 65108, 65110, 65112,
  65113, 65123, 65124, 65292, 65294, 65306, 65308, 65380, 65381]⟩

/-- Quotation marks that may open and close. -/
def quoting : CodePoints := ⟨[
  34, 35, 39, 40, 10075, 10081, 11776, 11778, 11782, 11785, 11787, 11788, 128630, 128633]⟩

/-- Marks that go with the character before them. -/
def sentenceExtend : CharClass :=
  .unionAll [graphemeExtend, .points Category.spacingMark, .letter '\u200d']

/-- Small letters of scripts with case. -/
def sentenceLower : CharClass :=
  .difference lowercase (.union graphemeExtend georgian)

/-- Capitals of scripts with case. -/
def sentenceUpper : CharClass :=
  .difference (.union uppercase titlecase) (.union (.range 'Ა' 'Ჺ') (.range 'Ჽ' 'Ჿ'))

/-- All other letters. -/
def sentenceLetter : CharClass :=
  .union (.difference .alphabetic (.unionAll [sentenceLower, sentenceUpper, sentenceExtend]))
    (.letter '׳')

/-- Format characters within sentences. -/
def sentenceFormat : CharClass :=
  .difference (.points Category.format) (.union .joinControl graphemeExtend)

/-- Blanks within lines. -/
def sentenceSpace : CharClass :=
  .difference .space (.unionAll [.letter '\n', .letter '\r', lineEnd])

/-- Brackets and quotation marks. -/
def closing : CharClass :=
  .unionAll [.points Category.openPunctuation, .points Category.closePunctuation, .points
    Category.initialPunctuation, .points Category.finalPunctuation, .points quoting]

/-- The parts in breaking a text into sentences. -/
def sentenceBreaks : List (String × CharClass) := [
  ("aterm", sentenceEnd), ("at", sentenceEnd), ("close", closing), ("cl", closing),
  ("cr", .letter '\r'), ("lf", .letter '\n'), ("extend", sentenceExtend), ("ex", sentenceExtend),
  ("format", sentenceFormat), ("fo", sentenceFormat), ("lower", sentenceLower),
  ("lo", sentenceLower), ("upper", sentenceUpper), ("up", sentenceUpper),
  ("oletter", sentenceLetter), ("le", sentenceLetter),
  ("numeric", .union .digit (.range '٫' '٬')), ("nu", .union .digit (.range '٫' '٬')),
  ("scontinue", .points continuing), ("sc", .points continuing), ("sep", lineEnd), ("se", lineEnd),
  ("sp", sentenceSpace), ("sterm", .difference (.points sentenceTerminal) sentenceEnd),
  ("st", .difference (.points sentenceTerminal) sentenceEnd)]

/-- The characters that take the named part in breaking a text into sentences. -/
def sentenceBreak? (name : String) : Option CharClass := sentenceBreaks.lookup name

end FederatedQuery.Property
