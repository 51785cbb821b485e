/-
  Character properties in patterns.

  * `Property.normalize`: a name without what does not count in it;
  * `Property.binary`: the properties that a character has or has not, under all their names;
  * `Property.ofName?`, `Property.ofValue?`: the class of a property by its name, or by the names of
    a property and of its value;
  * `Property.find?`: the class for what stands between the braces of a property.
-/
import FederatedQuery.Pattern.Property.Age
import FederatedQuery.Pattern.Property.Break
import FederatedQuery.Pattern.Property.Identifier
import FederatedQuery.Text.Category
import FederatedQuery.Text.Script.Shared

namespace FederatedQuery.Property

/-- A name without blanks, hyphens, low lines and characters beyond ASCII, in small letters, and
    without `is` at its front. -/
def normalize (name : List Char) : String :=
  let (stem, afterIs) :=
    match name with
    | i :: s :: rest => if i.toLower = 'i' ∧ s.toLower = 's' then (rest, true) else (name, false)
    | _ => (name, false)
  let kept := (stem.filter fun c => c ∉ [' ', '_', '-'] ∧ c.toNat < 128).map Char.toLower
  -- `isc` is a name of its own and not the category `c`
  if afterIs ∧ kept = ['c'] then "isc" else String.ofList kept

/-- A union of sets as a class. -/
def ofSets (sets : List CodePoints) : CharClass := .unionAll (sets.map .points)

/-! ## Properties that a character has or has not -/

/-- The characters that may stand inside a word without ending it. -/
def caseIgnorable : CharClass :=
  .unionAll [.points Category.nonspacingMark, .points Category.enclosingMark,
    .points Category.format, .points Category.modifierLetter, .points Category.modifierSymbol,
    .points midLetter, .points midEither, apostrophe]

/-- The alphabetic characters that are letters or have a case. -/
def lettered : CharClass :=
  .unionAll [uppercase, lowercase, titlecase, .points Category.modifierLetter,
    .points Category.otherLetter, .points Category.letterNumber]

/-- Marks that count as letters, and encircled letters. -/
def otherAlphabetic : CharClass :=
  .unionAll [.difference .alphabetic lettered, .letter '\u0345', .range 'Ⓐ' 'ⓩ',
    .points ⟨[127280, 127306, 127312, 127338, 127344, 127370]⟩]

/-- The properties under all their names. -/
def binary : List (String × CharClass) := [
  ("alphabetic", .alphabetic), ("alpha", .alphabetic),
  ("asciihexdigit", asciiHexDigit), ("ahex", asciiHexDigit),
  ("bidicontrol", .points bidiControl), ("bidic", .points bidiControl),
  ("bidimirrored", .points bidiMirrored), ("bidim", .points bidiMirrored),
  ("caseignorable", caseIgnorable), ("ci", caseIgnorable), ("cased", cased),
  ("changeswhencasefolded", changesWhenCasefolded), ("cwcf", changesWhenCasefolded),
  ("changeswhencasemapped", changesWhenCasemapped), ("cwcm", changesWhenCasemapped),
  ("changeswhenlowercased", changesWhenLowercased), ("cwl", changesWhenLowercased),
  ("changeswhentitlecased", changesWhenTitlecased), ("cwt", changesWhenTitlecased),
  ("changeswhenuppercased", changesWhenUppercased), ("cwu", changesWhenUppercased),
  ("dash", .points dash),
  ("defaultignorablecodepoint", defaultIgnorable), ("di", defaultIgnorable),
  ("deprecated", .points deprecated), ("dep", .points deprecated),
  ("diacritic", .points diacritic), ("dia", .points diacritic), ("emoji", .points emoji),
  ("emojicomponent", .points emojiComponent), ("ecomp", .points emojiComponent),
  ("emojimodifier", .points emojiModifier), ("emod", .points emojiModifier),
  ("emojimodifierbase", .points emojiModifierBase), ("ebase", .points emojiModifierBase),
  ("emojipresentation", .points emojiPresentation), ("epres", .points emojiPresentation),
  ("extendedpictographic", .points extendedPictographic),
  ("extpict", .points extendedPictographic), ("extender", .points extender),
  ("ext", .points extender), ("graphemebase", graphemeBase), ("grbase", graphemeBase),
  ("graphemeextend", graphemeExtend), ("grext", graphemeExtend),
  ("graphemelink", .points graphemeLink), ("grlink", .points graphemeLink),
  ("hexdigit", hexDigit), ("hex", hexDigit), ("hyphen", .points hyphen),
  ("idsbinaryoperator", .points descriptionOfTwo), ("idsb", .points descriptionOfTwo),
  ("idstrinaryoperator", .points descriptionOfThree), ("idst", .points descriptionOfThree),
  ("idsunaryoperator", .points descriptionOfOne), ("idsu", .points descriptionOfOne),
  ("idcompatmathcontinue", idCompatMathContinue),
  ("idcompatmathstart", .points idCompatMathStart),
  ("idcontinue", idContinue), ("idc", idContinue), ("idstart", idStart), ("ids", idStart),
  ("ideographic", .points ideographic), ("ideo", .points ideographic),
  ("joincontrol", .joinControl), ("joinc", .joinControl),
  ("logicalorderexception", .points logicalOrderException),
  ("loe", .points logicalOrderException), ("lowercase", lowercase), ("lower", lowercase),
  ("math", math), ("modifiercombiningmark", .points modifierCombiningMark),
  ("mcm", .points modifierCombiningMark),
  ("noncharactercodepoint", .points noncharacter), ("nchar", .points noncharacter),
  ("otheralphabetic", otherAlphabetic), ("oalpha", otherAlphabetic),
  ("otherdefaultignorablecodepoint", .points otherDefaultIgnorable),
  ("odi", .points otherDefaultIgnorable),
  ("othergraphemeextend", .points otherGraphemeExtend),
  ("ogrext", .points otherGraphemeExtend),
  ("otheridcontinue", .points otherIdContinue), ("oidc", .points otherIdContinue),
  ("otheridstart", .points otherIdStart), ("oids", .points otherIdStart),
  ("otherlowercase", .points otherLowercase), ("olower", .points otherLowercase),
  ("othermath", .points otherMath), ("omath", .points otherMath),
  ("otheruppercase", .points otherUppercase), ("oupper", .points otherUppercase),
  ("patternsyntax", .points patternSyntax), ("patsyn", .points patternSyntax),
  ("patternwhitespace", .points patternWhiteSpace), ("patws", .points patternWhiteSpace),
  ("prependedconcatenationmark", .points prependedConcatenationMark),
  ("pcm", .points prependedConcatenationMark),
  ("quotationmark", .points quotationMark), ("qmark", .points quotationMark),
  ("radical", .points radical),
  ("regionalindicator", .points regionalIndicator), ("ri", .points regionalIndicator),
  ("sentenceterminal", .points sentenceTerminal), ("sterm", .points sentenceTerminal),
  ("softdotted", .points softDotted), ("sd", .points softDotted),
  ("terminalpunctuation", .points terminalPunctuation), ("term", .points terminalPunctuation),
  ("unifiedideograph", .points unifiedIdeograph), ("uideo", .points unifiedIdeograph),
  ("uppercase", uppercase), ("upper", uppercase),
  ("variationselector", .points variationSelector), ("vs", .points variationSelector),
  ("whitespace", .space), ("wspace", .space), ("space", .space),
  ("xidcontinue", xidContinue), ("xidc", xidContinue),
  ("xidstart", xidStart), ("xids", xidStart)]

/-! ## Categories and scripts -/

/-- Classes that are named like categories. -/
def special : List (String × CharClass) := [
  ("any", .anything), ("ascii", .range '\x00' '\x7f'),
  ("assigned", .complement (.points Category.unassigned))]

/-- The class of a general category. -/
def category? (name : String) : Option CharClass :=
  (special.lookup name).or ((Category.find? name).map ofSets)

/-- The class of a script. -/
def script? (name : String) : Option CharClass := (Script.find? name).map .points

/-- The characters that a script uses.  What certain scripts use belongs to none in particular no
    longer. -/
def scriptUse? (name : String) : Option CharClass :=
  (Script.find? name).map fun own =>
    if own = Script.common ∨ own = Script.inherited then
      .difference (.points own) (.points Script.claimed)
    else ofSets (own :: (Script.shared? name).toList)

/-! ## Names -/

/-- The class of a property, a category or a script, in this order. -/
def ofName? (name : String) : Option CharClass :=
  ((binary.lookup name).or (category? name)).or (script? name)

/-- The properties with values, under all their names, each with the classes of its values. -/
def valued : List (String × (String → Option CharClass)) := [
  ("generalcategory", category?), ("gc", category?), ("script", script?), ("sc", script?),
  ("scriptextensions", scriptUse?), ("scx", scriptUse?), ("age", age?),
  ("graphemeclusterbreak", graphemeBreak?), ("gcb", graphemeBreak?),
  ("wordbreak", wordBreak?), ("wb", wordBreak?), ("sentencebreak", sentenceBreak?),
  ("sb", sentenceBreak?)]

/-- The class of the characters for which a property has a value. -/
def ofValue? (property value : String) : Option CharClass :=
  (valued.lookup property).bind (· value)

/-- Splits a text in front of the first place where `mark` stands. -/
def splitAt? (mark : List Char) (before : List Char) : List Char → Option (List Char × List Char)
  | [] => none
  | c :: rest =>
    if mark.isPrefixOf (c :: rest) then some (before.reverse, (c :: rest).drop mark.length)
    else splitAt? mark (c :: before) rest

/-- The class that is described between the braces of a property, and whether its complement is meant.
    The description is a name alone, or a property and a value with `:` or `=` between them, or with
    `!=` for all other values. -/
def find? (description : List Char) : Option (CharClass × Bool) :=
  match splitAt? ['!', '='] [] description with
  | some (property, value) => (ofValue? (normalize property) (normalize value)).map (·, true)
  | none =>
    match (splitAt? [':'] [] description).or (splitAt? ['='] [] description) with
    | some (property, value) => (ofValue? (normalize property) (normalize value)).map (·, false)
    | none => (ofName? (normalize description)).map (·, false)

end FederatedQuery.Property
