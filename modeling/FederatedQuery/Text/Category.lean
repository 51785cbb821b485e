/-
  General categories by name.

  * `Category.find?`: the characters of the category with the given name, spelled in small letters
    without blanks and low lines.  The names are the long and the short ones of each category and of
    each group of categories.
-/
import FederatedQuery.Text.Category.Letter
import FederatedQuery.Text.Category.Mark
import FederatedQuery.Text.Category.Number
import FederatedQuery.Text.Category.Other
import FederatedQuery.Text.Category.Punctuation
import FederatedQuery.Text.Category.Separator
import FederatedQuery.Text.Category.Symbol

namespace FederatedQuery.Category

/-- Letters with case. -/
def casedLetters : List CodePoints := [uppercaseLetter, lowercaseLetter, titlecaseLetter]

/-- All letters. -/
def letters : List CodePoints := casedLetters ++ [modifierLetter, otherLetter]

/-- All marks. -/
def marks : List CodePoints := [nonspacingMark, spacingMark, enclosingMark]

/-- All numbers. -/
def numbers : List CodePoints := [decimalNumber, letterNumber, otherNumber]

/-- All punctuation. -/
def punctuation : List CodePoints :=
  [connectorPunctuation, dashPunctuation, openPunctuation, closePunctuation, initialPunctuation,
    finalPunctuation, otherPunctuation]

/-- All symbols. -/
def symbols : List CodePoints := [mathSymbol, currencySymbol, modifierSymbol, otherSymbol]

/-- All separators. -/
def separators : List CodePoints := [spaceSeparator, lineSeparator, paragraphSeparator]

/-- Everything else. -/
def others : List CodePoints := [control, format, privateUse, unassigned]

/-- The categories and their groups under all their names. -/
def named : List (String × List CodePoints) := [
  ("l", letters), ("letter", letters),
  ("lc", casedLetters), ("casedletter", casedLetters),
  ("lu", [uppercaseLetter]), ("uppercaseletter", [uppercaseLetter]),
  ("ll", [lowercaseLetter]), ("lowercaseletter", [lowercaseLetter]),
  ("lt", [titlecaseLetter]), ("titlecaseletter", [titlecaseLetter]),
  ("lm", [modifierLetter]), ("modifierletter", [modifierLetter]),
  ("lo", [otherLetter]), ("otherletter", [otherLetter]),
  ("m", marks), ("mark", marks), ("combiningmark", marks),
  ("mn", [nonspacingMark]), ("nonspacingmark", [nonspacingMark]),
  ("mc", [spacingMark]), ("spacingmark", [spacingMark]),
  ("me", [enclosingMark]), ("enclosingmark", [enclosingMark]),
  ("n", numbers), ("number", numbers),
  ("nd", [decimalNumber]), ("decimalnumber", [decimalNumber]), ("digit", [decimalNumber]),
  ("nl", [letterNumber]), ("letternumber", [letterNumber]),
  ("no", [otherNumber]), ("othernumber", [otherNumber]),
  ("p", punctuation), ("punctuation", punctuation), ("punct", punctuation),
  ("pc", [connectorPunctuation]), ("connectorpunctuation", [connectorPunctuation]),
  ("pd", [dashPunctuation]), ("dashpunctuation", [dashPunctuation]),
  ("ps", [openPunctuation]), ("openpunctuation", [openPunctuation]),
  ("pe", [closePunctuation]), ("closepunctuation", [closePunctuation]),
  ("pi", [initialPunctuation]), ("initialpunctuation", [initialPunctuation]),
  ("pf", [finalPunctuation]), ("finalpunctuation", [finalPunctuation]),
  ("po", [otherPunctuation]), ("otherpunctuation", [otherPunctuation]),
  ("s", symbols), ("symbol", symbols),
  ("sm", [mathSymbol]), ("mathsymbol", [mathSymbol]),
  ("sc", [currencySymbol]), ("currencysymbol", [currencySymbol]),
  ("sk", [modifierSymbol]), ("modifiersymbol", [modifierSymbol]),
  ("so", [otherSymbol]), ("othersymbol", [otherSymbol]),
  ("z", separators), ("separator", separators),
  ("zs", [spaceSeparator]), ("spaceseparator", [spaceSeparator]),
  ("zl", [lineSeparator]), ("lineseparator", [lineSeparator]),
  ("zp", [paragraphSeparator]), ("paragraphseparator", [paragraphSeparator]),
  ("c", others), ("other", others),
  ("cc", [control]), ("control", [control]), ("cntrl", [control]),
  ("cf", [format]), ("format", [format]),
  ("co", [privateUse]), ("privateuse", [privateUse]),
  ("cn", [unassigned]), ("unassigned", [unassigned])]

/-- The characters of the category or group called `name`, as a union of sets. -/
def find? (name : String) : Option (List CodePoints) := named.lookup name

end FederatedQuery.Category
