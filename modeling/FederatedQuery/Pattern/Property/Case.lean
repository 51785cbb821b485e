/-
  Letter case as a property.

  * `Property.uppercase`, `.lowercase`, `.cased`, `.softDotted`: capitals, small letters, both;
  * `Property.changesWhenLowercased` and its kin: the characters that a case mapping changes.
-/
import FederatedQuery.Pattern.CharClass
import FederatedQuery.Text.Category.Letter

namespace FederatedQuery.Property

/-- Capitals that are no letters, such as encircled ones. -/
def otherUppercase : CodePoints := ⟨[
  8544, 8560, 9398, 9424, 127280, 127306, 127312, 127338, 127344, 127370]⟩

/-- Small forms that are no small letters by category, such as raised ones. -/
def otherLowercase : CodePoints := ⟨[
  170, 171, 186, 187, 688, 697, 704, 706, 736, 741, 837, 838, 890, 891, 4348, 4349, 7468, 7531,
  7544, 7545, 7579, 7616, 8305, 8306, 8319, 8320, 8336, 8349, 8560, 8576, 9424, 9450, 11388,
  11390, 42652, 42654, 42864, 42865, 42994, 42997, 43000, 43002, 43868, 43872, 43881, 43882,
  67456, 67457, 67459, 67462, 67463, 67505, 67506, 67515, 122928, 122990]⟩

/-- All capitals. -/
def uppercase : CharClass :=
  .union (.points Category.uppercaseLetter) (.points otherUppercase)

/-- All small forms. -/
def lowercase : CharClass :=
  .union (.points Category.lowercaseLetter) (.points otherLowercase)

/-- Digraphs whose first part alone is a capital. -/
def titlecase : CharClass :=
  .points Category.titlecaseLetter

/-- The characters that are upper, lower or title case. -/
def cased : CharClass :=
  .unionAll [uppercase, lowercase, titlecase]

/-- Letters that lose their dot below an accent. -/
def softDotted : CodePoints := ⟨[
  105, 107, 303, 304, 585, 586, 616, 617, 669, 670, 690, 691, 1011, 1012, 1110, 1111, 1112, 1113,
  7522, 7523, 7574, 7575, 7588, 7589, 7592, 7593, 7725, 7726, 7883, 7884, 8305, 8306, 8520, 8522,
  11388, 11389, 119842, 119844, 119894, 119896, 119946, 119948, 119998, 120000, 120050, 120052,
  120102, 120104, 120154, 120156, 120206, 120208, 120258, 120260, 120310, 120312, 120362, 120364,
  120414, 120416, 120466, 120468, 122650, 122651, 122956, 122958, 122984, 122985]⟩

/-! ## Case mappings -/

/-- Capitals without a small form, such as those of mathematics. -/
def lowercaseless : CodePoints := ⟨[
  978, 981, 8450, 8451, 8455, 8456, 8459, 8462, 8464, 8467, 8469, 8470, 8473, 8478, 8484, 8485,
  8488, 8489, 8492, 8494, 8496, 8498, 8499, 8500, 8510, 8512, 8517, 8518, 119808, 119834, 119860,
  119886, 119912, 119938, 119964, 119965, 119966, 119968, 119970, 119971, 119973, 119975, 119977,
  119981, 119982, 119990, 120016, 120042, 120068, 120070, 120071, 120075, 120077, 120085, 120086,
  120093, 120120, 120122, 120123, 120127, 120128, 120133, 120134, 120135, 120138, 120145, 120172,
  120198, 120224, 120250, 120276, 120302, 120328, 120354, 120380, 120406, 120432, 120458, 120488,
  120513, 120546, 120571, 120604, 120629, 120662, 120687, 120720, 120745, 120778, 120779, 127280,
  127306, 127312, 127338, 127344, 127370]⟩

/-- Small forms without a capital. -/
def uppercaseless : CodePoints := ⟨[
  170, 171, 186, 187, 312, 313, 397, 398, 426, 428, 442, 443, 446, 447, 545, 546, 564, 570, 597,
  598, 600, 601, 602, 603, 605, 608, 610, 611, 615, 616, 621, 623, 624, 625, 627, 629, 630, 637,
  638, 640, 641, 642, 644, 647, 653, 658, 659, 660, 661, 669, 671, 697, 704, 706, 736, 741, 890,
  891, 1020, 1021, 1376, 1377, 1416, 1417, 4348, 4349, 7424, 7545, 7546, 7549, 7550, 7566, 7567,
  7616, 7836, 7838, 7839, 7840, 8305, 8306, 8319, 8320, 8336, 8349, 8458, 8459, 8462, 8464, 8467,
  8468, 8495, 8496, 8500, 8501, 8505, 8506, 8508, 8510, 8518, 8522, 11377, 11378, 11380, 11381,
  11383, 11390, 11492, 11493, 42652, 42654, 42800, 42802, 42864, 42873, 42894, 42895, 42901,
  42902, 42927, 42928, 42963, 42964, 42965, 42966, 42994, 42997, 43000, 43003, 43824, 43859,
  43860, 43867, 43868, 43882, 67456, 67457, 67459, 67462, 67463, 67505, 67506, 67515, 119834,
  119860, 119886, 119893, 119894, 119912, 119938, 119964, 119990, 119994, 119995, 119996, 119997,
  120004, 120005, 120016, 120042, 120068, 120094, 120120, 120146, 120172, 120198, 120224, 120250,
  120276, 120302, 120328, 120354, 120380, 120406, 120432, 120458, 120486, 120514, 120539, 120540,
  120546, 120572, 120597, 120598, 120604, 120630, 120655, 120656, 120662, 120688, 120713, 120714,
  120720, 120746, 120771, 120772, 120778, 120779, 120780, 122624, 122634, 122635, 122655, 122661,
  122667, 122928, 122990]⟩

/-- The Georgian letters that stay as they are at the front of a word. -/
def georgian : CharClass :=
  .union (.range 'ა' 'ჺ') (.range 'ჽ' 'ჿ')

/-- Capital digraphs, of which only the first part is a capital at the front of a word. -/
def digraphCapitals : CharClass :=
  .unionAll [.letter 'Ǆ', .letter 'Ǉ', .letter 'Ǌ', .letter 'Ǳ']

/-- The characters that lower-casing changes. -/
def changesWhenLowercased : CharClass :=
  .difference (.union uppercase titlecase) (.points lowercaseless)

/-- The characters that upper-casing changes. -/
def changesWhenUppercased : CharClass :=
  .difference (.union lowercase titlecase) (.points uppercaseless)

/-- The characters that a capital first letter changes. -/
def changesWhenTitlecased : CharClass :=
  .union (.difference changesWhenUppercased (.union titlecase georgian)) digraphCapitals

/-- The characters that a case mapping changes. -/
def changesWhenCasemapped : CharClass :=
  .unionAll [changesWhenLowercased, changesWhenUppercased, changesWhenTitlecased]

/-- Small forms that are folded to other ones. -/
def foldedSmall : CodePoints := ⟨[
  181, 182, 223, 224, 329, 330, 383, 384, 837, 838, 962, 963, 976, 978, 981, 983, 1008, 1010,
  1013, 1014, 1415, 1416, 5112, 5118, 7296, 7305, 7834, 7836, 8064, 8072, 8080, 8088, 8096, 8104,
  8114, 8117, 8119, 8120, 8130, 8133, 8135, 8136, 8178, 8181, 8183, 8184, 43888, 43968, 64256,
  64263, 64275, 64280]⟩

/-- The characters that case folding changes; Cherokee capitals stay as they are. -/
def changesWhenCasefolded : CharClass :=
  .union (.difference changesWhenLowercased (.range 'Ꭰ' 'Ᏽ')) (.points foldedSmall)

end FederatedQuery.Property
