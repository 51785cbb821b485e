/-
  Signs.

  * `Property.dash`, `.hyphen`, `.quotationMark`, `.terminalPunctuation`, `.sentenceTerminal`: signs
    between words;
  * `Property.math`: signs of mathematics;
  * `Property.hexDigit`: the digits of hexadecimal numbers.
-/
import FederatedQuery.Pattern.CharClass
import FederatedQuery.Text.Category.Symbol

namespace FederatedQuery.Property

/-- Dashes of all kinds. -/
def dash : CodePoints := ⟨[
  45, 46, 1418, 1419, 1470, 1471, 5120, 5121, 6150, 6151, 8208, 8214, 8275, 8276, 8315, 8316,
  8331, 8332, 8722, 8723, 11799, 11800, 11802, 11803, 11834, 11836, 11840, 11841, 11869, 11870,
  12316, 12317, 12336, 12337, 12448, 12449, 65073, 65075, 65112, 65113, 65123, 65124, 65293,
  65294, 68974, 68975, 69293, 69294]⟩

/-- Dashes within words. -/
def hyphen : CodePoints := ⟨[
  45, 46, 173, 174, 1418, 1419, 6150, 6151, 8208, 8210, 11799, 11800, 12539, 12540, 65123, 65124,
  65293, 65294, 65381, 65382]⟩

/-- Quotation marks. -/
def quotationMark : CodePoints := ⟨[
  34, 35, 39, 40, 171, 172, 187, 188, 8216, 8224, 8249, 8251, 11842, 11843, 12300, 12304, 12317,
  12320, 65089, 65093, 65282, 65283, 65287, 65288, 65378, 65380]⟩

/-- Signs at the end of a part of a text. -/
def terminalPunctuation : CodePoints := ⟨[
  33, 34, 44, 45, 46, 47, 58, 60, 63, 64, 894, 895, 903, 904, 1417, 1418, 1475, 1476, 1548, 1549,
  1563, 1564, 1565, 1568, 1748, 1749, 1792, 1803, 1804, 1805, 2040, 2042, 2096, 2102, 2103, 2111,
  2142, 2143, 2404, 2406, 3674, 3676, 3848, 3849, 3853, 3859, 4170, 4172, 4961, 4969, 5742, 5743,
  5867, 5870, 5941, 5943, 6100, 6103, 6106, 6107, 6146, 6150, 6152, 6154, 6468, 6470, 6824, 6828,
  6990, 6992, 7002, 7004, 7005, 7008, 7037, 7040, 7227, 7232, 7294, 7296, 8228, 8229, 8252, 8254,
  8263, 8266, 11513, 11516, 11822, 11823, 11836, 11837, 11841, 11842, 11852, 11853, 11854, 11856,
  11859, 11861, 12289, 12291, 42238, 42240, 42509, 42512, 42739, 42744, 43126, 43128, 43214,
  43216, 43311, 43312, 43463, 43466, 43613, 43616, 43743, 43744, 43760, 43762, 44011, 44012,
  65042, 65043, 65045, 65047, 65104, 65107, 65108, 65112, 65281, 65282, 65292, 65293, 65294,
  65295, 65306, 65308, 65311, 65312, 65377, 65378, 65380, 65381, 66463, 66464, 66512, 66513,
  67671, 67672, 67871, 67872, 68182, 68184, 68336, 68342, 68410, 68416, 68505, 68509, 69461,
  69466, 69510, 69514, 69703, 69710, 69822, 69826, 69953, 69956, 70085, 70087, 70093, 70094,
  70110, 70112, 70200, 70205, 70313, 70314, 70612, 70614, 70731, 70734, 70746, 70748, 71106,
  71110, 71113, 71128, 71233, 71235, 71484, 71487, 72004, 72005, 72006, 72007, 72258, 72260,
  72347, 72349, 72353, 72355, 72769, 72772, 72817, 72818, 73463, 73465, 73539, 73541, 74864,
  74869, 92782, 92784, 92917, 92918, 92983, 92986, 92996, 92997, 93550, 93552, 93847, 93849,
  113823, 113824, 121479, 121483]⟩

/-- Signs at the end of a sentence. -/
def sentenceTerminal : CodePoints := ⟨[
  33, 34, 46, 47, 63, 64, 1417, 1418, 1565, 1568, 1748, 1749, 1792, 1795, 2041, 2042, 2103, 2104,
  2105, 2106, 2109, 2111, 2404, 2406, 4170, 4172, 4962, 4963, 4967, 4969, 5742, 5743, 5941, 5943,
  6100, 6102, 6147, 6148, 6153, 6154, 6468, 6470, 6824, 6828, 6990, 6992, 7002, 7004, 7006, 7008,
  7037, 7040, 7227, 7229, 7294, 7296, 8228, 8229, 8252, 8254, 8263, 8266, 11513, 11516, 11822,
  11823, 11836, 11837, 11859, 11861, 12290, 12291, 42239, 42240, 42510, 42512, 42739, 42740,
  42743, 42744, 43126, 43128, 43214, 43216, 43311, 43312, 43464, 43466, 43613, 43616, 43760,
  43762, 44011, 44012, 65042, 65043, 65045, 65047, 65106, 65107, 65110, 65112, 65281, 65282,
  65294, 65295, 65311, 65312, 65377, 65378, 68182, 68184, 69461, 69466, 69510, 69514, 69703,
  69705, 69822, 69826, 69953, 69956, 70085, 70087, 70093, 70094, 70110, 70112, 70200, 70202,
  70203, 70205, 70313, 70314, 70612, 70614, 70731, 70733, 71106, 71108, 71113, 71128, 71233,
  71235, 71484, 71487, 72004, 72005, 72006, 72007, 72258, 72260, 72347, 72349, 72769, 72771,
  73463, 73465, 73539, 73541, 92782, 92784, 92917, 92918, 92983, 92985, 92996, 92997, 93550,
  93552, 93848, 93849, 113823, 113824, 121480, 121481]⟩

/-- Signs of mathematics that are no symbols of mathematics by category. -/
def otherMath : CodePoints := ⟨[
  94, 95, 976, 979, 981, 982, 1008, 1010, 1012, 1014, 8214, 8215, 8242, 8245, 8256, 8257, 8289,
  8293, 8317, 8319, 8333, 8335, 8400, 8413, 8417, 8418, 8421, 8423, 8427, 8432, 8450, 8451, 8455,
  8456, 8458, 8468, 8469, 8470, 8473, 8478, 8484, 8485, 8488, 8490, 8492, 8494, 8495, 8498, 8499,
  8505, 8508, 8512, 8517, 8522, 8597, 8602, 8604, 8608, 8609, 8611, 8612, 8614, 8615, 8616, 8617,
  8622, 8624, 8626, 8630, 8632, 8636, 8654, 8656, 8658, 8659, 8660, 8661, 8668, 8669, 8670, 8676,
  8678, 8968, 8972, 9140, 9142, 9143, 9144, 9168, 9169, 9186, 9187, 9632, 9634, 9646, 9655, 9660,
  9665, 9670, 9672, 9674, 9676, 9679, 9684, 9698, 9699, 9700, 9701, 9703, 9709, 9733, 9735, 9792,
  9793, 9794, 9795, 9824, 9828, 9837, 9839, 10181, 10183, 10214, 10224, 10627, 10649, 10712,
  10716, 10748, 10750, 65121, 65122, 65123, 65124, 65128, 65129, 65340, 65341, 65342, 65343,
  119808, 119893, 119894, 119965, 119966, 119968, 119970, 119971, 119973, 119975, 119977, 119981,
  119982, 119994, 119995, 119996, 119997, 120004, 120005, 120070, 120071, 120075, 120077, 120085,
  120086, 120093, 120094, 120122, 120123, 120127, 120128, 120133, 120134, 120135, 120138, 120145,
  120146, 120486, 120488, 120513, 120514, 120539, 120540, 120571, 120572, 120597, 120598, 120629,
  120630, 120655, 120656, 120687, 120688, 120713, 120714, 120745, 120746, 120771, 120772, 120780,
  120782, 120832, 126464, 126468, 126469, 126496, 126497, 126499, 126500, 126501, 126503, 126504,
  126505, 126515, 126516, 126520, 126521, 126522, 126523, 126524, 126530, 126531, 126535, 126536,
  126537, 126538, 126539, 126540, 126541, 126544, 126545, 126547, 126548, 126549, 126551, 126552,
  126553, 126554, 126555, 126556, 126557, 126558, 126559, 126560, 126561, 126563, 126564, 126565,
  126567, 126571, 126572, 126579, 126580, 126584, 126585, 126589, 126590, 126591, 126592, 126602,
  126603, 126620, 126625, 126628, 126629, 126634, 126635, 126652]⟩

/-- All signs of mathematics. -/
def math : CharClass :=
  .union (.points Category.mathSymbol) (.points otherMath)

/-- Signs that turn round in texts from right to left. -/
def bidiMirrored : CodePoints := ⟨[
  40, 42, 60, 61, 62, 63, 91, 92, 93, 94, 123, 124, 125, 126, 171, 172, 187, 188, 3898, 3902,
  5787, 5789, 8249, 8251, 8261, 8263, 8317, 8319, 8333, 8335, 8512, 8513, 8705, 8709, 8712, 8718,
  8721, 8722, 8725, 8727, 8730, 8734, 8735, 8739, 8740, 8741, 8742, 8743, 8747, 8756, 8761, 8762,
  8763, 8781, 8786, 8790, 8799, 8801, 8802, 8803, 8804, 8812, 8813, 8845, 8847, 8851, 8856, 8857,
  8866, 8868, 8870, 8889, 8894, 8896, 8905, 8910, 8912, 8914, 8918, 8942, 8944, 8960, 8968, 8972,
  8992, 8994, 9001, 9003, 10088, 10102, 10176, 10177, 10179, 10183, 10184, 10186, 10187, 10190,
  10195, 10199, 10204, 10207, 10210, 10224, 10627, 10649, 10651, 10657, 10658, 10672, 10680,
  10681, 10688, 10694, 10697, 10698, 10702, 10707, 10708, 10710, 10712, 10717, 10721, 10722,
  10723, 10726, 10728, 10730, 10740, 10746, 10748, 10750, 10762, 10781, 10782, 10786, 10788,
  10789, 10790, 10791, 10793, 10794, 10795, 10799, 10804, 10806, 10812, 10815, 10839, 10841,
  10852, 10854, 10858, 10862, 10863, 10865, 10867, 10869, 10873, 10916, 10918, 10926, 10927,
  10967, 10972, 10973, 10974, 10975, 10978, 10983, 10988, 10991, 10995, 10996, 10999, 11004,
  11005, 11006, 11262, 11263, 11778, 11782, 11785, 11787, 11788, 11790, 11804, 11806, 11808,
  11818, 11861, 11869, 12296, 12306, 12308, 12316, 65113, 65119, 65124, 65126, 65288, 65290,
  65308, 65309, 65310, 65311, 65339, 65340, 65341, 65342, 65371, 65372, 65373, 65374, 65375,
  65377, 65378, 65380, 120539, 120540, 120597, 120598, 120655, 120656, 120713, 120714, 120771,
  120772]⟩

/-- The digits of hexadecimal numbers in ASCII. -/
def asciiHexDigit : CharClass :=
  .unionAll [.asciiDigit, .range 'a' 'f', .range 'A' 'F']

/-- The digits of hexadecimal numbers. -/
def hexDigit : CharClass :=
  .unionAll [asciiHexDigit, .range '０' '９', .range 'ａ' 'ｆ', .range 'Ａ' 'Ｆ']

end FederatedQuery.Property
