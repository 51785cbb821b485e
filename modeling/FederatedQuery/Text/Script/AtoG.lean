/-
  The scripts whose names begin with A to G.
-/
import FederatedQuery.Text.CodePoints

namespace FederatedQuery.Script

/-- The characters of the script Adlam. -/
def adlam : CodePoints := ⟨[
  125184, 125260, 125264, 125274, 125278, 125280]⟩

/-- The characters of the script Ahom. -/
def ahom : CodePoints := ⟨[
  71424, 71451, 71453, 71468, 71472, 71495]⟩

/-- The characters of the script Anatolian Hieroglyphs. -/
def anatolianHieroglyphs : CodePoints := ⟨[
  82944, 83527]⟩

/-- The characters of the script Arabic. -/
def arabic : CodePoints := ⟨[
  1536, 1541, 1542, 1548, 1549, 1563, 1564, 1567, 1568, 1600, 1601, 1611, 1622, 1648, 1649, 1757,
  1758, 1792, 1872, 1920, 2160, 2191, 2192, 2194, 2199, 2274, 2275, 2304, 64336, 64451, 64467,
  64830, 64832, 64912, 64914, 64968, 64975, 64976, 65008, 65024, 65136, 65141, 65142, 65277,
  69216, 69247, 69314, 69317, 69372, 69376, 126464, 126468, 126469, 126496, 126497, 126499,
  126500, 126501, 126503, 126504, 126505, 126515, 126516, 126520, 126521, 126522, 126523, 126524,
  126530, 126531, 126535, 126536, 126537, 126538, 126539, 126540, 126541, 126544, 126545, 126547,
  126548, 126549, 126551, 126552, 126553, 126554, 126555, 126556, 126557, 126558, 126559, 126560,
  126561, 126563, 126564, 126565, 126567, 126571, 126572, 126579, 126580, 126584, 126585, 126589,
  126590, 126591, 126592, 126602, 126603, 126620, 126625, 126628, 126629, 126634, 126635, 126652,
  126704, 126706]⟩

/-- The characters of the script Armenian. -/
def armenian : CodePoints := ⟨[
  1329, 1367, 1369, 1419, 1421, 1424, 64275, 64280]⟩

/-- The characters of the script Avestan. -/
def avestan : CodePoints := ⟨[
  68352, 68406, 68409, 68416]⟩

/-- The characters of the script Balinese. -/
def balinese : CodePoints := ⟨[
  6912, 6989, 6990, 7040]⟩

/-- The characters of the script Bamum. -/
def bamum : CodePoints := ⟨[
  42656, 42744, 92160, 92729]⟩

/-- The characters of the script Bassa Vah. -/
def bassaVah : CodePoints := ⟨[
  92880, 92910, 92912, 92918]⟩

/-- The characters of the script Batak. -/
def batak : CodePoints := ⟨[
  7104, 7156, 7164, 7168]⟩

/-- The characters of the script Bengali. -/
def bengali : CodePoints := ⟨[
  2432, 2436, 2437, 2445, 2447, 2449, 2451, 2473, 2474, 2481, 2482, 2483, 2486, 2490, 2492, 2501,
  2503, 2505, 2507, 2511, 2519, 2520, 2524, 2526, 2527, 2532, 2534, 2559]⟩

/-- The characters of the script Bhaiksuki. -/
def bhaiksuki : CodePoints := ⟨[
  72704, 72713, 72714, 72759, 72760, 72774, 72784, 72813]⟩

/-- The characters of the script Bopomofo. -/
def bopomofo : CodePoints := ⟨[
  746, 748, 12549, 12592, 12704, 12736]⟩

/-- The characters of the script Brahmi. -/
def brahmi : CodePoints := ⟨[
  69632, 69710, 69714, 69750, 69759, 69760]⟩

/-- The characters of the script Braille. -/
def braille : CodePoints := ⟨[
  10240, 10496]⟩

/-- The characters of the script Buginese. -/
def buginese : CodePoints := ⟨[
  6656, 6684, 6686, 6688]⟩

/-- The characters of the script Buhid. -/
def buhid : CodePoints := ⟨[
  5952, 5972]⟩

/-- The characters of the script Canadian Aboriginal. -/
def canadianAboriginal : CodePoints := ⟨[
  5120, 5760, 6320, 6390, 72368, 72384]⟩

/-- The characters of the script Carian. -/
def carian : CodePoints := ⟨[
  66208, 66257]⟩

/-- The characters of the script Caucasian Albanian. -/
def caucasianAlbanian : CodePoints := ⟨[
  66864, 66916, 66927, 66928]⟩

/-- The characters of the script Chakma. -/
def chakma : CodePoints := ⟨[
  69888, 69941, 69942, 69960]⟩

/-- The characters of the script Cham. -/
def cham : CodePoints := ⟨[
  43520, 43575, 43584, 43598, 43600, 43610, 43612, 43616]⟩

/-- The characters of the script Cherokee. -/
def cherokee : CodePoints := ⟨[
  5024, 5110, 5112, 5118, 43888, 43968]⟩

/-- The characters of the script Chorasmian. -/
def chorasmian : CodePoints := ⟨[
  69552, 69580]⟩

/-- The characters of the script Common. -/
def common : CodePoints := ⟨[
  0, 65, 91, 97, 123, 170, 171, 186, 187, 192, 215, 216, 247, 248, 697, 736, 741, 746, 748, 768,
  884, 885, 894, 895, 901, 902, 903, 904, 1541, 1542, 1548, 1549, 1563, 1564, 1567, 1568, 1600,
  1601, 1757, 1758, 2274, 2275, 2404, 2406, 3647, 3648, 4053, 4057, 4347, 4348, 5867, 5870, 5941,
  5943, 6146, 6148, 6149, 6150, 7379, 7380, 7393, 7394, 7401, 7405, 7406, 7412, 7413, 7416, 7418,
  7419, 8192, 8204, 8206, 8293, 8294, 8305, 8308, 8319, 8320, 8335, 8352, 8385, 8448, 8486, 8487,
  8490, 8492, 8498, 8499, 8526, 8527, 8544, 8585, 8588, 8592, 9258, 9280, 9291, 9312, 10240,
  10496, 11124, 11126, 11158, 11159, 11264, 11776, 11870, 12272, 12293, 12294, 12295, 12296,
  12321, 12336, 12344, 12348, 12352, 12443, 12445, 12448, 12449, 12539, 12541, 12688, 12704,
  12736, 12774, 12783, 12784, 12832, 12896, 12927, 13008, 13055, 13056, 13144, 13312, 19904,
  19968, 42752, 42786, 42888, 42891, 43056, 43066, 43310, 43311, 43471, 43472, 43867, 43868,
  43882, 43884, 64830, 64832, 65040, 65050, 65072, 65107, 65108, 65127, 65128, 65132, 65279,
  65280, 65281, 65313, 65339, 65345, 65371, 65382, 65392, 65393, 65438, 65440, 65504, 65511,
  65512, 65519, 65529, 65534, 65792, 65795, 65799, 65844, 65847, 65856, 65936, 65949, 66000,
  66045, 66273, 66300, 113824, 113828, 117760, 118010, 118016, 118452, 118608, 118724, 118784,
  119030, 119040, 119079, 119081, 119143, 119146, 119163, 119171, 119173, 119180, 119210, 119214,
  119275, 119488, 119508, 119520, 119540, 119552, 119639, 119648, 119673, 119808, 119893, 119894,
  119965, 119966, 119968, 119970, 119971, 119973, 119975, 119977, 119981, 119982, 119994, 119995,
  119996, 119997, 120004, 120005, 120070, 120071, 120075, 120077, 120085, 120086, 120093, 120094,
  120122, 120123, 120127, 120128, 120133, 120134, 120135, 120138, 120145, 120146, 120486, 120488,
  120780, 120782, 120832, 126065, 126133, 126209, 126270, 126976, 127020, 127024, 127124, 127136,
  127151, 127153, 127168, 127169, 127184, 127185, 127222, 127232, 127406, 127462, 127488, 127489,
  127491, 127504, 127548, 127552, 127561, 127568, 127570, 127584, 127590, 127744, 128728, 128732,
  128749, 128752, 128765, 128768, 128887, 128891, 128986, 128992, 129004, 129008, 129009, 129024,
  129036, 129040, 129096, 129104, 129114, 129120, 129160, 129168, 129198, 129200, 129212, 129216,
  129218, 129280, 129620, 129632, 129646, 129648, 129661, 129664, 129674, 129679, 129735, 129742,
  129757, 129759, 129770, 129776, 129785, 129792, 129939, 129940, 130042, 917505, 917506, 917536,
  917632]⟩

/-- The characters of the script Coptic. -/
def coptic : CodePoints := ⟨[
  994, 1008, 11392, 11508, 11513, 11520]⟩

/-- The characters of the script Cuneiform. -/
def cuneiform : CodePoints := ⟨[
  73728, 74650, 74752, 74863, 74864, 74869, 74880, 75076]⟩

/-- The characters of the script Cypriot. -/
def cypriot : CodePoints := ⟨[
  67584, 67590, 67592, 67593, 67594, 67638, 67639, 67641, 67644, 67645, 67647, 67648]⟩

/-- The characters of the script Cypro Minoan. -/
def cyproMinoan : CodePoints := ⟨[
  77712, 77811]⟩

/-- The characters of the script Cyrillic. -/
def cyrillic : CodePoints := ⟨[
  1024, 1157, 1159, 1328, 7296, 7307, 7467, 7468, 7544, 7545, 11744, 11776, 42560, 42656, 65070,
  65072, 122928, 122990, 123023, 123024]⟩

/-- The characters of the script Deseret. -/
def deseret : CodePoints := ⟨[
  66560, 66640]⟩

/-- The characters of the script Devanagari. -/
def devanagari : CodePoints := ⟨[
  2304, 2385, 2389, 2404, 2406, 2432, 43232, 43264, 72448, 72458]⟩

/-- The characters of the script Dives Akuru. -/
def divesAkuru : CodePoints := ⟨[
  71936, 71943, 71945, 71946, 71948, 71956, 71957, 71959, 71960, 71990, 71991, 71993, 71995,
  72007, 72016, 72026]⟩

/-- The characters of the script Dogra. -/
def dogra : CodePoints := ⟨[
  71680, 71740]⟩

/-- The characters of the script Duployan. -/
def duployan : CodePoints := ⟨[
  113664, 113771, 113776, 113789, 113792, 113801, 113808, 113818, 113820, 113824]⟩

/-- The characters of the script Egyptian Hieroglyphs. -/
def egyptianHieroglyphs : CodePoints := ⟨[
  77824, 78934, 78944, 82939]⟩

/-- The characters of the script Elbasan. -/
def elbasan : CodePoints := ⟨[
  66816, 66856]⟩

/-- The characters of the script Elymaic. -/
def elymaic : CodePoints := ⟨[
  69600, 69623]⟩

/-- The characters of the script Ethiopic. -/
def ethiopic : CodePoints := ⟨[
  4608, 4681, 4682, 4686, 4688, 4695, 4696, 4697, 4698, 4702, 4704, 4745, 4746, 4750, 4752, 4785,
  4786, 4790, 4792, 4799, 4800, 4801, 4802, 4806, 4808, 4823, 4824, 4881, 4882, 4886, 4888, 4955,
  4957, 4989, 4992, 5018, 11648, 11671, 11680, 11687, 11688, 11695, 11696, 11703, 11704, 11711,
  11712, 11719, 11720, 11727, 11728, 11735, 11736, 11743, 43777, 43783, 43785, 43791, 43793,
  43799, 43808, 43815, 43816, 43823, 124896, 124903, 124904, 124908, 124909, 124911, 124912,
  124927]⟩

/-- The characters of the script Garay. -/
def garay : CodePoints := ⟨[
  68928, 68966, 68969, 68998, 69006, 69008]⟩

/-- The characters of the script Georgian. -/
def georgian : CodePoints := ⟨[
  4256, 4294, 4295, 4296, 4301, 4302, 4304, 4347, 4348, 4352, 7312, 7355, 7357, 7360, 11520,
  11558, 11559, 11560, 11565, 11566]⟩

/-- The characters of the script Glagolitic. -/
def glagolitic : CodePoints := ⟨[
  11264, 11360, 122880, 122887, 122888, 122905, 122907, 122914, 122915, 122917, 122918, 122923]⟩

/-- The characters of the script Gothic. -/
def gothic : CodePoints := ⟨[
  66352, 66379]⟩

/-- The characters of the script Grantha. -/
def grantha : CodePoints := ⟨[
  70400, 70404, 70405, 70413, 70415, 70417, 70419, 70441, 70442, 70449, 70450, 70452, 70453,
  70458, 70460, 70469, 70471, 70473, 70475, 70478, 70480, 70481, 70487, 70488, 70493, 70500,
  70502, 70509, 70512, 70517]⟩

/-- The characters of the script Greek. -/
def greek : CodePoints := ⟨[
  880, 884, 885, 888, 890, 894, 895, 896, 900, 901, 902, 903, 904, 907, 908, 909, 910, 930, 931,
  994, 1008, 1024, 7462, 7467, 7517, 7522, 7526, 7531, 7615, 7616, 7936, 7958, 7960, 7966, 7968,
  8006, 8008, 8014, 8016, 8024, 8025, 8026, 8027, 8028, 8029, 8030, 8031, 8062, 8064, 8117, 8118,
  8133, 8134, 8148, 8150, 8156, 8157, 8176, 8178, 8181, 8182, 8191, 8486, 8487, 43877, 43878,
  65856, 65935, 65952, 65953, 119296, 119366]⟩

/-- The characters of the script Gujarati. -/
def gujarati : CodePoints := ⟨[
  2689, 2692, 2693, 2702, 2703, 2706, 2707, 2729, 2730, 2737, 2738, 2740, 2741, 2746, 2748, 2758,
  2759, 2762, 2763, 2766, 2768, 2769, 2784, 2788, 2790, 2802, 2809, 2816]⟩

/-- The characters of the script Gunjala Gondi. -/
def gunjalaGondi : CodePoints := ⟨[
  73056, 73062, 73063, 73065, 73066, 73103, 73104, 73106, 73107, 73113, 73120, 73130]⟩

/-- The characters of the script Gurmukhi. -/
def gurmukhi : CodePoints := ⟨[
  2561, 2564, 2565, 2571, 2575, 2577, 2579, 2601, 2602, 2609, 2610, 2612, 2613, 2615, 2616, 2618,
  2620, 2621, 2622, 2627, 2631, 2633, 2635, 2638, 2641, 2642, 2649, 2653, 2654, 2655, 2662, 2679]⟩

/-- The characters of the script Gurung Khema. -/
def gurungKhema : CodePoints := ⟨[
  90368, 90426]⟩

end FederatedQuery.Script
