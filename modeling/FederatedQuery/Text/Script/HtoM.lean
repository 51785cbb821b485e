/-
  The scripts whose names begin with H to M.
-/
import FederatedQuery.Text.CodePoints

namespace FederatedQuery.Script

/-- The characters of the script Han. -/
def han : CodePoints := ⟨[
  11904, 11930, 11931, 12020, 12032, 12246, 12293, 12294, 12295, 12296, 12321, 12330, 12344,
  12348, 13312, 19904, 19968, 40960, 63744, 64110, 64112, 64218, 94178, 94180, 94192, 94194,
  131072, 173792, 173824, 177978, 177984, 178206, 178208, 183970, 183984, 191457, 191472, 192094,
  194560, 195102, 196608, 201547, 201552, 205744]⟩

/-- The characters of the script Hangul. -/
def hangul : CodePoints := ⟨[
  4352, 4608, 12334, 12336, 12593, 12687, 12800, 12831, 12896, 12927, 43360, 43389, 44032, 55204,
  55216, 55239, 55243, 55292, 65440, 65471, 65474, 65480, 65482, 65488, 65490, 65496, 65498, 65501]⟩

/-- The characters of the script Hanifi Rohingya. -/
def hanifiRohingya : CodePoints := ⟨[
  68864, 68904, 68912, 68922]⟩

/-- The characters of the script Hanunoo. -/
def hanunoo : CodePoints := ⟨[
  5920, 5941]⟩

/-- The characters of the script Hatran. -/
def hatran : CodePoints := ⟨[
  67808, 67827, 67828, 67830, 67835, 67840]⟩

/-- The characters of the script Hebrew. -/
def hebrew : CodePoints := ⟨[
  1425, 1480, 1488, 1515, 1519, 1525, 64285, 64311, 64312, 64317, 64318, 64319, 64320, 64322,
  64323, 64325, 64326, 64336]⟩

/-- The characters of the script Hiragana. -/
def hiragana : CodePoints := ⟨[
  12353, 12439, 12445, 12448, 110593, 110880, 110898, 110899, 110928, 110931, 127488, 127489]⟩

/-- The characters of the script Imperial Aramaic. -/
def imperialAramaic : CodePoints := ⟨[
  67648, 67670, 67671, 67680]⟩

/-- The characters of the script Inherited. -/
def inherited : CodePoints := ⟨[
  768, 880, 1157, 1159, 1611, 1622, 1648, 1649, 2385, 2389, 6832, 6863, 7376, 7379, 7380, 7393,
  7394, 7401, 7405, 7406, 7412, 7413, 7416, 7418, 7616, 7680, 8204, 8206, 8400, 8433, 12330,
  12334, 12441, 12443, 65024, 65040, 65056, 65070, 66045, 66046, 66272, 66273, 70459, 70460,
  118528, 118574, 118576, 118599, 119143, 119146, 119163, 119171, 119173, 119180, 119210, 119214,
  917760, 918000]⟩

/-- The characters of the script Inscriptional Pahlavi. -/
def inscriptionalPahlavi : CodePoints := ⟨[
  68448, 68467, 68472, 68480]⟩

/-- The characters of the script Inscriptional Parthian. -/
def inscriptionalParthian : CodePoints := ⟨[
  68416, 68438, 68440, 68448]⟩

/-- The characters of the script Javanese. -/
def javanese : CodePoints := ⟨[
  43392, 43470, 43472, 43482, 43486, 43488]⟩

/-- The characters of the script Kaithi. -/
def kaithi : CodePoints := ⟨[
  69760, 69827, 69837, 69838]⟩

/-- The characters of the script Kannada. -/
def kannada : CodePoints := ⟨[
  3200, 3213, 3214, 3217, 3218, 3241, 3242, 3252, 3253, 3258, 3260, 3269, 3270, 3273, 3274, 3278,
  3285, 3287, 3293, 3295, 3296, 3300, 3302, 3312, 3313, 3316]⟩

/-- The characters of the script Katakana. -/
def katakana : CodePoints := ⟨[
  12449, 12539, 12541, 12544, 12784, 12800, 13008, 13055, 13056, 13144, 65382, 65392, 65393,
  65438, 110576, 110580, 110581, 110588, 110589, 110591, 110592, 110593, 110880, 110883, 110933,
  110934, 110948, 110952]⟩

/-- The characters of the script Kawi. -/
def kawi : CodePoints := ⟨[
  73472, 73489, 73490, 73531, 73534, 73563]⟩

/-- The characters of the script Kayah Li. -/
def kayahLi : CodePoints := ⟨[
  43264, 43310, 43311, 43312]⟩

/-- The characters of the script Kharoshthi. -/
def kharoshthi : CodePoints := ⟨[
  68096, 68100, 68101, 68103, 68108, 68116, 68117, 68120, 68121, 68150, 68152, 68155, 68159,
  68169, 68176, 68185]⟩

/-- The characters of the script Khitan Small Script. -/
def khitanSmallScript : CodePoints := ⟨[
  94180, 94181, 101120, 101590, 101631, 101632]⟩

/-- The characters of the script Khmer. -/
def khmer : CodePoints := ⟨[
  6016, 6110, 6112, 6122, 6128, 6138, 6624, 6656]⟩

/-- The characters of the script Khojki. -/
def khojki : CodePoints := ⟨[
  70144, 70162, 70163, 70210]⟩

/-- The characters of the script Khudawadi. -/
def khudawadi : CodePoints := ⟨[
  70320, 70379, 70384, 70394]⟩

/-- The characters of the script Kirat Rai. -/
def kiratRai : CodePoints := ⟨[
  93504, 93562]⟩

/-- The characters of the script Lao. -/
def lao : CodePoints := ⟨[
  3713, 3715, 3716, 3717, 3718, 3723, 3724, 3748, 3749, 3750, 3751, 3774, 3776, 3781, 3782, 3783,
  3784, 3791, 3792, 3802, 3804, 3808]⟩

/-- The characters of the script Latin. -/
def latin : CodePoints := ⟨[
  65, 91, 97, 123, 170, 171, 186, 187, 192, 215, 216, 247, 248, 697, 736, 741, 7424, 7462, 7468,
  7517, 7522, 7526, 7531, 7544, 7545, 7615, 7680, 7936, 8305, 8306, 8319, 8320, 8336, 8349, 8490,
  8492, 8498, 8499, 8526, 8527, 8544, 8585, 11360, 11392, 42786, 42888, 42891, 42958, 42960,
  42962, 42963, 42964, 42965, 42973, 42994, 43008, 43824, 43867, 43868, 43877, 43878, 43882,
  64256, 64263, 65313, 65339, 65345, 65371, 67456, 67462, 67463, 67505, 67506, 67515, 122624,
  122655, 122661, 122667]⟩

/-- The characters of the script Lepcha. -/
def lepcha : CodePoints := ⟨[
  7168, 7224, 7227, 7242, 7245, 7248]⟩

/-- The characters of the script Limbu. -/
def limbu : CodePoints := ⟨[
  6400, 6431, 6432, 6444, 6448, 6460, 6464, 6465, 6468, 6480]⟩

/-- The characters of the script Linear A. -/
def linearA : CodePoints := ⟨[
  67072, 67383, 67392, 67414, 67424, 67432]⟩

/-- The characters of the script Linear B. -/
def linearB : CodePoints := ⟨[
  65536, 65548, 65549, 65575, 65576, 65595, 65596, 65598, 65599, 65614, 65616, 65630, 65664, 65787]⟩

/-- The characters of the script Lisu. -/
def lisu : CodePoints := ⟨[
  42192, 42240, 73648, 73649]⟩

/-- The characters of the script Lycian. -/
def lycian : CodePoints := ⟨[
  66176, 66205]⟩

/-- The characters of the script Lydian. -/
def lydian : CodePoints := ⟨[
  67872, 67898, 67903, 67904]⟩

/-- The characters of the script Mahajani. -/
def mahajani : CodePoints := ⟨[
  69968, 70007]⟩

/-- The characters of the script Makasar. -/
def makasar : CodePoints := ⟨[
  73440, 73465]⟩

/-- The characters of the script Malayalam. -/
def malayalam : CodePoints := ⟨[
  3328, 3341, 3342, 3345, 3346, 3397, 3398, 3401, 3402, 3408, 3412, 3428, 3430, 3456]⟩

/-- The characters of the script Mandaic. -/
def mandaic : CodePoints := ⟨[
  2112, 2140, 2142, 2143]⟩

/-- The characters of the script Manichaean. -/
def manichaean : CodePoints := ⟨[
  68288, 68327, 68331, 68343]⟩

/-- The characters of the script Marchen. -/
def marchen : CodePoints := ⟨[
  72816, 72848, 72850, 72872, 72873, 72887]⟩

/-- The characters of the script Masaram Gondi. -/
def masaramGondi : CodePoints := ⟨[
  72960, 72967, 72968, 72970, 72971, 73015, 73018, 73019, 73020, 73022, 73023, 73032, 73040, 73050]⟩

/-- The characters of the script Medefaidrin. -/
def medefaidrin : CodePoints := ⟨[
  93760, 93851]⟩

/-- The characters of the script Meetei Mayek. -/
def meeteiMayek : CodePoints := ⟨[
  43744, 43767, 43968, 44014, 44016, 44026]⟩

/-- The characters of the script Mende Kikakui. -/
def mendeKikakui : CodePoints := ⟨[
  124928, 125125, 125127, 125143]⟩

/-- The characters of the script Meroitic Cursive. -/
def meroiticCursive : CodePoints := ⟨[
  68000, 68024, 68028, 68048, 68050, 68096]⟩

/-- The characters of the script Meroitic Hieroglyphs. -/
def meroiticHieroglyphs : CodePoints := ⟨[
  67968, 68000]⟩

/-- The characters of the script Miao. -/
def miao : CodePoints := ⟨[
  93952, 94027, 94031, 94088, 94095, 94112]⟩

/-- The characters of the script Modi. -/
def modi : CodePoints := ⟨[
  71168, 71237, 71248, 71258]⟩

/-- The characters of the script Mongolian. -/
def mongolian : CodePoints := ⟨[
  6144, 6146, 6148, 6149, 6150, 6170, 6176, 6265, 6272, 6315, 71264, 71277]⟩

/-- The characters of the script Mro. -/
def mro : CodePoints := ⟨[
  92736, 92767, 92768, 92778, 92782, 92784]⟩

/-- The characters of the script Multani. -/
def multani : CodePoints := ⟨[
  70272, 70279, 70280, 70281, 70282, 70286, 70287, 70302, 70303, 70314]⟩

/-- The characters of the script Myanmar. -/
def myanmar : CodePoints := ⟨[
  4096, 4256, 43488, 43519, 43616, 43648, 71376, 71396]⟩

end FederatedQuery.Script
