/-
  The scripts whose names begin with N to Z.
-/
import FederatedQuery.Text.CodePoints

namespace FederatedQuery.Script

/-- The characters of the script Nabataean. -/
def nabataean : CodePoints := ⟨[
  67712, 67743, 67751, 67760]⟩

/-- The characters of the script Nag Mundari. -/
def nagMundari : CodePoints := ⟨[
  124112, 124154]⟩

/-- The characters of the script Nandinagari. -/
def nandinagari : CodePoints := ⟨[
  72096, 72104, 72106, 72152, 72154, 72165]⟩

/-- The characters of the script New Tai Lue. -/
def newTaiLue : CodePoints := ⟨[
  6528, 6572, 6576, 6602, 6608, 6619, 6622, 6624]⟩

/-- The characters of the script Newa. -/
def newa : CodePoints := ⟨[
  70656, 70748, 70749, 70754]⟩

/-- The characters of the script Nko. -/
def nko : CodePoints := ⟨[
  1984, 2043, 2045, 2048]⟩

/-- The characters of the script Nushu. -/
def nushu : CodePoints := ⟨[
  94177, 94178, 110960, 111356]⟩

/-- The characters of the script Nyiakeng Puachue Hmong. -/
def nyiakengPuachueHmong : CodePoints := ⟨[
  123136, 123181, 123184, 123198, 123200, 123210, 123214, 123216]⟩

/-- The characters of the script Ogham. -/
def ogham : CodePoints := ⟨[
  5760, 5789]⟩

/-- The characters of the script Ol Chiki. -/
def olChiki : CodePoints := ⟨[
  7248, 7296]⟩

/-- The characters of the script Ol Onal. -/
def olOnal : CodePoints := ⟨[
  124368, 124411, 124415, 124416]⟩

/-- The characters of the script Old Hungarian. -/
def oldHungarian : CodePoints := ⟨[
  68736, 68787, 68800, 68851, 68858, 68864]⟩

/-- The characters of the script Old Italic. -/
def oldItalic : CodePoints := ⟨[
  66304, 66340, 66349, 66352]⟩

/-- The characters of the script Old North Arabian. -/
def oldNorthArabian : CodePoints := ⟨[
  68224, 68256]⟩

/-- The characters of the script Old Permic. -/
def oldPermic : CodePoints := ⟨[
  66384, 66427]⟩

/-- The characters of the script Old Persian. -/
def oldPersian : CodePoints := ⟨[
  66464, 66500, 66504, 66518]⟩

/-- The characters of the script Old Sogdian. -/
def oldSogdian : CodePoints := ⟨[
  69376, 69416]⟩

/-- The characters of the script Old South Arabian. -/
def oldSouthArabian : CodePoints := ⟨[
  68192, 68224]⟩

/-- The characters of the script Old Turkic. -/
def oldTurkic : CodePoints := ⟨[
  68608, 68681]⟩

/-- The characters of the script Old Uyghur. -/
def oldUyghur : CodePoints := ⟨[
  69488, 69514]⟩

/-- The characters of the script Oriya. -/
def oriya : CodePoints := ⟨[
  2817, 2820, 2821, 2829, 2831, 2833, 2835, 2857, 2858, 2865, 2866, 2868, 2869, 2874, 2876, 2885,
  2887, 2889, 2891, 2894, 2901, 2904, 2908, 2910, 2911, 2916, 2918, 2936]⟩

/-- The characters of the script Osage. -/
def osage : CodePoints := ⟨[
  66736, 66772, 66776, 66812]⟩

/-- The characters of the script Osmanya. -/
def osmanya : CodePoints := ⟨[
  66688, 66718, 66720, 66730]⟩

/-- The characters of the script Pahawh Hmong. -/
def pahawhHmong : CodePoints := ⟨[
  92928, 92998, 93008, 93018, 93019, 93026, 93027, 93048, 93053, 93072]⟩

/-- The characters of the script Palmyrene. -/
def palmyrene : CodePoints := ⟨[
  67680, 67712]⟩

/-- The characters of the script Pau Cin Hau. -/
def pauCinHau : CodePoints := ⟨[
  72384, 72441]⟩

/-- The characters of the script Phags Pa. -/
def phagsPa : CodePoints := ⟨[
  43072, 43128]⟩

/-- The characters of the script Phoenician. -/
def phoenician : CodePoints := ⟨[
  67840, 67868, 67871, 67872]⟩

/-- The characters of the script Psalter Pahlavi. -/
def psalterPahlavi : CodePoints := ⟨[
  68480, 68498, 68505, 68509, 68521, 68528]⟩

/-- The characters of the script Rejang. -/
def rejang : CodePoints := ⟨[
  43312, 43348, 43359, 43360]⟩

/-- The characters of the script Runic. -/
def runic : CodePoints := ⟨[
  5792, 5867, 5870, 5881]⟩

/-- The characters of the script Samaritan. -/
def samaritan : CodePoints := ⟨[
  2048, 2094, 2096, 2111]⟩

/-- The characters of the script Saurashtra. -/
def saurashtra : CodePoints := ⟨[
  43136, 43206, 43214, 43226]⟩

/-- The characters of the script Sharada. -/
def sharada : CodePoints := ⟨[
  70016, 70112]⟩

/-- The characters of the script Shavian. -/
def shavian : CodePoints := ⟨[
  66640, 66688]⟩

/-- The characters of the script Siddham. -/
def siddham : CodePoints := ⟨[
  71040, 71094, 71096, 71134]⟩

/-- The characters of the script SignWriting. -/
def signWriting : CodePoints := ⟨[
  120832, 121484, 121499, 121504, 121505, 121520]⟩

/-- The characters of the script Sinhala. -/
def sinhala : CodePoints := ⟨[
  3457, 3460, 3461, 3479, 3482, 3506, 3507, 3516, 3517, 3518, 3520, 3527, 3530, 3531, 3535, 3541,
  3542, 3543, 3544, 3552, 3558, 3568, 3570, 3573, 70113, 70133]⟩

/-- The characters of the script Sogdian. -/
def sogdian : CodePoints := ⟨[
  69424, 69466]⟩

/-- The characters of the script Sora Sompeng. -/
def soraSompeng : CodePoints := ⟨[
  69840, 69865, 69872, 69882]⟩

/-- The characters of the script Soyombo. -/
def soyombo : CodePoints := ⟨[
  72272, 72355]⟩

/-- The characters of the script Sundanese. -/
def sundanese : CodePoints := ⟨[
  7040, 7104, 7360, 7368]⟩

/-- The characters of the script Sunuwar. -/
def sunuwar : CodePoints := ⟨[
  72640, 72674, 72688, 72698]⟩

/-- The characters of the script Syloti Nagri. -/
def sylotiNagri : CodePoints := ⟨[
  43008, 43053]⟩

/-- The characters of the script Syriac. -/
def syriac : CodePoints := ⟨[
  1792, 1806, 1807, 1867, 1869, 1872, 2144, 2155]⟩

/-- The characters of the script Tagalog. -/
def tagalog : CodePoints := ⟨[
  5888, 5910, 5919, 5920]⟩

/-- The characters of the script Tagbanwa. -/
def tagbanwa : CodePoints := ⟨[
  5984, 5997, 5998, 6001, 6002, 6004]⟩

/-- The characters of the script Tai Le. -/
def taiLe : CodePoints := ⟨[
  6480, 6510, 6512, 6517]⟩

/-- The characters of the script Tai Tham. -/
def taiTham : CodePoints := ⟨[
  6688, 6751, 6752, 6781, 6783, 6794, 6800, 6810, 6816, 6830]⟩

/-- The characters of the script Tai Viet. -/
def taiViet : CodePoints := ⟨[
  43648, 43715, 43739, 43744]⟩

/-- The characters of the script Takri. -/
def takri : CodePoints := ⟨[
  71296, 71354, 71360, 71370]⟩

/-- The characters of the script Tamil. -/
def tamil : CodePoints := ⟨[
  2946, 2948, 2949, 2955, 2958, 2961, 2962, 2966, 2969, 2971, 2972, 2973, 2974, 2976, 2979, 2981,
  2984, 2987, 2990, 3002, 3006, 3011, 3014, 3017, 3018, 3022, 3024, 3025, 3031, 3032, 3046, 3067,
  73664, 73714, 73727, 73728]⟩

/-- The characters of the script Tangsa. -/
def tangsa : CodePoints := ⟨[
  92784, 92863, 92864, 92874]⟩

/-- The characters of the script Tangut. -/
def tangut : CodePoints := ⟨[
  94176, 94177, 94208, 100344, 100352, 101120, 101632, 101641]⟩

/-- The characters of the script Telugu. -/
def telugu : CodePoints := ⟨[
  3072, 3085, 3086, 3089, 3090, 3113, 3114, 3130, 3132, 3141, 3142, 3145, 3146, 3150, 3157, 3159,
  3160, 3163, 3165, 3166, 3168, 3172, 3174, 3184, 3191, 3200]⟩

/-- The characters of the script Thaana. -/
def thaana : CodePoints := ⟨[
  1920, 1970]⟩

/-- The characters of the script Thai. -/
def thai : CodePoints := ⟨[
  3585, 3643, 3648, 3676]⟩

/-- The characters of the script Tibetan. -/
def tibetan : CodePoints := ⟨[
  3840, 3912, 3913, 3949, 3953, 3992, 3993, 4029, 4030, 4045, 4046, 4053, 4057, 4059]⟩

/-- The characters of the script Tifinagh. -/
def tifinagh : CodePoints := ⟨[
  11568, 11624, 11631, 11633, 11647, 11648]⟩

/-- The characters of the script Tirhuta. -/
def tirhuta : CodePoints := ⟨[
  70784, 70856, 70864, 70874]⟩

/-- The characters of the script Todhri. -/
def todhri : CodePoints := ⟨[
  67008, 67060]⟩

/-- The characters of the script Toto. -/
def toto : CodePoints := ⟨[
  123536, 123567]⟩

/-- The characters of the script Tulu Tigalari. -/
def tuluTigalari : CodePoints := ⟨[
  70528, 70538, 70539, 70540, 70542, 70543, 70544, 70582, 70583, 70593, 70594, 70595, 70597,
  70598, 70599, 70603, 70604, 70614, 70615, 70617, 70625, 70627]⟩

/-- The characters of the script Ugaritic. -/
def ugaritic : CodePoints := ⟨[
  66432, 66462, 66463, 66464]⟩

/-- The characters of the script Vai. -/
def vai : CodePoints := ⟨[
  42240, 42540]⟩

/-- The characters of the script Vithkuqi. -/
def vithkuqi : CodePoints := ⟨[
  66928, 66939, 66940, 66955, 66956, 66963, 66964, 66966, 66967, 66978, 66979, 66994, 66995,
  67002, 67003, 67005]⟩

/-- The characters of the script Wancho. -/
def wancho : CodePoints := ⟨[
  123584, 123642, 123647, 123648]⟩

/-- The characters of the script Warang Citi. -/
def warangCiti : CodePoints := ⟨[
  71840, 71923, 71935, 71936]⟩

/-- The characters of the script Yezidi. -/
def yezidi : CodePoints := ⟨[
  69248, 69290, 69291, 69294, 69296, 69298]⟩

/-- The characters of the script Yi. -/
def yi : CodePoints := ⟨[
  40960, 42125, 42128, 42183]⟩

/-- The characters of the script Zanabazar Square. -/
def zanabazarSquare : CodePoints := ⟨[
  72192, 72264]⟩

end FederatedQuery.Script
