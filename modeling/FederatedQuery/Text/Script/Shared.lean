/-
  Characters that several scripts share.

  A character belongs to one script, or to none in particular.  Some of the latter, and a few others,
  are used in certain scripts only.

  * `Script.shared?`: the characters of other scripts, or of none, that the named script uses;
  * `Script.claimed`: the characters of no script in particular that certain scripts use.
-/
import FederatedQuery.Text.CodePoints

namespace FederatedQuery.Script

/-- The characters of no script in particular that certain scripts use. -/
def claimed : CodePoints := ⟨[
  183, 184, 700, 701, 711, 712, 713, 716, 717, 718, 727, 728, 729, 730, 768, 783, 784, 786, 787,
  788, 803, 806, 813, 815, 816, 818, 834, 835, 837, 838, 856, 857, 862, 863, 867, 880, 884, 885,
  1157, 1159, 1548, 1549, 1563, 1564, 1567, 1568, 1600, 1601, 1611, 1622, 1648, 1649, 2385, 2387,
  2404, 2406, 4347, 4348, 5867, 5870, 5941, 5943, 6146, 6148, 6149, 6150, 7376, 7419, 7616, 7618,
  7672, 7673, 7674, 7675, 8239, 8240, 8271, 8272, 8282, 8283, 8285, 8286, 8432, 8433, 11799,
  11800, 11824, 11826, 11836, 11837, 11841, 11842, 11843, 11844, 12272, 12288, 12289, 12292,
  12294, 12295, 12296, 12306, 12307, 12320, 12330, 12334, 12336, 12342, 12343, 12344, 12348,
  12352, 12441, 12445, 12448, 12449, 12539, 12541, 12688, 12704, 12736, 12774, 12783, 12784,
  12832, 12872, 12928, 12977, 12992, 13004, 13055, 13056, 13144, 13169, 13179, 13184, 13280,
  13311, 42752, 42760, 43056, 43066, 43310, 43311, 43471, 43472, 64830, 64832, 65093, 65095,
  65377, 65382, 65392, 65393, 65438, 65440, 65792, 65795, 65799, 65844, 65847, 65856, 66272,
  66300, 70459, 70460, 113824, 113828, 119648, 119666, 127568, 127570]⟩

/-- What Adlam shares with other scripts. -/
def adlamShares : CodePoints := ⟨[
  1567, 1568, 1600, 1601, 8271, 8272, 11841, 11842]⟩

/-- What Arabic shares with other scripts. -/
def arabicShares : CodePoints := ⟨[
  1548, 1549, 1563, 1564, 1567, 1568, 1600, 1601, 1611, 1622, 1648, 1649, 8271, 8272, 11841,
  11842, 64830, 64832, 66272, 66300]⟩

/-- What Armenian shares with other scripts. -/
def armenianShares : CodePoints := ⟨[
  776, 777]⟩

/-- What Avestan shares with other scripts. -/
def avestanShares : CodePoints := ⟨[
  183, 184, 11824, 11826]⟩

/-- What Bengali shares with other scripts. -/
def bengaliShares : CodePoints := ⟨[
  700, 701, 2385, 2387, 2404, 2406, 7376, 7377, 7378, 7379, 7381, 7383, 7384, 7385, 7393, 7394,
  7402, 7403, 7405, 7406, 7410, 7411, 7413, 7416, 43249, 43250]⟩

/-- What Bopomofo shares with other scripts. -/
def bopomofoShares : CodePoints := ⟨[
  711, 712, 713, 716, 729, 730, 12289, 12292, 12296, 12306, 12307, 12320, 12330, 12334, 12336,
  12337, 12343, 12344, 12539, 12540, 65093, 65095, 65377, 65382]⟩

/-- What Buginese shares with other scripts. -/
def bugineseShares : CodePoints := ⟨[
  43471, 43472]⟩

/-- What Buhid shares with other scripts. -/
def buhidShares : CodePoints := ⟨[
  5941, 5943]⟩

/-- What Carian shares with other scripts. -/
def carianShares : CodePoints := ⟨[
  183, 184, 8282, 8283, 8285, 8286, 11825, 11826]⟩

/-- What Caucasian Albanian shares with other scripts. -/
def caucasianAlbanianShares : CodePoints := ⟨[
  772, 773, 817, 818, 862, 863]⟩

/-- What Chakma shares with other scripts. -/
def chakmaShares : CodePoints := ⟨[
  2534, 2544, 4160, 4170]⟩

/-- What Cherokee shares with other scripts. -/
def cherokeeShares : CodePoints := ⟨[
  768, 771, 772, 773, 779, 781, 803, 805, 816, 818]⟩

/-- What Coptic shares with other scripts. -/
def copticShares : CodePoints := ⟨[
  183, 184, 768, 769, 772, 774, 775, 776, 884, 886, 11799, 11800, 66272, 66300]⟩

/-- What Cypriot shares with other scripts. -/
def cypriotShares : CodePoints := ⟨[
  65792, 65795, 65799, 65844, 65847, 65856]⟩

/-- What Cypro Minoan shares with other scripts. -/
def cyproMinoanShares : CodePoints := ⟨[
  65792, 65794]⟩

/-- What Cyrillic shares with other scripts. -/
def cyrillicShares : CodePoints := ⟨[
  700, 701, 768, 771, 772, 773, 774, 775, 776, 777, 779, 780, 785, 786, 1157, 1159, 7672, 7673,
  11843, 11844]⟩

/-- What Devanagari shares with other scripts. -/
def devanagariShares : CodePoints := ⟨[
  700, 701, 2385, 2387, 2404, 2406, 7376, 7415, 7416, 7418, 8432, 8433, 43056, 43066]⟩

/-- What Dogra shares with other scripts. -/
def dograShares : CodePoints := ⟨[
  2404, 2416, 43056, 43066]⟩

/-- What Duployan shares with other scripts. -/
def duployanShares : CodePoints := ⟨[
  183, 184, 775, 777, 778, 779, 803, 805, 11836, 11837, 113824, 113828]⟩

/-- What Elbasan shares with other scripts. -/
def elbasanShares : CodePoints := ⟨[
  183, 184, 773, 774]⟩

/-- What Ethiopic shares with other scripts. -/
def ethiopicShares : CodePoints := ⟨[
  782, 783]⟩

/-- What Garay shares with other scripts. -/
def garayShares : CodePoints := ⟨[
  1548, 1549, 1563, 1564, 1567, 1568]⟩

/-- What Georgian shares with other scripts. -/
def georgianShares : CodePoints := ⟨[
  183, 184, 1417, 1418, 4347, 4348, 8282, 8283, 11825, 11826]⟩

/-- What Glagolitic shares with other scripts. -/
def glagoliticShares : CodePoints := ⟨[
  183, 184, 771, 772, 773, 774, 1156, 1157, 1159, 1160, 1417, 1418, 4347, 4348, 8282, 8283, 11843,
  11844, 42607, 42608]⟩

/-- What Gothic shares with other scripts. -/
def gothicShares : CodePoints := ⟨[
  183, 184, 772, 774, 776, 777, 817, 818]⟩

/-- What Grantha shares with other scripts. -/
def granthaShares : CodePoints := ⟨[
  2385, 2387, 2404, 2406, 3046, 3060, 7376, 7377, 7378, 7380, 7410, 7413, 7416, 7418, 8432, 8433,
  70459, 70460, 73680, 73682, 73683, 73684]⟩

/-- What Greek shares with other scripts. -/
def greekShares : CodePoints := ⟨[
  183, 184, 768, 770, 772, 773, 774, 775, 776, 777, 787, 788, 834, 835, 837, 838, 884, 885, 7616,
  7618, 8285, 8286]⟩

/-- What Gujarati shares with other scripts. -/
def gujaratiShares : CodePoints := ⟨[
  2385, 2387, 2404, 2406, 43056, 43066]⟩

/-- What Gunjala Gondi shares with other scripts. -/
def gunjalaGondiShares : CodePoints := ⟨[
  183, 184, 2404, 2406]⟩

/-- What Gurmukhi shares with other scripts. -/
def gurmukhiShares : CodePoints := ⟨[
  2385, 2387, 2404, 2406, 43056, 43066]⟩

/-- What Gurung Khema shares with other scripts. -/
def gurungKhemaShares : CodePoints := ⟨[
  2405, 2406]⟩

/-- What Han shares with other scripts. -/
def hanShares : CodePoints := ⟨[
  183, 184, 12272, 12288, 12289, 12292, 12294, 12295, 12296, 12306, 12307, 12320, 12330, 12334,
  12336, 12337, 12343, 12344, 12348, 12352, 12539, 12540, 12688, 12704, 12736, 12774, 12783,
  12784, 12832, 12872, 12928, 12977, 12992, 13004, 13055, 13056, 13144, 13169, 13179, 13184,
  13280, 13311, 42752, 42760, 65093, 65095, 65377, 65382, 119648, 119666, 127568, 127570]⟩

/-- What Hangul shares with other scripts. -/
def hangulShares : CodePoints := ⟨[
  12289, 12292, 12296, 12306, 12307, 12320, 12336, 12337, 12343, 12344, 12539, 12540, 65093,
  65095, 65377, 65382]⟩

/-- What Hanifi Rohingya shares with other scripts. -/
def hanifiRohingyaShares : CodePoints := ⟨[
  1548, 1549, 1563, 1564, 1567, 1568, 1600, 1601, 1748, 1749]⟩

/-- What Hanunoo shares with other scripts. -/
def hanunooShares : CodePoints := ⟨[
  5941, 5943]⟩

/-- What Hebrew shares with other scripts. -/
def hebrewShares : CodePoints := ⟨[
  775, 777]⟩

/-- What Hiragana shares with other scripts. -/
def hiraganaShares : CodePoints := ⟨[
  12289, 12292, 12296, 12306, 12307, 12320, 12336, 12342, 12343, 12344, 12348, 12350, 12441,
  12445, 12448, 12449, 12539, 12541, 65093, 65095, 65377, 65382, 65392, 65393, 65438, 65440]⟩

/-- What Javanese shares with other scripts. -/
def javaneseShares : CodePoints := ⟨[
  43471, 43472]⟩

/-- What Kaithi shares with other scripts. -/
def kaithiShares : CodePoints := ⟨[
  2406, 2416, 11825, 11826, 43056, 43066]⟩

/-- What Kannada shares with other scripts. -/
def kannadaShares : CodePoints := ⟨[
  2385, 2387, 2404, 2406, 7376, 7377, 7378, 7380, 7386, 7387, 7410, 7411, 7412, 7413, 43056, 43062]⟩

/-- What Katakana shares with other scripts. -/
def katakanaShares : CodePoints := ⟨[
  773, 774, 803, 804, 12289, 12292, 12296, 12306, 12307, 12320, 12336, 12342, 12343, 12344, 12348,
  12350, 12441, 12445, 12448, 12449, 12539, 12541, 65093, 65095, 65377, 65382, 65392, 65393,
  65438, 65440]⟩

/-- What Kayah Li shares with other scripts. -/
def kayahLiShares : CodePoints := ⟨[
  43310, 43311]⟩

/-- What Khojki shares with other scripts. -/
def khojkiShares : CodePoints := ⟨[
  2790, 2800, 43056, 43066]⟩

/-- What Khudawadi shares with other scripts. -/
def khudawadiShares : CodePoints := ⟨[
  2404, 2406, 43056, 43066]⟩

/-- What Latin shares with other scripts. -/
def latinShares : CodePoints := ⟨[
  183, 184, 700, 701, 711, 712, 713, 716, 717, 718, 727, 728, 729, 730, 768, 783, 784, 786, 787,
  788, 803, 806, 813, 815, 816, 818, 856, 857, 862, 863, 867, 880, 1157, 1159, 2385, 2387, 4347,
  4348, 7672, 7673, 8239, 8240, 8432, 8433, 11799, 11800, 42752, 42760, 43310, 43311]⟩

/-- What Limbu shares with other scripts. -/
def limbuShares : CodePoints := ⟨[
  2405, 2406]⟩

/-- What Linear A shares with other scripts. -/
def linearAShares : CodePoints := ⟨[
  65799, 65844]⟩

/-- What Linear B shares with other scripts. -/
def linearBShares : CodePoints := ⟨[
  65792, 65795, 65799, 65844, 65847, 65856]⟩

/-- What Lisu shares with other scripts. -/
def lisuShares : CodePoints := ⟨[
  700, 701, 717, 718, 12298, 12300]⟩

/-- What Lycian shares with other scripts. -/
def lycianShares : CodePoints := ⟨[
  8282, 8283]⟩

/-- What Lydian shares with other scripts. -/
def lydianShares : CodePoints := ⟨[
  183, 184, 11825, 11826]⟩

/-- What Mahajani shares with other scripts. -/
def mahajaniShares : CodePoints := ⟨[
  183, 184, 2404, 2416, 43056, 43066]⟩

/-- What Malayalam shares with other scripts. -/
def malayalamShares : CodePoints := ⟨[
  2385, 2387, 2404, 2406, 7386, 7387, 7410, 7411, 43056, 43059]⟩

/-- What Mandaic shares with other scripts. -/
def mandaicShares : CodePoints := ⟨[
  1600, 1601]⟩

/-- What Manichaean shares with other scripts. -/
def manichaeanShares : CodePoints := ⟨[
  1600, 1601]⟩

/-- What Masaram Gondi shares with other scripts. -/
def masaramGondiShares : CodePoints := ⟨[
  2404, 2406]⟩

/-- What Meroitic Hieroglyphs shares with other scripts. -/
def meroiticHieroglyphsShares : CodePoints := ⟨[
  8285, 8286]⟩

/-- What Modi shares with other scripts. -/
def modiShares : CodePoints := ⟨[
  43056, 43066]⟩

/-- What Mongolian shares with other scripts. -/
def mongolianShares : CodePoints := ⟨[
  6146, 6148, 6149, 6150, 8239, 8240, 12289, 12291, 12296, 12300]⟩

/-- What Multani shares with other scripts. -/
def multaniShares : CodePoints := ⟨[
  2662, 2672]⟩

/-- What Myanmar shares with other scripts. -/
def myanmarShares : CodePoints := ⟨[
  43310, 43311]⟩

/-- What Nandinagari shares with other scripts. -/
def nandinagariShares : CodePoints := ⟨[
  2385, 2386, 2404, 2406, 3302, 3312, 7401, 7402, 7410, 7411, 7418, 7419, 43056, 43062]⟩

/-- What Newa shares with other scripts. -/
def newaShares : CodePoints := ⟨[
  2385, 2387, 7381, 7382, 7383, 7385, 7394, 7395, 7401, 7402, 7403, 7404, 7405, 7406]⟩

/-- What Nko shares with other scripts. -/
def nkoShares : CodePoints := ⟨[
  1548, 1549, 1563, 1564, 1567, 1568, 64830, 64832]⟩

/-- What Ol Onal shares with other scripts. -/
def olOnalShares : CodePoints := ⟨[
  2404, 2406]⟩

/-- What Old Hungarian shares with other scripts. -/
def oldHungarianShares : CodePoints := ⟨[
  8282, 8283, 8285, 8286, 11825, 11826, 11841, 11842]⟩

/-- What Old Permic shares with other scripts. -/
def oldPermicShares : CodePoints := ⟨[
  183, 184, 768, 769, 774, 777, 787, 788, 1155, 1156]⟩

/-- What Old Turkic shares with other scripts. -/
def oldTurkicShares : CodePoints := ⟨[
  8282, 8283, 11824, 11825]⟩

/-- What Old Uyghur shares with other scripts. -/
def oldUyghurShares : CodePoints := ⟨[
  1600, 1601, 68338, 68339]⟩

/-- What Oriya shares with other scripts. -/
def oriyaShares : CodePoints := ⟨[
  2385, 2387, 2404, 2406, 7386, 7387, 7410, 7411]⟩

/-- What Osage shares with other scripts. -/
def osageShares : CodePoints := ⟨[
  769, 770, 772, 773, 779, 780, 856, 857]⟩

/-- What Phags Pa shares with other scripts. -/
def phagsPaShares : CodePoints := ⟨[
  6146, 6148, 6149, 6150, 8239, 8240, 12290, 12291]⟩

/-- What Psalter Pahlavi shares with other scripts. -/
def psalterPahlaviShares : CodePoints := ⟨[
  1600, 1601]⟩

/-- What Runic shares with other scripts. -/
def runicShares : CodePoints := ⟨[
  5867, 5870]⟩

/-- What Samaritan shares with other scripts. -/
def samaritanShares : CodePoints := ⟨[
  11825, 11826]⟩

/-- What Sharada shares with other scripts. -/
def sharadaShares : CodePoints := ⟨[
  2385, 2386, 7383, 7384, 7385, 7386, 7388, 7390, 7392, 7393, 7402, 7403, 7405, 7406, 43056,
  43062, 43064, 43065]⟩

/-- What Shavian shares with other scripts. -/
def shavianShares : CodePoints := ⟨[
  183, 184]⟩

/-- What Sinhala shares with other scripts. -/
def sinhalaShares : CodePoints := ⟨[
  2404, 2406, 7410, 7411]⟩

/-- What Sogdian shares with other scripts. -/
def sogdianShares : CodePoints := ⟨[
  1600, 1601]⟩

/-- What Sunuwar shares with other scripts. -/
def sunuwarShares : CodePoints := ⟨[
  768, 770, 771, 772, 781, 782, 784, 785, 813, 814, 817, 818]⟩

/-- What Syloti Nagri shares with other scripts. -/
def sylotiNagriShares : CodePoints := ⟨[
  2404, 2406, 2534, 2544]⟩

/-- What Syriac shares with other scripts. -/
def syriacShares : CodePoints := ⟨[
  771, 773, 775, 777, 778, 779, 803, 806, 813, 815, 816, 818, 1548, 1549, 1563, 1565, 1567, 1568,
  1600, 1601, 1611, 1622, 1648, 1649, 7672, 7673, 7674, 7675]⟩

/-- What Tagalog shares with other scripts. -/
def tagalogShares : CodePoints := ⟨[
  5941, 5943]⟩

/-- What Tagbanwa shares with other scripts. -/
def tagbanwaShares : CodePoints := ⟨[
  5941, 5943]⟩

/-- What Tai Le shares with other scripts. -/
def taiLeShares : CodePoints := ⟨[
  768, 770, 775, 777, 780, 781, 4160, 4170]⟩

/-- What Takri shares with other scripts. -/
def takriShares : CodePoints := ⟨[
  2404, 2406, 43056, 43066]⟩

/-- What Tamil shares with other scripts. -/
def tamilShares : CodePoints := ⟨[
  2385, 2387, 2404, 2406, 7386, 7387, 43251, 43252, 70401, 70402, 70403, 70404, 70459, 70461]⟩

/-- What Tangut shares with other scripts. -/
def tangutShares : CodePoints := ⟨[
  12272, 12288, 12783, 12784]⟩

/-- What Telugu shares with other scripts. -/
def teluguShares : CodePoints := ⟨[
  2385, 2387, 2404, 2406, 7381, 7383, 7384, 7385, 7386, 7387, 7410, 7411]⟩

/-- What Thaana shares with other scripts. -/
def thaanaShares : CodePoints := ⟨[
  1548, 1549, 1563, 1565, 1567, 1568, 1632, 1642, 65010, 65011, 65021, 65022]⟩

/-- What Thai shares with other scripts. -/
def thaiShares : CodePoints := ⟨[
  700, 701, 727, 728, 771, 772, 817, 818]⟩

/-- What Tibetan shares with other scripts. -/
def tibetanShares : CodePoints := ⟨[
  12296, 12300]⟩

/-- What Tifinagh shares with other scripts. -/
def tifinaghShares : CodePoints := ⟨[
  770, 771, 772, 773, 774, 778, 803, 804]⟩

/-- What Tirhuta shares with other scripts. -/
def tirhutaShares : CodePoints := ⟨[
  2385, 2387, 2404, 2406, 7381, 7382, 7394, 7395, 7410, 7411, 43056, 43066]⟩

/-- What Todhri shares with other scripts. -/
def todhriShares : CodePoints := ⟨[
  769, 770, 772, 773, 775, 776, 785, 786, 787, 788, 862, 863]⟩

/-- What Toto shares with other scripts. -/
def totoShares : CodePoints := ⟨[
  700, 701]⟩

/-- What Tulu Tigalari shares with other scripts. -/
def tuluTigalariShares : CodePoints := ⟨[
  3302, 3312, 7410, 7411, 7412, 7413, 43056, 43062, 43249, 43250]⟩

/-- What Yezidi shares with other scripts. -/
def yezidiShares : CodePoints := ⟨[
  1548, 1549, 1563, 1564, 1567, 1568, 1632, 1642]⟩

/-- What Yi shares with other scripts. -/
def yiShares : CodePoints := ⟨[
  12289, 12291, 12296, 12306, 12308, 12316, 12539, 12540, 65377, 65382]⟩

/-- What scripts share, under all their names. -/
def shared : List (String × CodePoints) := [
  ("adlm", adlamShares), ("adlam", adlamShares), ("arab", arabicShares), ("arabic", arabicShares),
  ("armn", armenianShares), ("armenian", armenianShares), ("avst", avestanShares),
  ("avestan", avestanShares), ("beng", bengaliShares), ("bengali", bengaliShares),
  ("bopo", bopomofoShares), ("bopomofo", bopomofoShares), ("bugi", bugineseShares),
  ("buginese", bugineseShares), ("buhd", buhidShares), ("buhid", buhidShares),
  ("cari", carianShares), ("carian", carianShares), ("aghb", caucasianAlbanianShares),
  ("caucasianalbanian", caucasianAlbanianShares), ("cakm", chakmaShares),
  ("chakma", chakmaShares), ("cher", cherokeeShares), ("cherokee", cherokeeShares),
  ("copt", copticShares), ("coptic", copticShares), ("qaac", copticShares),
  ("cprt", cypriotShares), ("cypriot", cypriotShares), ("cpmn", cyproMinoanShares),
  ("cyprominoan", cyproMinoanShares), ("cyrl", cyrillicShares), ("cyrillic", cyrillicShares),
  ("deva", devanagariShares), ("devanagari", devanagariShares), ("dogr", dograShares),
  ("dogra", dograShares), ("dupl", duployanShares), ("duployan", duployanShares),
  ("elba", elbasanShares), ("elbasan", elbasanShares), ("ethi", ethiopicShares),
  ("ethiopic", ethiopicShares), ("gara", garayShares), ("garay", garayShares),
  ("geor", georgianShares), ("georgian", georgianShares), ("glag", glagoliticShares),
  ("glagolitic", glagoliticShares), ("goth", gothicShares), ("gothic", gothicShares),
  ("gran", granthaShares), ("grantha", granthaShares), ("grek", greekShares),
  ("greek", greekShares), ("gujr", gujaratiShares), ("gujarati", gujaratiShares),
  ("gong", gunjalaGondiShares), ("gunjalagondi", gunjalaGondiShares), ("guru", gurmukhiShares),
  ("gurmukhi", gurmukhiShares), ("gukh", gurungKhemaShares), ("gurungkhema", gurungKhemaShares),
  ("hani", hanShares), ("han", hanShares), ("hang", hangulShares), ("hangul", hangulShares),
  ("rohg", hanifiRohingyaShares), ("hanifirohingya", hanifiRohingyaShares),
  ("hano", hanunooShares), ("hanunoo", hanunooShares), ("hebr", hebrewShares),
  ("hebrew", hebrewShares), ("hira", hiraganaShares), ("hiragana", hiraganaShares),
  ("java", javaneseShares), ("javanese", javaneseShares), ("kthi", kaithiShares),
  ("kaithi", kaithiShares), ("knda", kannadaShares), ("kannada", kannadaShares),
  ("kana", katakanaShares), ("katakana", katakanaShares), ("kali", kayahLiShares),
  ("kayahli", kayahLiShares), ("khoj", khojkiShares), ("khojki", khojkiShares),
  ("sind", khudawadiShares), ("khudawadi", khudawadiShares), ("latn", latinShares),
  ("latin", latinShares), ("limb", limbuShares), ("limbu", limbuShares), ("lina", linearAShares),
  ("lineara", linearAShares), ("linb", linearBShares), ("linearb", linearBShares),
  ("lisu", lisuShares), ("lyci", lycianShares), ("lycian", lycianShares), ("lydi", lydianShares),
  ("lydian", lydianShares), ("mahj", mahajaniShares), ("mahajani", mahajaniShares),
  ("mlym", malayalamShares), ("malayalam", malayalamShares), ("mand", mandaicShares),
  ("mandaic", mandaicShares), ("mani", manichaeanShares), ("manichaean", manichaeanShares),
  ("gonm", masaramGondiShares), ("masaramgondi", masaramGondiShares),
  ("mero", meroiticHieroglyphsShares), ("meroitichieroglyphs", meroiticHieroglyphsShares),
  ("modi", modiShares), ("mong", mongolianShares), ("mongolian", mongolianShares),
  ("mult", multaniShares), ("multani", multaniShares), ("mymr", myanmarShares),
  ("myanmar", myanmarShares), ("nand", nandinagariShares), ("nandinagari", nandinagariShares),
  ("newa", newaShares), ("nkoo", nkoShares), ("nko", nkoShares), ("onao", olOnalShares),
  ("olonal", olOnalShares), ("hung", oldHungarianShares), ("oldhungarian", oldHungarianShares),
  ("perm", oldPermicShares), ("oldpermic", oldPermicShares), ("orkh", oldTurkicShares),
  ("oldturkic", oldTurkicShares), ("ougr", oldUyghurShares), ("olduyghur", oldUyghurShares),
  ("orya", oriyaShares), ("oriya", oriyaShares), ("osge", osageShares), ("osage", osageShares),
  ("phag", phagsPaShares), ("phagspa", phagsPaShares), ("phlp", psalterPahlaviShares),
  ("psalterpahlavi", psalterPahlaviShares), ("runr", runicShares), ("runic", runicShares),
  ("samr", samaritanShares), ("samaritan", samaritanShares), ("shrd", sharadaShares),
  ("sharada", sharadaShares), ("shaw", shavianShares), ("shavian", shavianShares),
  ("sinh", sinhalaShares), ("sinhala", sinhalaShares), ("sogd", sogdianShares),
  ("sogdian", sogdianShares), ("sunu", sunuwarShares), ("sunuwar", sunuwarShares),
  ("sylo", sylotiNagriShares), ("sylotinagri", sylotiNagriShares), ("syrc", syriacShares),
  ("syriac", syriacShares), ("tglg", tagalogShares), ("tagalog", tagalogShares),
  ("tagb", tagbanwaShares), ("tagbanwa", tagbanwaShares), ("tale", taiLeShares),
  ("taile", taiLeShares), ("takr", takriShares), ("takri", takriShares), ("taml", tamilShares),
  ("tamil", tamilShares), ("tang", tangutShares), ("tangut", tangutShares),
  ("telu", teluguShares), ("telugu", teluguShares), ("thaa", thaanaShares),
  ("thaana", thaanaShares), ("thai", thaiShares), ("tibt", tibetanShares),
  ("tibetan", tibetanShares), ("tfng", tifinaghShares), ("tifinagh", tifinaghShares),
  ("tirh", tirhutaShares), ("tirhuta", tirhutaShares), ("todr", todhriShares),
  ("todhri", todhriShares), ("toto", totoShares), ("tutg", tuluTigalariShares),
  ("tulutigalari", tuluTigalariShares), ("yezi", yezidiShares), ("yezidi", yezidiShares),
  ("yiii", yiShares), ("yi", yiShares)]

/-- What the script called `name` shares with others; most scripts share nothing. -/
def shared? (name : String) : Option CodePoints := shared.lookup name

end FederatedQuery.Script
