/-
  Marks, and what goes with a letter.

  * `Property.graphemeExtend`, `.graphemeBase`, `.graphemeLink`: what a character as seen by a reader
    consists of;
  * `Property.diacritic`, `.extender`, `.logicalOrderException`, `.modifierCombiningMark`,
    `.variationSelector`: kinds of marks.
-/
import FederatedQuery.Pattern.CharClass
import FederatedQuery.Text.Category.Mark
import FederatedQuery.Text.Category.Other
import FederatedQuery.Text.Category.Separator

namespace FederatedQuery.Property

/-- Characters that go with the one before them and are no marks without room. -/
def otherGraphemeExtend : CodePoints := ⟨[
  2494, 2495, 2519, 2520, 2878, 2879, 2903, 2904, 3006, 3007, 3031, 3032, 3264, 3265, 3266, 3267,
  3271, 3273, 3274, 3276, 3285, 3287, 3390, 3391, 3415, 3416, 3535, 3536, 3551, 3552, 5909, 5910,
  5940, 5941, 6965, 6966, 6971, 6972, 6973, 6974, 6979, 6981, 7082, 7083, 7154, 7156, 8204, 8205,
  12334, 12336, 43347, 43348, 43456, 43457, 65438, 65440, 70080, 70081, 70197, 70198, 70462,
  70463, 70477, 70478, 70487, 70488, 70584, 70585, 70594, 70595, 70597, 70598, 70599, 70602,
  70607, 70608, 70832, 70833, 70845, 70846, 71087, 71088, 71350, 71351, 71984, 71985, 71997,
  71998, 73537, 73538, 94192, 94194, 119141, 119143, 119149, 119155, 917536, 917632]⟩

/-- The characters that go with the one before them. -/
def graphemeExtend : CharClass :=
  .unionAll [.points Category.nonspacingMark, .points Category.enclosingMark, .points
    otherGraphemeExtend]

/-- The characters that stand for themselves. -/
def graphemeBase : CharClass :=
  .complement (.unionAll [.points Category.control, .points Category.format, .points
    Category.privateUse, .points Category.unassigned, .points Category.lineSeparator, .points
    Category.paragraphSeparator, graphemeExtend])

/-- Marks that join two letters to one. -/
def graphemeLink : CodePoints := ⟨[
  2381, 2382, 2509, 2510, 2637, 2638, 2765, 2766, 2893, 2894, 3021, 3022, 3149, 3150, 3277, 3278,
  3387, 3389, 3405, 3406, 3530, 3531, 3642, 3643, 3770, 3771, 3972, 3973, 4153, 4155, 5908, 5910,
  5940, 5941, 6098, 6099, 6752, 6753, 6980, 6981, 7082, 7084, 7154, 7156, 11647, 11648, 43014,
  43015, 43052, 43053, 43204, 43205, 43347, 43348, 43456, 43457, 43766, 43767, 44013, 44014,
  68159, 68160, 69702, 69703, 69744, 69745, 69759, 69760, 69817, 69818, 69939, 69941, 70080,
  70081, 70197, 70198, 70378, 70379, 70477, 70478, 70606, 70609, 70722, 70723, 70850, 70851,
  71103, 71104, 71231, 71232, 71350, 71351, 71467, 71468, 71737, 71738, 71997, 71999, 72160,
  72161, 72244, 72245, 72263, 72264, 72345, 72346, 72767, 72768, 73028, 73030, 73111, 73112,
  73537, 73539, 90415, 90416]⟩

/-- Marks and signs that change what a letter stands for. -/
def diacritic : CodePoints := ⟨[
  94, 95, 96, 97, 168, 169, 175, 176, 180, 181, 183, 185, 688, 847, 848, 856, 861, 867, 884, 886,
  890, 891, 900, 902, 1155, 1160, 1369, 1370, 1425, 1470, 1471, 1472, 1473, 1475, 1476, 1478,
  1479, 1480, 1611, 1619, 1623, 1625, 1759, 1761, 1765, 1767, 1770, 1773, 1840, 1867, 1958, 1969,
  2027, 2038, 2072, 2074, 2200, 2208, 2249, 2259, 2275, 2303, 2364, 2365, 2381, 2382, 2385, 2389,
  2417, 2418, 2492, 2493, 2509, 2510, 2620, 2621, 2637, 2638, 2748, 2749, 2765, 2766, 2813, 2816,
  2876, 2877, 2893, 2894, 2901, 2902, 3021, 3022, 3132, 3133, 3149, 3150, 3260, 3261, 3277, 3278,
  3387, 3389, 3405, 3406, 3530, 3531, 3642, 3643, 3655, 3661, 3662, 3663, 3770, 3771, 3784, 3789,
  3864, 3866, 3893, 3894, 3895, 3896, 3897, 3898, 3902, 3904, 3970, 3973, 3974, 3976, 4038, 4039,
  4151, 4152, 4153, 4155, 4195, 4197, 4201, 4206, 4231, 4238, 4239, 4240, 4250, 4252, 4957, 4960,
  5908, 5910, 5940, 5941, 6089, 6100, 6109, 6110, 6457, 6460, 6752, 6753, 6773, 6781, 6783, 6784,
  6832, 6847, 6849, 6860, 6964, 6965, 6980, 6981, 7019, 7028, 7082, 7084, 7142, 7143, 7154, 7156,
  7222, 7224, 7288, 7294, 7376, 7401, 7405, 7406, 7412, 7413, 7415, 7418, 7468, 7531, 7579, 7615,
  7620, 7632, 7669, 7680, 8125, 8126, 8127, 8130, 8141, 8144, 8157, 8160, 8173, 8176, 8189, 8191,
  11503, 11506, 11823, 11824, 12330, 12336, 12441, 12445, 12540, 12541, 42607, 42608, 42620,
  42622, 42623, 42624, 42652, 42654, 42736, 42738, 42752, 42786, 42888, 42891, 43000, 43002,
  43014, 43015, 43052, 43053, 43204, 43205, 43232, 43250, 43307, 43311, 43347, 43348, 43443,
  43444, 43456, 43457, 43493, 43494, 43643, 43646, 43711, 43715, 43766, 43767, 43867, 43872,
  43881, 43884, 44012, 44014, 64286, 64287, 65056, 65072, 65342, 65343, 65344, 65345, 65392,
  65393, 65438, 65440, 65507, 65508, 66272, 66273, 67456, 67462, 67463, 67505, 67506, 67515,
  68152, 68155, 68159, 68160, 68325, 68327, 68898, 68904, 68942, 68943, 68969, 68974, 69373,
  69376, 69446, 69457, 69506, 69510, 69702, 69703, 69744, 69745, 69817, 69819, 69939, 69941,
  70003, 70004, 70080, 70081, 70090, 70093, 70197, 70199, 70377, 70379, 70459, 70461, 70477,
  70478, 70502, 70509, 70512, 70517, 70606, 70609, 70610, 70612, 70625, 70627, 70722, 70723,
  70726, 70727, 70850, 70852, 71103, 71105, 71231, 71232, 71350, 71352, 71467, 71468, 71737,
  71739, 71997, 71999, 72003, 72004, 72160, 72161, 72244, 72245, 72263, 72264, 72345, 72346,
  72767, 72768, 73026, 73027, 73028, 73030, 73111, 73112, 73537, 73539, 73562, 73563, 78919,
  78934, 90415, 90416, 92912, 92917, 92976, 92983, 93547, 93549, 94095, 94112, 94192, 94194,
  110576, 110580, 110581, 110588, 110589, 110591, 118528, 118574, 118576, 118599, 119143, 119146,
  119149, 119155, 119163, 119171, 119173, 119180, 119210, 119214, 122928, 122990, 123184, 123191,
  123566, 123567, 123628, 123632, 124398, 124400, 125136, 125143, 125252, 125255, 125256, 125259]⟩

/-- Characters that lengthen or repeat the one before them. -/
def extender : CodePoints := ⟨[
  183, 184, 720, 722, 1600, 1601, 2042, 2043, 2673, 2674, 2811, 2812, 2901, 2902, 3654, 3655,
  3782, 3783, 6154, 6155, 6211, 6212, 6823, 6824, 7222, 7223, 7291, 7292, 12293, 12294, 12337,
  12342, 12445, 12447, 12540, 12543, 40981, 40982, 42508, 42509, 43471, 43472, 43494, 43495,
  43632, 43633, 43741, 43742, 43763, 43765, 65392, 65393, 67457, 67459, 68942, 68943, 68970,
  68971, 68975, 68976, 70199, 70200, 70493, 70494, 70610, 70612, 71110, 71113, 72344, 72345,
  92994, 92996, 94176, 94178, 94179, 94180, 123196, 123198, 124399, 124400, 125252, 125255]⟩

/-- Vowels that are written in front of the consonant behind which they are spoken. -/
def logicalOrderException : CodePoints := ⟨[
  3648, 3653, 3776, 3781, 6581, 6584, 6586, 6587, 43701, 43703, 43705, 43706, 43707, 43709]⟩

/-- Marks that come next to their letter, whatever their class. -/
def modifierCombiningMark : CodePoints := ⟨[
  1620, 1622, 1624, 1625, 1756, 1757, 1763, 1764, 1767, 1769, 2250, 2252, 2253, 2256, 2259, 2260,
  2291, 2292]⟩

/-- Marks that choose among the forms of a character. -/
def variationSelector : CodePoints := ⟨[
  6155, 6158, 6159, 6160, 65024, 65040, 917760, 918000]⟩

end FederatedQuery.Property
