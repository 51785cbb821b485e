/-
  Characters that are not seen.

  * `Property.bidiControl`, `.prependedConcatenationMark`, `.defaultIgnorable`: characters that steer how
    others are shown;
  * `Property.noncharacter`, `.deprecated`: what texts should not contain.
-/
import FederatedQuery.Pattern.Property.Mark

namespace FederatedQuery.Property

/-- Characters that steer the direction of a text. -/
def bidiControl : CodePoints := ⟨[
  1564, 1565, 8206, 8208, 8234, 8239, 8294, 8298]⟩

/-- Signs that reach over the characters behind them. -/
def prependedConcatenationMark : CodePoints := ⟨[
  1536, 1542, 1757, 1758, 1807, 1808, 2192, 2194, 2274, 2275, 69821, 69822, 69837, 69838]⟩

/-- Characters that are not shown if a font lacks them, beyond the format characters. -/
def otherDefaultIgnorable : CodePoints := ⟨[
  847, 848, 4447, 4449, 6068, 6070, 8293, 8294, 12644, 12645, 65440, 65441, 65520, 65529, 917504,
  917505, 917506, 917536, 917632, 917760, 918000, 921600]⟩

/-- The signs by which hieroglyphs are put together. -/
def hieroglyphFormat : CodePoints := ⟨[
  78896, 78912]⟩

/-- Characters that are not shown if a font lacks them. -/
def defaultIgnorable : CharClass :=
  .difference (.unionAll [.points Category.format, .points variationSelector, .points
    otherDefaultIgnorable]) (.unionAll [.points prependedConcatenationMark, .range '\ufff9'
    '\ufffb', .points hieroglyphFormat])

/-- Code points that never get a character. -/
def noncharacter : CodePoints := ⟨[
  64976, 65008, 65534, 65536, 131070, 131072, 196606, 196608, 262142, 262144, 327678, 327680,
  393214, 393216, 458750, 458752, 524286, 524288, 589822, 589824, 655358, 655360, 720894, 720896,
  786430, 786432, 851966, 851968, 917502, 917504, 983038, 983040, 1048574, 1048576, 1114110,
  1114112]⟩

/-- Characters that are out of use. -/
def deprecated : CodePoints := ⟨[
  329, 330, 1651, 1652, 3959, 3960, 3961, 3962, 6051, 6053, 8298, 8304, 9001, 9003, 917505, 917506]⟩

end FederatedQuery.Property
