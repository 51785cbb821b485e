/-
  Ideographs and their parts.

  * `Property.ideographic`, `.unifiedIdeograph`, `.radical`: ideographs;
  * `Property.descriptionOfOne` and its kin: operators that describe an ideograph by its parts.
-/
import FederatedQuery.Pattern.CharClass

namespace FederatedQuery.Property

/-- Ideographs of all scripts. -/
def ideographic : CodePoints := ⟨[
  12294, 12296, 12321, 12330, 12344, 12347, 13312, 19904, 19968, 40960, 63744, 64110, 64112,
  64218, 94180, 94181, 94208, 100344, 100352, 101590, 101631, 101641, 110960, 111356, 131072,
  173792, 173824, 177978, 177984, 178206, 178208, 183970, 183984, 191457, 191472, 192094, 194560,
  195102, 196608, 201547, 201552, 205744]⟩

/-- The ideographs that several languages share. -/
def unifiedIdeograph : CodePoints := ⟨[
  13312, 19904, 19968, 40960, 64014, 64016, 64017, 64018, 64019, 64021, 64031, 64032, 64033,
  64034, 64035, 64037, 64039, 64042, 131072, 173792, 173824, 177978, 177984, 178206, 178208,
  183970, 183984, 191457, 191472, 192094, 196608, 201547, 201552, 205744]⟩

/-- The parts by which ideographs are sorted. -/
def radical : CodePoints := ⟨[
  11904, 11930, 11931, 12020, 12032, 12246]⟩

/-- Operators on one part. -/
def descriptionOfOne : CodePoints := ⟨[
  12286, 12288]⟩

/-- Operators on two parts. -/
def descriptionOfTwo : CodePoints := ⟨[
  12272, 12274, 12276, 12286, 12783, 12784]⟩

/-- Operators on three parts. -/
def descriptionOfThree : CodePoints := ⟨[
  12274, 12276]⟩

end FederatedQuery.Property
