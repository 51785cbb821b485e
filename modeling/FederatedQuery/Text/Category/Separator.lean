/-
  Separators by general category.
-/
import FederatedQuery.Text.CodePoints

namespace FederatedQuery.Category

/-- Spaces. -/
def spaceSeparator : CodePoints := ⟨[
  32, 33, 160, 161, 5760, 5761, 8192, 8203, 8239, 8240, 8287, 8288, 12288, 12289]⟩

/-- The line separator. -/
def lineSeparator : CodePoints := ⟨[
  8232, 8233]⟩

/-- The paragraph separator. -/
def paragraphSeparator : CodePoints := ⟨[
  8233, 8234]⟩

end FederatedQuery.Category
