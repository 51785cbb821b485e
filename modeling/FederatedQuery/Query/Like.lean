/-
  Wildcard patterns.

  In a wildcard pattern `%` stands for any run of characters and every other character for itself.

  * `Like.toPattern`: the regular expression that covers a whole text as the wildcard pattern does.
-/

namespace FederatedQuery.Like

/-- The characters with a meaning of their own in regular expressions. -/
def special : List Char :=
  ['\\', '.', '+', '*', '?', '(', ')', '|', '[', ']', '\x7b', '\x7d', '^', '$', '#', '&', '-', '~']

/-- A regular expression for the text itself: special characters follow a backslash. -/
def escape (text : List Char) : List Char :=
  text.flatMap fun c => if c ∈ special then ['\\', c] else [c]

/-- The characters of the regular expression for a wildcard pattern: the literal pieces between the
    wildcards, with `.*` for each wildcard, anchored at both ends. -/
def toPatternChars (like : List Char) : List Char :=
  '^' :: (['.', '*'].intercalate ((like.splitOn '%').map escape) ++ ['$'])

/-- The regular expression for a wildcard pattern. -/
def toPattern (like : String) : String := String.ofList (toPatternChars like.toList)

end FederatedQuery.Like
