/-
  Quoted texts.

  A text between single quotes may hold any character; a quote inside is written twice.

  * `quoted`: the written form of a text;
  * `unquote`: what stands before the closing quote, and what follows it.
-/

namespace FederatedQuery.Text

/-- Writes every single quote twice. -/
def doubleQuotes (text : List Char) : List Char :=
  text.flatMap fun c => if c = '\'' then ['\'', '\''] else [c]

theorem doubleQuotes_cons_of_ne {c : Char} (hc : c ≠ '\'') (text : List Char) :
    doubleQuotes (c :: text) = c :: doubleQuotes text := by
  simp [doubleQuotes, hc]

/-- A text between quotes, with the quotes inside it doubled. -/
def quoted (text : String) : String :=
  "'" ++ String.ofList (doubleQuotes text.toList) ++ "'"

/-- Reads the rest of a quoted text, after `done` (in reverse), up to the closing quote.  There is no
    answer when no quote closes it. -/
def unquote (done : List Char) : List Char → Option (List Char × List Char)
  | [] => none
  | '\'' :: '\'' :: rest => unquote ('\'' :: done) rest
  | '\'' :: rest => some (done.reverse, rest)
  | c :: rest => unquote (c :: done) rest

/-- What is left after a quoted text is shorter than the text with its closing quote. -/
theorem length_of_unquote {done input text rest : List Char}
    (h : unquote done input = some (text, rest)) : rest.length < input.length := by
  fun_induction unquote done input with
  | case1 => simp at h
  | case2 _ _ ih => have := ih h; simp; omega
  | case3 => simp at h; simp [h.2]
  | case4 _ _ _ _ _ ih => have := ih h; simp; omega

end FederatedQuery.Text
