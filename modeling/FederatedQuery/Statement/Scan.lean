/-
  From text to tokens.

  * `Scan.next`: the first token of a text, and what follows it.  After an error scanning goes on
    behind the offending character, behind the digits of a number that is too large, or at the end
    of a text that was never closed;
  * `Scan.all`: all tokens and errors of a text;
  * `Scan.tokens?`: the tokens of a text without errors, or the first error.
-/
import FederatedQuery.Statement.Token
import FederatedQuery.Text.Alphanumeric
import FederatedQuery.Text.Blank
import FederatedQuery.Text.Decimal

namespace FederatedQuery

/-- Why no token could be read. -/
inductive ScanError where
  | unexpectedCharacter (c : Char)
  /-- A number that does not fit 64 bits, as it was spelled. -/
  | numberOutOfRange (lexeme : String)
  | unterminatedText
  deriving DecidableEq, Repr

/-- What the user is told. -/
def ScanError.message : ScanError → String
  | unexpectedCharacter c => "Unexpected character '" ++ c.toString ++ "'"
  | numberOutOfRange lexeme => "Number out of range: " ++ lexeme
  | unterminatedText => "String literal is missing its closing quote"

namespace Scan

/-! ## The kinds of token -/

/-- Operators and punctuation, the longer spelling first. -/
def symbol? : List Char → Option (Token × List Char)
  | '*' :: rest => some (.star, rest)
  | ',' :: rest => some (.comma, rest)
  | '(' :: rest => some (.openParen, rest)
  | ')' :: rest => some (.closeParen, rest)
  | ';' :: rest => some (.semicolon, rest)
  | '=' :: rest => some (.equals, rest)
  | '<' :: '=' :: rest => some (.lessEq, rest)
  | '<' :: '>' :: rest => some (.notEquals, rest)
  | '<' :: rest => some (.less, rest)
  | '>' :: '=' :: rest => some (.greaterEq, rest)
  | '>' :: rest => some (.greater, rest)
  | '!' :: '=' :: rest => some (.notEquals, rest)
  | _ => none

/-- The number spelled by `digits`, after a minus sign or not.  Numbers are those of 64 bits. -/
def number (negative : Bool) (digits : List Char) : Except ScanError Token :=
  match Decimal.read? (if negative then Nat.pow 2 63 else Nat.pow 2 63 - 1) digits with
  | some n => .ok (.number (if negative then -n else n))
  | none => .error (.numberOutOfRange (String.ofList (if negative then '-' :: digits else digits)))

/-- The characters with which a word begins. -/
def beginsWord (c : Char) : Bool := Text.isAlphabetic c || c = '_'

/-- The characters with which a word goes on. -/
def inWord (c : Char) : Bool := Text.isAlphanumeric c || c = '_' || c = '.'

/-- What follows the letters `BY`, if these are the letters after any blanks. -/
def afterBy? (input : List Char) : Option (List Char) :=
  let input := input.dropWhile Text.isBlank
  if spells "BY" (input.takeWhile Text.isAlphabetic) then some (input.dropWhile Text.isAlphabetic)
  else none

/-- The token for a word and what follows it: `ORDER` forms a keyword with the letters `BY` after
    it, other words are keywords or names on their own. -/
def word (name rest : List Char) : Token × List Char :=
  match (if spells "ORDER" name then afterBy? rest else none) with
  | some rest => (.keyword .orderBy, rest)
  | none =>
    match Keyword.ofWord? name with
    | some k => (.keyword k, rest)
    | none => (.ident (String.ofList name), rest)

/-! ## One token -/

/-- The token that begins with `c`, or the error there, and what follows it. -/
def token (c : Char) (rest : List Char) : Except ScanError Token × List Char :=
  match symbol? (c :: rest) with
  | some (t, rest) => (.ok t, rest)
  | none =>
    if c = '\'' then
      match Text.unquote [] rest with
      | some (value, rest) => (.ok (.literal (String.ofList value)), rest)
      | none => (.error .unterminatedText, [])
    else if c = '-' && rest.head?.any Char.isDigit then
      (number true (rest.takeWhile Char.isDigit), rest.dropWhile Char.isDigit)
    else if c.isDigit then
      (number false (c :: rest.takeWhile Char.isDigit), rest.dropWhile Char.isDigit)
    else if beginsWord c then
      (word (c :: rest.takeWhile inWord) (rest.dropWhile inWord)).map .ok id
    else
      (.error (.unexpectedCharacter c), rest)

/-- The first token after any blanks, or the error there, and what follows it.  There is no token
    when only blanks are left. -/
def next (input : List Char) : Option (Except ScanError Token × List Char) :=
  match input.dropWhile Text.isBlank with
  | [] => none
  | c :: rest => some (token c rest)

theorem length_of_symbol? {input rest : List Char} {t : Token}
    (h : symbol? input = some (t, rest)) : rest.length < input.length := by
  revert h
  fun_cases symbol? input <;> intro h <;> cases h <;> simp only [List.length_cons] <;> omega

theorem length_dropWhile_le (p : Char → Bool) (input : List Char) :
    (input.dropWhile p).length ≤ input.length :=
  (List.dropWhile_sublist p).length_le

theorem length_of_afterBy? {input rest : List Char} (h : afterBy? input = some rest) :
    rest.length ≤ input.length := by
  simp only [afterBy?] at h
  split at h
  · cases h
    exact Nat.le_trans (length_dropWhile_le ..) (length_dropWhile_le ..)
  · cases h

theorem length_word_le (name rest : List Char) : (word name rest).2.length ≤ rest.length := by
  unfold word
  split
  · next h =>
    split at h
    · exact length_of_afterBy? h
    · cases h
  · split <;> simp

/-- A token is never longer than the text. -/
theorem length_token_le (c : Char) (rest : List Char) : (token c rest).2.length ≤ rest.length := by
  unfold token
  split
  · next h => have := length_of_symbol? h; simp at this ⊢; omega
  · split
    · split
      · next h => have := Text.length_of_unquote h; simp; omega
      · simp
    · repeat' split
      · exact length_dropWhile_le ..
      · exact length_dropWhile_le ..
      · exact Nat.le_trans (length_word_le _ _) (length_dropWhile_le ..)
      · simp

/-- Every token and every error takes at least one character. -/
theorem length_of_next {input rest : List Char} {t : Except ScanError Token}
    (h : next input = some (t, rest)) : rest.length < input.length := by
  simp only [next] at h
  split at h
  · cases h
  · next c cs hd =>
    have h1 := length_token_le c cs
    have h2 := length_dropWhile_le Text.isBlank input
    rw [hd] at h2
    simp only [Option.some.injEq] at h
    simp only [h, List.length_cons] at h1 h2
    omega

/-! ## All tokens -/

/-- The tokens and errors of a text, after those of `done` (in reverse). -/
def allOnto (done : List (Except ScanError Token)) (input : List Char) :
    List (Except ScanError Token) :=
  match _h : next input with
  | none => done.reverse
  | some (t, rest) => allOnto (t :: done) rest
termination_by input.length
decreasing_by exact length_of_next _h

/-- The tokens and errors of a text, in order. -/
def all (input : List Char) : List (Except ScanError Token) := allOnto [] input

theorem allOnto_append (done before : List (Except ScanError Token)) (input : List Char) :
    allOnto (done ++ before) input = before.reverse ++ allOnto done input := by
  fun_induction allOnto done input with
  | case1 done input h =>
    rw [allOnto]
    split <;> simp_all
  | case2 done input t rest h ih =>
    rw [allOnto]
    split <;> simp_all

/-- A text without tokens. -/
theorem all_of_next_eq_none {input : List Char} (h : next input = none) : all input = [] := by
  rw [all, allOnto]
  split <;> simp_all

/-- The first token of a text, and those of the rest. -/
theorem all_of_next_eq_some {input rest : List Char} {t : Except ScanError Token}
    (h : next input = some (t, rest)) : all input = t :: all rest := by
  rw [all, allOnto]
  split
  · simp_all
  · next u rest' h' =>
    simp only [h, Option.some.injEq, Prod.mk.injEq] at h'
    simpa [h'.1, h'.2, all] using allOnto_append [] [u] rest'

/-- The tokens of a text, or the first error in it. -/
def tokens? (text : String) : Except ScanError (List Token) :=
  (all text.toList).mapM id

end Scan

end FederatedQuery
