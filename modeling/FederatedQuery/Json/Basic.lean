/-
  JSON values.

  * `Json`: a value; numbers are kept as they are written, objects as lists of fields;
  * `Json.chars`, `Json.text`: the value without any blanks;
  * `Json.escape`: how a character is written inside a string;
  * `Json.depth`: how deeply arrays and objects nest in it;
  * `Json.ofNat`, `.ofInt`, `.ofStrings`: values for numbers and lists of strings.
-/

namespace FederatedQuery

/-- A JSON value. -/
inductive Json where
  | null
  | bool (b : Bool)
  /-- A number, as it is written. -/
  | number (literal : String)
  | string (s : String)
  | array (items : List Json)
  /-- The fields in the order in which they are written; a name may come twice. -/
  | object (fields : List (String × Json))
  deriving BEq, Repr

namespace Json

/-! ## Writing -/

/-- The hexadecimal digit for a number below 16. -/
def hexDigit (n : Nat) : Char := Nat.digitChar n

/-- A character inside a string.  Quotes, backslashes and control characters are escaped, by a letter
    where there is one. -/
def escape (c : Char) : List Char :=
  if c = '"' then ['\\', '"']
  else if c = '\\' then ['\\', '\\']
  else if c = '\x08' then ['\\', 'b']
  else if c = '\t' then ['\\', 't']
  else if c = '\n' then ['\\', 'n']
  else if c = '\x0c' then ['\\', 'f']
  else if c = '\r' then ['\\', 'r']
  else if c.toNat < 32 then ['\\', 'u', '0', '0', hexDigit (c.toNat / 16), hexDigit (c.toNat % 16)]
  else [c]

/-- A string between quotes. -/
def quote (s : String) : List Char := '"' :: (s.toList.flatMap escape ++ ['"'])

mutual

/-- The characters of the value without any blanks. -/
def chars : Json → List Char
  | null => ['n', 'u', 'l', 'l']
  | bool true => ['t', 'r', 'u', 'e']
  | bool false => ['f', 'a', 'l', 's', 'e']
  | number literal => literal.toList
  | string s => quote s
  | array items => '[' :: (itemsChars items ++ [']'])
  | object fields => '\x7b' :: (fieldsChars fields ++ ['\x7d'])

/-- The items of an array, with commas between them. -/
def itemsChars : List Json → List Char
  | [] => []
  | [v] => v.chars
  | v :: vs => v.chars ++ ',' :: itemsChars vs

/-- The fields of an object, with commas between them. -/
def fieldsChars : List (String × Json) → List Char
  | [] => []
  | [(name, v)] => quote name ++ ':' :: v.chars
  | (name, v) :: fields => quote name ++ ':' :: (v.chars ++ ',' :: fieldsChars fields)

end

/-- The value without any blanks. -/
def text (v : Json) : String := String.ofList v.chars

/-! ## Depth -/

mutual

/-- The greatest number of arrays and objects around any place of the value, itself included. -/
def depth : Json → Nat
  | array items => depthOfItems items + 1
  | object fields => depthOfFields fields + 1
  | _ => 0

/-- The depth of the deepest item. -/
def depthOfItems : List Json → Nat
  | [] => 0
  | v :: vs => max v.depth (depthOfItems vs)

/-- The depth of the deepest field. -/
def depthOfFields : List (String × Json) → Nat
  | [] => 0
  | (_, v) :: fields => max v.depth (depthOfFields fields)

end

/-! ## Building values -/

/-- A natural number, in digits. -/
def ofNat (n : Nat) : Json := .number n.repr

/-- An integer, in digits. -/
def ofInt (n : Int) : Json := .number n.repr

/-- A list of strings. -/
def ofStrings (ss : List String) : Json := .array (ss.map .string)

end Json

end FederatedQuery
