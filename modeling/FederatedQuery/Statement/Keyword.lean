/-
  Reserved words.

  * `Keyword`: the reserved words; only some of them have a meaning, the others are reserved so that
    they can be refused by name;
  * `Keyword.text`, `Keyword.isSupported`: how one is written, and whether a statement may use it;
  * `Keyword.ofWord?`: the reserved word that a word spells, whatever the case of its ASCII letters.
-/

namespace FederatedQuery

/-- A reserved word. -/
inductive Keyword where
  | select | from_ | where_ | limit | and | or | like
  | not | in_ | between | is | null | offset | orderBy | group | having | join | on | as_
  deriving DecidableEq, Repr

/-- Whether `word` is `text` when the case of ASCII letters does not count; `text` is in capitals. -/
def spells (text : String) (word : List Char) : Bool :=
  word.map Char.toUpper == text.toList

namespace Keyword

/-- The written form, in capitals. -/
def text : Keyword → String
  | select => "SELECT"
  | from_ => "FROM"
  | where_ => "WHERE"
  | limit => "LIMIT"
  | and => "AND"
  | or => "OR"
  | like => "LIKE"
  | not => "NOT"
  | in_ => "IN"
  | between => "BETWEEN"
  | is => "IS"
  | null => "NULL"
  | offset => "OFFSET"
  | orderBy => "ORDER BY"
  | group => "GROUP"
  | having => "HAVING"
  | join => "JOIN"
  | on => "ON"
  | as_ => "AS"

/-- The reserved words that a statement may use. -/
def isSupported : Keyword → Bool
  | select | from_ | where_ | limit | and | or | like => true
  | _ => false

/-- All reserved words. -/
def all : List Keyword :=
  [select, from_, where_, limit, and, or, like, not, in_, between, is, null, offset, orderBy,
    group, having, join, on, as_]

theorem mem_all (k : Keyword) : k ∈ all := by cases k <;> decide

/-- The reserved word that a single word spells. -/
def ofWord? (word : List Char) : Option Keyword :=
  all.find? fun k => spells k.text word

end Keyword

end FederatedQuery
