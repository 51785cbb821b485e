/-
  Tokens of a statement.

  * `Token`: the words, literals, operators and punctuation of which a statement is made.  The end
    of a statement is no token: where the next token may be missing, it is an `Option Token`;
  * `Token.text`: the canonical spelling of a token;
  * `Token.isUnsupported`: the tokens that are refused by name wherever another one should stand.
-/
import FederatedQuery.Statement.Keyword
import FederatedQuery.Text.Quoted

namespace FederatedQuery

/-- A token of a statement. -/
inductive Token where
  | keyword (k : Keyword)
  /-- A word that is not reserved, as it was spelled. -/
  | ident (name : String)
  /-- A quoted text, without its quotes. -/
  | literal (value : String)
  | number (value : Int)
  | equals
  | notEquals
  | less
  | lessEq
  | greater
  | greaterEq
  | star
  | comma
  | openParen
  | closeParen
  | semicolon
  deriving DecidableEq, Repr

namespace Token

/-- The canonical spelling of a token: keywords in capitals, `!=` for both spellings of that
    operator, words as they were. -/
def text : Token → String
  | keyword k => k.text
  | ident name => name
  | literal value => Text.quoted value
  | number value => value.repr
  | equals => "="
  | notEquals => "!="
  | less => "<"
  | lessEq => "<="
  | greater => ">"
  | greaterEq => ">="
  | star => "*"
  | comma => ","
  | openParen => "("
  | closeParen => ")"
  | semicolon => ";"

/-- The comparisons by order, which no statement may use. -/
def isOrdering : Token → Bool
  | less | lessEq | greater | greaterEq => true
  | _ => false

/-- Tokens that belong to the language but not to the part of it that is understood here. -/
def isUnsupported : Token → Bool
  | keyword k => !k.isSupported
  | t => t.isOrdering

/-- How messages name what was found: the token, or the end of the statement. -/
def describe : Option Token → String
  | some t => t.text
  | none => "end of input"

end Token

end FederatedQuery
