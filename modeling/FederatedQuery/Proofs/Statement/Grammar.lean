/-
  The grammar of statements, as derivations of lists of tokens.

  * `Grammar.Comparison ts p`: the three tokens of a comparison, and its predicate;
  * `Grammar.Condition rank depth ts p`: the phrases of a condition, with the number of parentheses
    around the innermost place.  Chains grow to the left, and AND binds tighter than OR;
  * `Grammar.Statement depth ts q`: statements with their queries; what follows a semicolon does not
    matter.
-/
import FederatedQuery.Query.Basic
import FederatedQuery.Statement.Token
import FederatedQuery.Text.LowerCase

namespace FederatedQuery

namespace Grammar

/-! ## Comparisons -/

/-- A text stands for itself, a number for its decimal digits. -/
inductive Literal : Token → String → Prop
  | text (value : String) : Literal (.literal value) value
  | number (n : Int) : Literal (.number n) n.repr

/-- The operators that compare a column with a literal. -/
inductive Operator : Token → Comparator → Prop
  | eq : Operator .equals .eq
  | ne : Operator .notEquals .ne

/-- A column and a literal with an operator between them.  A literal that is compared is not empty,
    one that is a wildcard pattern may be. -/
inductive Comparison : List Token → Predicate → Prop
  | columnFirst {name t op l value} : Operator t op → Literal l value → value ≠ "" →
      Comparison [.ident name, t, l] (.comparison op (Text.lowerCase name) value)
  | literalFirst {name t op l value} : Operator t op → Literal l value → value ≠ "" →
      Comparison [l, t, .ident name] (.comparison op (Text.lowerCase name) value)
  | like {name l pattern} : Literal l pattern →
      Comparison [.ident name, .keyword .like, l] (.like (Text.lowerCase name) pattern)

/-! ## Conditions -/

/-- How tightly a phrase of a condition binds. -/
inductive Rank where
  /-- A comparison, or a condition in parentheses. -/
  | primary
  /-- Phrases with one connective between them. -/
  | chain (op : Connective)

/-- What a connective joins. -/
def operand : Connective → Rank
  | .and => .primary
  | .or => .chain .and

/-- The keyword of a connective. -/
def keyword : Connective → Token
  | .and => .keyword .and
  | .or => .keyword .or

/-- The phrases of a condition. -/
inductive Condition : Rank → (depth : Nat) → List Token → Predicate → Prop
  | comparison {ts p} : Comparison ts p → Condition .primary 0 ts p
  | parentheses {d ts p} : Condition (.chain .or) d ts p →
      Condition .primary (d + 1) (.openParen :: ts ++ [.closeParen]) p
  | single {op d ts p} : Condition (operand op) d ts p → Condition (.chain op) d ts p
  | join {op d e ts us p q} : Condition (.chain op) d ts p → Condition (operand op) e us q →
      Condition (.chain op) (max d e) (ts ++ keyword op :: us) (.logical op [p, q])

theorem Condition.toOperand {op : Connective} {d : Nat} {ts : List Token} {p : Predicate}
    (h : Condition .primary d ts p) : Condition (operand op) d ts p := by
  cases op with
  | and => exact h
  | or =>
    have hand : Condition (operand .and) d ts p := h
    exact .single hand

theorem Condition.toOr {op : Connective} {d : Nat} {ts : List Token} {p : Predicate}
    (h : Condition (.chain op) d ts p) : Condition (.chain .or) d ts p := by
  cases op with
  | and =>
    have hor : Condition (operand .or) d ts p := h
    exact .single hor
  | or => exact h

theorem Condition.ofPrimary {d : Nat} {ts : List Token} {p : Predicate}
    (h : Condition .primary d ts p) : Condition (.chain .or) d ts p :=
  .single h.toOperand

/-- Parentheses add to the depth of a condition, and nothing to its predicate. -/
theorem Condition.parenthesised {d : Nat} {ts : List Token} {p : Predicate}
    (h : Condition (.chain .or) d ts p) (n : Nat) :
    Condition (.chain .or) (d + n)
      (List.replicate n .openParen ++ ts ++ List.replicate n .closeParen) p := by
  induction n with
  | zero => simpa using h
  | succ n ih =>
    rw [List.replicate_succ, List.replicate_succ', ← Nat.add_assoc]
    simpa using Condition.ofPrimary (.parentheses ih)

/-! ## Statements -/

/-- A star for all columns, or names with commas between them. -/
inductive Selection : List Token → List String → Prop
  | all : Selection [.star] []
  | names {names : List String} : names ≠ [] →
      Selection ((names.map Token.ident).intersperse .comma) (names.map Text.lowerCase)

/-- A name of two parts with a single dot between them. -/
structure Qualified (name source table : String) : Prop where
  toList_eq : name.toList = source.toList ++ '.' :: table.toList
  source_ne : source ≠ ""
  table_ne : table ≠ ""
  source_plain : '.' ∉ source.toList
  table_plain : '.' ∉ table.toList

/-- A condition after its keyword, or none. -/
inductive Filters : (depth : Nat) → List Token → List Predicate → Prop
  | none : Filters 0 [] []
  | condition {d ts p} : Condition (.chain .or) d ts p → Filters d (.keyword .where_ :: ts) [p]

/-- A number of rows after its keyword, or none. -/
inductive Limit : List Token → Nat → Prop
  | none : Limit [] 0
  | rows {n : Int} : 0 ≤ n → Limit [.keyword .limit, .number n] n.toNat

/-- The end of the tokens, or a semicolon and anything. -/
inductive Ending : List Token → Prop
  | all : Ending []
  | semicolon (ts : List Token) : Ending (.semicolon :: ts)

/-- The tokens of a statement before its end. -/
inductive Body : (depth : Nat) → List Token → Query → Prop
  | body {selection columns name source table d condition filters rows limit}
      (hs : Selection selection columns) (hn : Qualified (Text.lowerCase name) source table)
      (hf : Filters d condition filters) (hl : Limit rows limit) :
      Body d (.keyword .select :: selection ++ .keyword .from_ :: .ident name :: condition ++ rows)
        { source, table, columns, limit, filters }

/-- A statement up to its end, and whatever follows. -/
def Statement (depth : Nat) (ts : List Token) (q : Query) : Prop :=
  ∃ body ending, ts = body ++ ending ∧ Body depth body q ∧ Ending ending

end Grammar

end FederatedQuery
