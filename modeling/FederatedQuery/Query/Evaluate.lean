/-
  Deciding predicates on rows.

  A missing field reads as the empty text.  Comparing goes by lower-case forms, looking for a pattern
  by case variants; a malformed pattern is found nowhere.

  * `Predicate.holds`: what a predicate says of a row;
  * `RowTest`: a predicate prepared for many rows, `Predicate.prepare` preparing it (which logs every
    malformed pattern once, from left to right), `RowTest.accepts` deciding it;
  * `Predicate.evaluate`, `Predicate.filter`, `filterRows`: one row, the rows for one predicate, the
    rows for a list of predicates.
-/
import FederatedQuery.Event
import FederatedQuery.Logged
import FederatedQuery.Pattern.Reader
import FederatedQuery.Pattern.Search
import FederatedQuery.Query.Predicate
import FederatedQuery.Row
import FederatedQuery.Text.LowerCase

namespace FederatedQuery

/-! ## Meaning -/

namespace Predicate

/-- What a comparison says of a text. -/
def compares (op : Comparator) (text value : String) : Bool :=
  match op with
  | .eq => Text.lowerCase text == Text.lowerCase value
  | .ne => Text.lowerCase text != Text.lowerCase value
  | .found => (Pattern.read? value).any (·.isIn text)

mutual

/-- What the predicate says of a row. -/
def holds (row : Row) : Predicate → Bool
  | .comparison op field value => compares op (row.value field) value
  | .logical .and children => allHold row children
  | .logical .or children => anyHolds row children

/-- Whether all of the predicates hold. -/
def allHold (row : Row) : List Predicate → Bool
  | [] => true
  | p :: ps => p.holds row && allHold row ps

/-- Whether one of the predicates holds. -/
def anyHolds (row : Row) : List Predicate → Bool
  | [] => false
  | p :: ps => p.holds row || anyHolds row ps

end

end Predicate

/-! ## Preparation -/

/-- A predicate prepared for many rows: texts in lower case, patterns read. -/
inductive RowTest where
  | eq (field value : String)
  | ne (field value : String)
  /-- Without a pattern nothing is found. -/
  | found (field : String) (pattern : Option Pattern)
  | all (tests : List RowTest)
  | any (tests : List RowTest)

namespace RowTest

mutual

/-- Whether a row passes the test. -/
def accepts (row : Row) : RowTest → Bool
  | eq field value => Text.lowerCase (row.value field) == value
  | ne field value => Text.lowerCase (row.value field) != value
  | found field pattern => pattern.any (·.isIn (row.value field))
  | all tests => allAccept row tests
  | any tests => anyAccepts row tests

/-- Whether a row passes all of the tests. -/
def allAccept (row : Row) : List RowTest → Bool
  | [] => true
  | t :: ts => t.accepts row && allAccept row ts

/-- Whether a row passes one of the tests. -/
def anyAccepts (row : Row) : List RowTest → Bool
  | [] => false
  | t :: ts => t.accepts row || anyAccepts row ts

end

end RowTest

namespace Predicate

/-- Reads a pattern for good; a malformed one is logged. -/
def readPattern (pattern : String) : Logged Event (Option Pattern) :=
  match Pattern.read? pattern with
  | some p => pure (some p)
  | none => do
    Logged.note (.badPattern pattern)
    pure none

mutual

/-- Prepares a predicate for many rows. -/
def prepare : Predicate → Logged Event RowTest
  | .comparison .eq field value => pure (.eq field (Text.lowerCase value))
  | .comparison .ne field value => pure (.ne field (Text.lowerCase value))
  | .comparison .found field pattern => do
    let p ← readPattern pattern
    pure (.found field p)
  | .logical .and children => do
    let tests ← prepareAll children
    pure (.all tests)
  | .logical .or children => do
    let tests ← prepareAll children
    pure (.any tests)

/-- Prepares predicates from left to right. -/
def prepareAll : List Predicate → Logged Event (List RowTest)
  | [] => pure []
  | p :: ps => do
    let t ← p.prepare
    let ts ← prepareAll ps
    pure (t :: ts)

end

/-- What a prepared predicate says of a row. -/
def evaluate (p : Predicate) (row : Row) : Bool := p.prepare.value.accepts row

end Predicate

/-! ## Filters -/

/-- The rows for which all predicates hold, in order.  Without predicates these are all rows. -/
def filterRows (predicates : List Predicate) (rows : List Row) : Logged Event (List Row) :=
  if predicates.isEmpty then pure rows
  else do
    let tests ← Predicate.prepareAll predicates
    pure (rows.filter fun row => tests.all (·.accepts row))

/-- The rows for which a predicate holds, in order. -/
def Predicate.filter (p : Predicate) (rows : List Row) : Logged Event (List Row) :=
  filterRows [p] rows

end FederatedQuery
