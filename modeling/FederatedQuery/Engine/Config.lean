/-
  Settings of an engine.

  * `EngineConfig`: the settings, with the ways to change them;
  * `validateStatement`: the check of a statement before it is read;
  * `version`: the version of the engine.
-/
import FederatedQuery.Engine.Error
import FederatedQuery.Text.Blank

namespace FederatedQuery

/-- The version of the engine. -/
def version : String := "0.3.0"

/-- The greatest length of a statement in bytes, unless set otherwise. -/
def defaultMaxStatementLength : Nat := 1024 * 1024

/-- Settings of an engine. -/
structure EngineConfig where
  /-- Whether the filters are applied once more to the rows that come from a source. -/
  residualFiltering : Bool := true
  /-- The greatest length of a statement in bytes. -/
  maxStatementLength : Nat := defaultMaxStatementLength
  deriving DecidableEq, Repr

namespace EngineConfig

/-- Leaves the filters to the sources. -/
def withoutResidualFiltering (c : EngineConfig) : EngineConfig :=
  { c with residualFiltering := false }

/-- Sets the greatest length of a statement. -/
def withMaxStatementLength (c : EngineConfig) (max : Nat) : EngineConfig :=
  { c with maxStatementLength := max }

end EngineConfig

/-- Refuses statements that are blank or have more than `max` bytes. -/
def validateStatement (text : String) (max : Nat) : Except QueryError Unit :=
  if Text.isBlankText text then .error (.invalidInput .blankStatement)
  else if max < text.utf8ByteSize then
    .error (.invalidInput (.longStatement text.utf8ByteSize max))
  else .ok ()

end FederatedQuery
