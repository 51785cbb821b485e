/-
  Settings of the log.

  * `LogConfig`: which entries are written, where to and how, with the ways to change that;
  * `LogConfig.ofVariables`: the settings that two environment variables ask for.
-/
import FederatedQuery.Text.Blank

namespace FederatedQuery

/-- Where entries are written. -/
inductive LogSink where
  | stdout
  | file (path : String)
  /-- Standard output and a file. -/
  | tee (path : String)
  deriving DecidableEq, Repr

/-- How entries are laid out. -/
inductive LogStyle where
  /-- Several lines for an entry. -/
  | pretty
  /-- A line for an entry. -/
  | compact
  deriving DecidableEq, Repr

/-- Settings of the log. -/
structure LogConfig where
  /-- A directive that tells which entries are written. -/
  filter : String := "info"
  sink : LogSink := .stdout
  style : LogStyle := .pretty
  /-- Whether an entry tells where it comes from. -/
  showTargets : Bool := false
  deriving DecidableEq, Repr

/-- The file to which entries are written. -/
def LogSink.path? : LogSink → Option String
  | stdout => none
  | file path | tee path => some path

namespace LogConfig

/-- The environment variable with a directive. -/
def filterVariable : String := "FEDQL_LOG"

/-- The environment variable with the name of a file. -/
def fileVariable : String := "FEDQL_LOG_FILE"

/-- Sets the directive. -/
def withFilter (c : LogConfig) (filter : String) : LogConfig := { c with filter }

/-- Writes to a file alone. -/
def withFile (c : LogConfig) (path : String) : LogConfig := { c with sink := .file path }

/-- Writes to standard output and a file. -/
def withTee (c : LogConfig) (path : String) : LogConfig := { c with sink := .tee path }

/-- Writes a line for an entry. -/
def compact (c : LogConfig) : LogConfig := { c with style := .compact }

/-- Tells where entries come from, or not. -/
def withTargets (c : LogConfig) (show_ : Bool) : LogConfig := { c with showTargets := show_ }

/-- Important entries and all above them. -/
def info : LogConfig := {}

/-- Also the entries that help to find errors. -/
def debug : LogConfig := withFilter {} "debug"

/-- All entries. -/
def trace : LogConfig := withFilter {} "trace"

/-- A variable that is set to something other than blanks. -/
def given? (variable_ : Option String) : Option String :=
  variable_.filter fun text => !Text.isBlankText text

/-- The settings for the values of the two variables: a directive, and a file besides standard
    output.  A variable that is not set or blank changes nothing. -/
def ofVariables (filter file : Option String) : LogConfig where
  filter := (given? filter).getD "info"
  sink := ((given? file).map .tee).getD .stdout

end LogConfig

end FederatedQuery
