/-
  Events.

  What happens besides the answer is told to whoever keeps the log, as events with a level, a fixed
  message and named fields.

  * `Event`: the events, each with what it tells;
  * `Event.level`, `Event.message`, `Event.fields`: the three parts of an entry in the log.
-/

namespace FederatedQuery

/-- How much attention an event deserves. -/
inductive Level where
  | trace
  | debug
  | info
  | warn
  deriving DecidableEq, Repr

/-- Something worth an entry in the log. -/
inductive Event where
  /-- Tokens behind the end of a statement were not looked at. -/
  | ignoredTokens (count : Nat)
  /-- A regular expression in a predicate is malformed. -/
  | badPattern (pattern : String)
  /-- A source was registered; for a replacement, whether there was one before. -/
  | registered (source : String) (replaced : Option Bool)
  | deregistered (source : String)
  | unknownSource (source : String)
  | executing (query : String)
  /-- Of the rows fetched from a source, some met all filters. -/
  | filtered (fetched kept : Nat)
  | completed (rows : Nat)
  deriving DecidableEq, Repr

/-- A level as entries spell it. -/
def Level.text : Level → String
  | trace => "TRACE"
  | debug => "DEBUG"
  | info => "INFO"
  | warn => "WARN"

namespace Event

/-- The level of an event. -/
def level : Event → Level
  | ignoredTokens _ | executing _ | completed _ => .debug
  | badPattern _ | unknownSource _ => .warn
  | registered .. | deregistered _ => .info
  | filtered .. => .trace

/-- The message of an event, the same for all events of a kind. -/
def message : Event → String
  | ignoredTokens _ => "ignoring tokens after the first statement"
  | badPattern _ => "match pattern does not compile; it will match nothing"
  | registered .. => "registered source"
  | deregistered _ => "deregistered source"
  | unknownSource _ => "query names an unknown source"
  | executing _ => "executing query"
  | filtered .. => "applied residual filters"
  | completed _ => "query complete"

/-- The fields of an event: names and written values. -/
def fields : Event → List (String × String)
  | ignoredTokens count => [("discarded", count.repr)]
  | badPattern pattern => [("pattern", pattern)]
  | registered source none => [("source", source)]
  | registered source (some replaced) =>
    [("source", source), ("replaced", if replaced then "true" else "false")]
  | deregistered source | unknownSource source => [("source", source)]
  | executing query => [("query", query)]
  | filtered fetched kept => [("fetched", fetched.repr), ("kept", kept.repr)]
  | completed rows => [("rows", rows.repr)]

end Event

end FederatedQuery
