/-
  Sessions with several handles.

  Engines are used through handles.  A clone of a handle leads to the same engine, so what is
  registered through one is found through the other; a default handle leads to an engine of its own.

  * `Session`: engines, and the engine to which each handle leads;
  * `Step`, `Answer`: what can be done through a handle, and what comes of it;
  * `Session.step?`: one step.
-/
import FederatedQuery.Engine.Basic

namespace FederatedQuery

/-- Engines with handles. -/
structure Session where
  engines : List Engine
  /-- The number of the engine to which each handle leads. -/
  handles : List Nat

/-- What can be done through a handle. -/
inductive Step where
  | register (name : String) (source : Source)
  | replace (name : String) (source : Source)
  | deregister (name : String)
  | sources
  | query (text : String)
  | execute (q : Query)
  | config
  | clone
  | default_

/-- What comes of a step. -/
inductive Answer where
  | done
  | failed (error : QueryError)
  /-- Whether a source was replaced or removed. -/
  | changed (b : Bool)
  | names (names : List String)
  | result (r : QueryResult)
  | config (c : EngineConfig)
  /-- A new handle. -/
  | handle (number : Nat)

namespace Answer

/-- The answer to a query. -/
def ofResult : Except QueryError QueryResult → Answer
  | .ok r => result r
  | .error e => failed e

end Answer

namespace Session

/-- One engine with the given settings and one handle. -/
def start (config : EngineConfig) : Session where
  engines := [.withConfig config]
  handles := [0]

/-- The number of the engine to which a handle leads, and the engine. -/
def engine? (s : Session) (handle : Nat) : Option (Nat × Engine) := do
  let number ← s.handles[handle]?
  let engine ← s.engines[number]?
  some (number, engine)

/-- The session with another engine in the place of one. -/
def put (s : Session) (number : Nat) (engine : Engine) : Session :=
  { s with engines := s.engines.set number engine }

/-- A new handle that leads to an engine. -/
def addHandle (s : Session) (number : Nat) : Answer × Session :=
  (.handle s.handles.length, { s with handles := s.handles ++ [number] })

/-- A step through a handle that leads to the engine with the given number. -/
def stepOn (s : Session) (number : Nat) (e : Engine) :
    Step → Logged Activity (Answer × Session)
  | .register name source => do
    match ← e.register name source with
    | .ok e => pure (.done, s.put number e)
    | .error error => pure (.failed error, s)
  | .replace name source => do
    let (replaced, e) ← e.replace name source
    pure (.changed replaced, s.put number e)
  | .deregister name => do
    let (removed, e) ← e.deregister name
    pure (.changed removed, s.put number e)
  | .sources => pure (.names e.names, s)
  | .query text => do
    let result ← e.query text
    pure (.ofResult result, s)
  | .execute q => do
    let result ← e.execute q
    pure (.ofResult result, s)
  | .config => pure (.config e.config, s)
  | .clone => pure (s.addHandle number)
  | .default_ =>
    pure ({ s with engines := s.engines ++ [Engine.withConfig {}] }.addHandle s.engines.length)

/-- A step through a handle, if there is such a handle. -/
def step? (s : Session) (handle : Nat) (step : Step) : Option (Logged Activity (Answer × Session)) :=
  (s.engine? handle).map fun (number, e) => s.stepOn number e step

end Session

end FederatedQuery
