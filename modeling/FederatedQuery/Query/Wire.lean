/-
  Queries as JSON.

  A query is an object with the fields `source_name`, `table`, `columns`, `limit` and `filters`, a
  predicate an object with the field `kind` and the fields of that kind.  Writing keeps this order;
  reading takes fields in any order and leaves out those it does not know, but wants each of its own
  exactly once.  Both may also be written as arrays of the values alone.

  * `Predicate.toJson`, `Query.toJson`, `Query.json`: writing;
  * `Predicate.ofJson?`, `Query.ofJson?`: reading from a JSON value;
  * `Predicate.decode?`, `Query.decode?`: reading from a text.
-/
import FederatedQuery.Json.Reader
import FederatedQuery.Query.Basic

namespace FederatedQuery

/-! ## Names -/

namespace Comparator

/-- The name of a comparison. -/
def name : Comparator → String
  | eq => "eq"
  | ne => "ne"
  | found => "match"

/-- The comparison with the given name. -/
def ofName? : String → Option Comparator
  | "eq" => some eq
  | "ne" => some ne
  | "match" => some found
  | _ => none

end Comparator

namespace Connective

/-- The name of a connective. -/
def name : Connective → String
  | and => "and"
  | or => "or"

/-- The connective with the given name. -/
def ofName? : String → Option Connective
  | "and" => some and
  | "or" => some or
  | _ => none

end Connective

/-! ## Writing -/

namespace Predicate

mutual

/-- A predicate as JSON. -/
def toJson : Predicate → Json
  | .comparison op field value =>
    .object [("kind", .string "comparison"), ("op", .string op.name), ("field", .string field),
      ("value", .string value)]
  | .logical op children =>
    .object [("kind", .string "logical"), ("op", .string op.name),
      ("children", .array (listToJson children))]

/-- Several predicates as JSON. -/
def listToJson : List Predicate → List Json
  | [] => []
  | p :: ps => p.toJson :: listToJson ps

end

end Predicate

namespace Query

/-- A query as JSON. -/
def toJson (q : Query) : Json :=
  .object [("source_name", .string q.source), ("table", .string q.table),
    ("columns", .ofStrings q.columns), ("limit", .ofNat q.limit),
    ("filters", .array (Predicate.listToJson q.filters))]

/-- The written JSON of a query. -/
def json (q : Query) : String := q.toJson.text

end Query

/-! ## Reading -/

namespace Json

/-- The value of the only field with the given name. -/
def field? (name : String) (fields : List (String × Json)) : Option Json :=
  match fields.filter (·.1 = name) with
  | [(_, v)] => some v
  | _ => none

/-- A string. -/
def string? : Json → Option String
  | string s => some s
  | _ => none

/-- A list of strings. -/
def strings? : Json → Option (List String)
  | array items => items.mapM string?
  | _ => none

/-- A natural number of 64 bits, written in digits. -/
def nat64? : Json → Option Nat
  | number literal => Number.nat? (Nat.pow 2 64 - 1) literal
  | _ => none

/-- A name that stands for one of several choices: a string, or an object with that field alone and
    nothing in it. -/
def choice? : Json → Option String
  | string s => some s
  | object [(name, null)] => some name
  | object [(name, object [])] => some name
  | _ => none

theorem sizeOf_field? {name : String} {fields : List (String × Json)} {v : Json}
    (h : field? name fields = some v) : sizeOf v < sizeOf fields := by
  unfold field? at h
  split at h
  · next n v' hf =>
    cases h
    have mem : (n, v) ∈ fields.filter (·.1 = name) := hf ▸ List.mem_singleton_self _
    have := List.sizeOf_lt_of_mem (List.mem_filter.1 mem).1
    simp at this
    omega
  · cases h

end Json

namespace Predicate

/-- The kinds of predicates. -/
inductive Kind where
  | comparison
  | logical
  deriving DecidableEq, Repr

/-- The kind that a value stands for: its name, or for a child of another predicate also its
    number. -/
def Kind.ofJson? (child : Bool) : Json → Option Kind
  | .string "comparison" => some .comparison
  | .string "logical" => some .logical
  | .number literal =>
    if child then
      match Json.Number.nat? (Nat.pow 2 64 - 1) literal with
      | some 0 => some .comparison
      | some 1 => some .logical
      | _ => none
    else none
  | _ => none

/-- A comparison from the values of its fields. -/
def comparisonOf? (op field value : Json) : Option Predicate := do
  let op ← op.choice?.bind Comparator.ofName?
  let field ← field.string?
  let value ← value.string?
  some (.comparison op field value)

mutual

/-- The predicate that a JSON value stands for, by itself or as a child of another one. -/
def ofJson? (child : Bool) (v : Json) : Option Predicate :=
  match v with
  | .object fields =>
    match (Json.field? "kind" fields).bind (Kind.ofJson? child) with
    | some .comparison => do
      let op ← Json.field? "op" fields
      let field ← Json.field? "field" fields
      let value ← Json.field? "value" fields
      comparisonOf? op field value
    | some .logical =>
      match Json.field? "op" fields, _h : Json.field? "children" fields with
      | some op, some (.array children) => do
        let op ← op.choice?.bind Connective.ofName?
        let children ← listOfJson? true children
        some (.logical op children)
      | _, _ => none
    | none => none
  | .array (kind :: values) =>
    match Kind.ofJson? child kind, values with
    | some .comparison, [op, field, value] => comparisonOf? op field value
    | some .logical, [op, .array children] => do
      let op ← op.choice?.bind Connective.ofName?
      let children ← listOfJson? true children
      some (.logical op children)
    | _, _ => none
  | _ => none
termination_by sizeOf v
decreasing_by
  · have := Json.sizeOf_field? _h
    simp at this ⊢
    omega
  · simp
    omega

/-- The predicates for which the values of a list stand. -/
def listOfJson? (child : Bool) (vs : List Json) : Option (List Predicate) :=
  match vs with
  | [] => some []
  | v :: vs => do
    let p ← ofJson? child v
    let ps ← listOfJson? child vs
    some (p :: ps)
termination_by sizeOf vs

end

/-- The predicate that a text spells in JSON. -/
def decode? (text : String) : Option Predicate :=
  (Json.document? (fun _ => true) text).bind (ofJson? false)

end Predicate

namespace Query

/-- The fields of a query. -/
def fieldNames : List String := ["source_name", "table", "columns", "limit", "filters"]

/-- A query from the values of its fields. -/
def ofValues? (source table columns limit filters : Json) : Option Query := do
  let source ← source.string?
  let table ← table.string?
  let columns ← columns.strings?
  let limit ← limit.nat64?
  match filters with
  | .array filters => do
    let filters ← Predicate.listOfJson? false filters
    some { source, table, columns, limit, filters }
  | _ => none

/-- The query that a JSON value stands for. -/
def ofJson? : Json → Option Query
  | .object fields => do
    let source ← Json.field? "source_name" fields
    let table ← Json.field? "table" fields
    let columns ← Json.field? "columns" fields
    let limit ← Json.field? "limit" fields
    let filters ← Json.field? "filters" fields
    ofValues? source table columns limit filters
  | .array [source, table, columns, limit, filters] =>
    ofValues? source table columns limit filters
  | _ => none

/-- The query that a text spells in JSON. -/
def decode? (text : String) : Option Query :=
  (Json.document? fieldNames.contains text).bind ofJson?

end Query

end FederatedQuery
