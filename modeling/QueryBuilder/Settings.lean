import QueryBuilder.Json.Record

/-!
Settings of a query: what is printed by default, how keys are named, and what happens when an
alias is used twice.
-/
namespace QueryBuilder

/-- What to do about a second entity with an alias. -/
inductive ClashPolicy
  /-- Report it and print both. -/
  | warn
  /-- Refuse to render. -/
  | reject
deriving DecidableEq, Repr, Inhabited

namespace ClashPolicy

def name : ClashPolicy → String
  | .warn => "warn"
  | .reject => "reject"

def toJson (p : ClashPolicy) : Json := .text p.name

def reader : Json.Reader ClashPolicy := .variant ([.warn, .reject].map fun p => (p.name, p))

end ClashPolicy

structure Settings where
  /-- Printed where no column is given. -/
  defaultColumns : String := "*"
  /-- What the names of generated keys start with. -/
  keyStem : String := "AP"
  clashPolicy : ClashPolicy := .warn
  /-- Whether names and aliases are printed in brackets. -/
  escape : Bool := false
deriving DecidableEq, Repr, Inhabited

namespace Settings

def toJson (s : Settings) : Json :=
  .object [("default_columns", .text s.defaultColumns), ("placeholder_prefix", .text s.keyStem),
    ("alias_policy", s.clashPolicy.toJson), ("escape_identifiers", .bool s.escape)]

def fields : List (Json.Field Settings) :=
  [Json.field "default_columns" .optional .text fun x s => { s with defaultColumns := x },
    Json.field "placeholder_prefix" .optional .text fun x s => { s with keyStem := x },
    Json.field "alias_policy" .optional ClashPolicy.reader fun x s => { s with clashPolicy := x },
    Json.field "escape_identifiers" .optional .bool fun x s => { s with escape := x }]

def reader : Json.Reader Settings := .record "BuilderConfig" fields {}

end Settings
end QueryBuilder
