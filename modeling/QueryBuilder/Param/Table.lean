import QueryBuilder.Param.Key
import QueryBuilder.Param.Kind

/-!
Tables of parameters, in the order in which their keys were first bound.
-/
namespace QueryBuilder.Param

/-- A value, and its declared type if it has one. -/
structure Entry where
  value : Json
  kind : Option Kind
deriving DecidableEq

namespace Entry

def toJson (e : Entry) : Json :=
  .object [("value", e.value), ("bind_type", e.kind.elim .null Kind.toJson)]

def fields : List (Json.Field Entry) :=
  [Json.field "value" .required .value fun v e => { e with value := v },
    Json.field "bind_type" .listed (.option Kind.reader) fun k e => { e with kind := k }]

def reader : Json.Reader Entry := .record "BoundParam" fields ⟨.null, none⟩

end Entry

abbrev Table := OrderedMap Key Entry

namespace Table

/-- Bind a value to a key, with or without a type. -/
def bind (t : Table) (k : Key) (value : Json) (kind : Option Kind) : Table :=
  t.insert k ⟨value, kind⟩

/-- Declare the type of a key; a key without a value is bound to `null`. -/
def declare (t : Table) (k : Key) (kind : Kind) : Table :=
  t.bind k ((t.get? k).elim .null Entry.value) (some kind)

/-- Bind values without types one after the other. -/
def ofValues (l : List (Key × Json)) : Table := .ofList (l.map fun p => (p.1, ⟨p.2, none⟩))

/-- The value bound to a name. -/
def value? (t : Table) (name : String) : Option Json := (t.get? (.named name)).map Entry.value

def values (t : Table) : OrderedMap Key Json := t.mapValues Entry.value

/-- The declared types, of the keys that have one. -/
def kinds (t : Table) : OrderedMap Key Kind := t.filterMapValues Entry.kind

def toJson (t : Table) : Json :=
  .object [("entries", .object (t.entries.map fun e => (e.1.text, e.2.toJson)))]

end Table
end QueryBuilder.Param
