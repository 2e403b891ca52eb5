import QueryBuilder.Json.Record

/-!
The declared types of parameters.
-/
namespace QueryBuilder.Param

inductive Kind
  | null
  | int
  | str
  | blob
  | bool
  | decimal
  | skip
deriving DecidableEq, Repr

namespace Kind

def all : List Kind := [.null, .int, .str, .blob, .bool, .decimal, .skip]

/-- The number by which an executor knows the type. -/
def code : Kind → Nat
  | .null => 0
  | .int => 1
  | .str => 2
  | .blob => 3
  | .bool => 5
  | .decimal => 32
  | .skip => 1024

def ofCode? (n : Nat) : Option Kind := all.find? fun k => k.code = n

def name : Kind → String
  | .null => "null"
  | .int => "int"
  | .str => "str"
  | .blob => "blob"
  | .bool => "bool"
  | .decimal => "decimal"
  | .skip => "skip"

def toJson (k : Kind) : Json := .text k.name

def reader : Json.Reader Kind := .variant (all.map fun k => (k.name, k))

end Kind
end QueryBuilder.Param
