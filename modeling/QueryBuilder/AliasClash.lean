import QueryBuilder.Entity
import QueryBuilder.OrderedMap

/-!
Clashes of aliases. The first entity that carries an alias owns it; every later one clashes.
-/
namespace QueryBuilder

/-- An entity carries an alias that an earlier entity owns. -/
structure AliasClash where
  aliasName : String
  /-- The name of the owner. -/
  existing : String
  /-- The name of the later entity. -/
  entity : String
deriving DecidableEq, Repr

namespace AliasClash

def message (c : AliasClash) : String :=
  "Duplicate alias '" ++ c.aliasName ++ "' (already used by '" ++ c.existing ++
    "', now also by '" ++ c.entity ++ "')"

/-- The clash of an entity that comes after others. -/
def next? (earlier : List Entity) (e : Entity) : Option AliasClash := do
  let a ← e.aliasName
  let owner ← earlier.find? fun o => o.aliasName = some a
  return ⟨a, owner.name, e.name⟩

/-- The clashes in a list of entities, given the owners of aliases before it. -/
def allFrom (owners : OrderedMap String String) : List Entity → List AliasClash
  | [] => []
  | e :: rest =>
    match e.aliasName with
    | none => allFrom owners rest
    | some a =>
      match owners.get? a with
      | some owner => ⟨a, owner, e.name⟩ :: allFrom owners rest
      | none => allFrom (owners.insert a e.name) rest

/-- All clashes in a list of entities, in order of the later entity. -/
def all (entities : List Entity) : List AliasClash := allFrom .empty entities

end AliasClash
end QueryBuilder
