import QueryBuilder.Json.Reader

/-!
Records of named fields. A record is an object, in which unknown members are passed over and
fields may come in any order, or an array of its fields in their declared order.
-/
namespace QueryBuilder.Json

/-- Where a field may be left out. -/
inductive Presence
  | required
  /-- An object may leave it out; an array may not end before it. -/
  | listed
  | optional
deriving DecidableEq, Repr

/-- A field of the record `α`: its name, and how its value is put into a record. -/
structure Field (α : Type) where
  name : String
  presence : Presence
  read : Nat → Tree → α → Except ReadError α

/-- A field that is set from the value a reader gives. -/
def field {α β : Type} (name : String) (presence : Presence) (r : Reader β)
    (set : β → α → α) : Field α :=
  ⟨name, presence, fun room t a => return set (← r room t) a⟩

namespace Record

variable {α : Type}

/-- Read members in order; `given` names the fields that came before. -/
def readMembers (fields : List (Field α)) (room : Nat) :
    List String → α → List (Literal × Tree) → Except ReadError (List String × α)
  | given, a, [] => .ok (given, a)
  | given, a, (key, t) :: rest => do
    let key ← key.read
    match fields.find? fun f => f.name = key with
    | none => do
      t.skip
      readMembers fields room given a rest
    | some f => do
      if given.contains key then refuse (.repeatedField key)
      let a ← f.read room t a
      readMembers fields room (key :: given) a rest

def missing? (fields : List (Field α)) (given : List String) : Option String :=
  (fields.find? fun f => f.presence = .required && !given.contains f.name).map Field.name

/-- Read the items of an array as the fields from number `n` on. -/
def readItems (expected : String) (room : Nat) (fault : Option Fault) :
    Nat → List (Field α) → α → List Tree → Except ReadError α
  | _, [], a, [] => do closed fault; return a
  | _, [], _, _ :: _ => fail .malformed
  | n, f :: fields, a, [] => do
    closed fault
    if f.presence = .optional then readItems expected room fault (n + 1) fields a []
    else refuse (.tooShort n expected)
  | n, f :: fields, a, t :: rest => do
    let a ← f.read room t a
    readItems expected room fault (n + 1) fields a rest

end Record

/-- A record with these fields; `start` holds what fields have that are not given. -/
def Reader.record {α : Type} (type : String) (fields : List (Field α)) (start : α) : Reader α
  | room, .object members ending => do
    let room ← enter room
    let (given, a) ← Record.readMembers fields room [] start members
    ending.check
    match Record.missing? fields given with
    | some name => refuse (.missingField name)
    | none => return a
  | room, .array items fault => do
    let room ← enter room
    let expected := "struct " ++ type ++ " with " ++ toString fields.length ++ " elements"
    Record.readItems expected room fault 0 fields start items
  | _, t => t.wrongType ("struct " ++ type)

end QueryBuilder.Json
