import QueryBuilder.Json.Tree
import QueryBuilder.Json.Mismatch
import QueryBuilder.OrderedMap

/-!
Readers of types. A reader walks a tree from left to right and stops at the first fault or
mismatch. It may open a bounded number of containers inside each other; skipping has no bound.
-/
namespace QueryBuilder.Json

/-- Reads a value of `α` from a tree, given how many containers may still be opened. -/
abbrev Reader (α : Type) := Nat → Tree → Except ReadError α

/-- How many containers a full reading opens inside each other. -/
def depthLimit : Nat := 127

def fail {α : Type} (f : Fault) : Except ReadError α := .error (.fault f)

def refuse {α : Type} (m : Mismatch) : Except ReadError α := .error (.mismatch m)

/-- The room inside a container that is opened. -/
def enter : Nat → Except ReadError Nat
  | 0 => fail .malformed
  | room + 1 => .ok room

def orFault {α : Type} : Except Fault α → Except ReadError α
  | .ok a => .ok a
  | .error f => fail f

def Literal.read (t : Literal) : Except ReadError String := orFault t.text

def Numeral.read (n : Numeral) : Except ReadError Number :=
  match n.value with
  | some x => .ok x
  | none => fail .malformed

def Leaf.found : Leaf → Except ReadError Found
  | .null => .ok .null
  | .bool b => .ok (.bool b)
  | .number n => return .number (← n.read)
  | .text t => return .text (← t.read)
  | .brokenNull f | .brokenBool f | .brokenNumber f | .absent f => fail f

/-- What a value is found to be; of a container only its start is looked at. -/
def Tree.found : Tree → Except ReadError Found
  | .leaf l => l.found
  | .array _ _ => .ok .array
  | .object _ _ => .ok .object

/-- The refusal of a value of another type; a fault in a leaf itself comes first. -/
def Tree.wrongType {α : Type} (t : Tree) (expected : String) : Except ReadError α := do
  refuse (.wrongType (← t.found) expected)

def closed : Option Fault → Except ReadError Unit
  | none => .ok ()
  | some f => fail f

def Ending.check : Ending → Except ReadError Unit
  | .closed => .ok ()
  | .broken f | .noKey f => fail f

mutual
/-- Pass over a value; nothing but its form is checked. -/
def Tree.skip : Tree → Except ReadError Unit
  | .leaf l => closed l.skipFault
  | .array items fault => do skipItems items; closed fault
  | .object members ending => do skipMembers members; ending.check

def skipItems : List Tree → Except ReadError Unit
  | [] => .ok ()
  | t :: rest => do t.skip; skipItems rest

def skipMembers : List (Literal × Tree) → Except ReadError Unit
  | [] => .ok ()
  | (key, t) :: rest => do closed key.ending; t.skip; skipMembers rest
end

namespace Reader

variable {α : Type}

mutual
def value : Reader Json
  | _, .leaf l => do
    match ← l.found with
    | .bool b => return .bool b
    | .number n => return .number n
    | .text s => return .text s
    | _ => return .null
  | room, .array items fault => do
    let items ← valueItems (← enter room) items
    closed fault
    return .array items
  | room, .object members ending => do
    let members ← valueMembers (← enter room) members
    ending.check
    return .ofMembers members

def valueItems : Nat → List Tree → Except ReadError (List Json)
  | _, [] => .ok []
  | room, t :: rest => do
    let j ← value room t
    return j :: (← valueItems room rest)

def valueMembers : Nat → List (Literal × Tree) → Except ReadError (List (String × Json))
  | _, [] => .ok []
  | room, (key, t) :: rest => do
    let key ← key.read
    let j ← value room t
    return (key, j) :: (← valueMembers room rest)
end

def text : Reader String
  | _, .leaf (.text t) => t.read
  | _, t => t.wrongType "a string"

def bool : Reader Bool
  | _, .leaf (.bool b) => .ok b
  | _, t => t.wrongType "a boolean"

def greatestInt : Int := 9223372036854775807

def int : Reader Int
  | _, .leaf (.number n) => do
    match ← n.read with
    | .int i => if greatestInt < i then refuse (.outOfRange i "i64") else return i
    | .decimal x => refuse (.wrongType (.number (.decimal x)) "i64")
  | _, t => t.wrongType "i64"

def unit : Reader Unit
  | _, .leaf .null => .ok ()
  | _, t => t.wrongType "unit"

/-- `null` for nothing, and any other value as `r` reads it. -/
def option (r : Reader α) : Reader (Option α)
  | _, .leaf .null => .ok none
  | _, .leaf (.brokenNull f) => fail f
  | room, t => return some (← r room t)

def list (r : Reader α) : Reader (List α)
  | room, .array items fault => do
    let room ← enter room
    let items ← items.mapM (r room)
    closed fault
    return items
  | _, t => t.wrongType "a sequence"

/-- Any keys; a key that comes again keeps its first place and takes its last value. -/
def map (r : Reader α) : Reader (OrderedMap String α)
  | room, .object members ending => do
    let room ← enter room
    let members ← members.mapM fun m => do
      let key ← m.1.read
      return (key, ← r room m.2)
    ending.check
    return .ofList members
  | _, t => t.wrongType "a map"

def named (choices : List (String × α)) (name : String) : Except ReadError α :=
  match choices.find? fun c => c.1 = name with
  | some c => .ok c.2
  | none => refuse (.unknownVariant name (choices.map Prod.fst))

/-- One of several named values: its name, or an object of one member with its name as the key
and `null` as the value. -/
def variant (choices : List (String × α)) : Reader α
  | _, .leaf (.text t) => do named choices (← t.read)
  | _, .leaf (.absent f) => fail f
  | _, .leaf _ | _, .array _ _ => fail .malformed
  | room, .object [] ending => do
    let _ ← enter room
    ending.check
    fail .malformed
  | room, .object ((key, t) :: rest) ending => do
    let room ← enter room
    let a ← named choices (← key.read)
    unit room t
    match rest, ending with
    | [], .closed => return a
    | [], .broken f => fail f
    | _, _ => fail .malformed

/-- The first of several shapes that fits; the whole value is read before any is tried. -/
def shapes (type : String) (alternatives : List (Reader α)) : Reader α := fun room t => do
  let _ ← value room t
  match alternatives.findSome? fun r => (r room t).toOption with
  | some a => return a
  | none => refuse (.noVariant type)

/-- Read a whole text: one value, with nothing after it. -/
def run (r : Reader α) (text : String) : Except ReadError α := do
  let doc := Document.ofText text
  let a ← r depthLimit doc.tree
  if doc.complete then return a else fail .malformed

end Reader
end QueryBuilder.Json
