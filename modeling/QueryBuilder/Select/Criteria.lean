import QueryBuilder.Condition
import QueryBuilder.Param.Fragment

/-!
The conditions of a query and the parameters they share. WHERE filters rows, HAVING filters groups.
Setting WHERE anew replaces the parameters, but those that HAVING bound are kept.
-/
namespace QueryBuilder

/-- The two conditions of a query. -/
inductive Filter
  /-- WHERE. -/
  | rows
  /-- HAVING. -/
  | groups
deriving DecidableEq, Repr

def Filter.keyword : Filter → String
  | .rows => "WHERE"
  | .groups => "HAVING"

/-- What can be done to a condition. -/
inductive Edit
  /-- Start again from one text. -/
  | reset (text : String) (bind : Option Param.Table)
  /-- Add a text at the right. -/
  | extend (op : Connective) (text : String) (bind : Option Param.Table)
  /-- Add a BETWEEN test of values bound to generated keys. -/
  | between (negated : Bool) (expr : String) (low high : Json) (op : Connective)
  /-- Add an IN test of values bound to generated keys. -/
  | among (negated : Bool) (expr : String) (values : List Json) (op : Connective)
deriving DecidableEq

structure Criteria where
  rows : Option Condition
  groups : Option Condition
  params : Param.Table
  /-- The keys that HAVING bound since it was last set anew, in the order of their binding. -/
  kept : List Param.Key
  fresh : Param.Fresh
deriving DecidableEq

namespace Criteria

def empty (stem : String) : Criteria := ⟨none, none, .empty, [], ⟨stem, 0⟩⟩

def condition : Filter → Criteria → Option Condition
  | .rows, c => c.rows
  | .groups, c => c.groups

def setCondition (f : Filter) (x : Condition) (c : Criteria) : Criteria :=
  match f with
  | .rows => { c with rows := some x }
  | .groups => { c with groups := some x }

/-- Add keys to a list, each once, in their order. -/
def addKeys (kept keys : List Param.Key) : List Param.Key :=
  keys.foldl (fun acc k => if k ∈ acc then acc else acc ++ [k]) kept

/-- Bind parameters for a condition; the keys of HAVING are noted. -/
def bind (f : Filter) (bind : Param.Table) (c : Criteria) : Criteria :=
  match f with
  | .rows => { c with params := c.params.merge bind }
  | .groups => { c with params := c.params.merge bind, kept := addKeys c.kept bind.keys }

/-- Bind parameters if there are any. -/
def bind? (f : Filter) (bind : Option Param.Table) (c : Criteria) : Criteria :=
  match bind with
  | none => c
  | some t => c.bind f t

/-- A table, and after it the parameters of HAVING whose keys it does not bind. -/
def withKept (c : Criteria) (bind : Param.Table) : Param.Table :=
  c.kept.foldl (fun t k =>
    if t.contains k then t
    else match c.params.get? k with
      | some e => t.insert k e
      | none => t) bind

/-- Set a condition anew. -/
def reset (f : Filter) (text : String) (bind : Option Param.Table) (c : Criteria) : Criteria :=
  let d := c.setCondition f (.leaf text)
  match f with
  | .rows => { d with params := c.withKept (bind.getD .empty) }
  | .groups => { d with kept := [] }.bind? .groups bind

/-- Add a text to a condition. -/
def extend (f : Filter) (op : Connective) (text : String) (c : Criteria) : Criteria :=
  c.setCondition f (Condition.extend (c.condition f) op text)

/-- Add a test of values that are bound to generated keys. -/
def attach (f : Filter) (op : Connective) (t : Param.Fragment) (fresh : Param.Fresh)
    (c : Criteria) : Criteria :=
  ({ c with fresh := fresh }.extend f op t.text).bind f t.params

def edit (f : Filter) (c : Criteria) : Edit → Except QueryError Criteria
  | .reset text bind => .ok (c.reset f text bind)
  | .extend op text bind => .ok ((c.extend f op text).bind? f bind)
  | .between negated expr low high op =>
    let (t, fresh) := Param.Fragment.between c.fresh c.params expr negated low high
    .ok (c.attach f op t fresh)
  | .among negated expr values op => do
    let (t, fresh) ← Param.Fragment.among c.fresh c.params expr negated values
    return c.attach f op t fresh

/-- Replace the parameters, or bind more of them. -/
def setParams (t : Param.Table) (merge : Bool) (c : Criteria) : Criteria :=
  { c with params := if merge then c.params.merge t else t }

def declare (k : Param.Key) (kind : Param.Kind) (c : Criteria) : Criteria :=
  { c with params := Param.Table.declare c.params k kind }

end Criteria
end QueryBuilder
