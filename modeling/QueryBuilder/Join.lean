import QueryBuilder.Entity
import QueryBuilder.Text.Blank

/-!
Joined entities.
-/
namespace QueryBuilder

inductive JoinKind
  | inner
  | left
  | right
  | cross
deriving DecidableEq, Repr, Inhabited

namespace JoinKind

def keyword : JoinKind → String
  | .inner => "INNER"
  | .left => "LEFT"
  | .right => "RIGHT"
  | .cross => "CROSS"

def name : JoinKind → String
  | .inner => "inner"
  | .left => "left"
  | .right => "right"
  | .cross => "cross"

def all : List JoinKind := [.inner, .left, .right, .cross]

def toJson (k : JoinKind) : Json := .text k.name

def reader : Json.Reader JoinKind := .variant (all.map fun k => (k.name, k))

end JoinKind

structure Join where
  entity : Entity
  condition : Option String
  kind : JoinKind
deriving DecidableEq, Repr

namespace Join

/-- The join of an entity by its name; without a kind it is an inner join. -/
def ofName (name : String) (condition aliasName : Option String) (kind : Option JoinKind) : Join :=
  ⟨⟨name, aliasName⟩, condition, kind.getD .inner⟩

/-- A cross join, which has no condition. -/
def cross (name : String) (aliasName : Option String) : Join :=
  ofName name none aliasName (some .cross)

/-- The condition that is printed: a blank one is not. -/
def printedCondition? (j : Join) : Option String :=
  j.condition.filter fun c => !Text.isBlank c

def render (escape : Bool) (j : Join) : String :=
  j.kind.keyword ++ " JOIN " ++ j.entity.render escape ++
    (j.printedCondition?.elim "" fun c => " ON " ++ c)

def toJson (j : Join) : Json :=
  .object ([("entity", j.entity.toJson)] ++
    (j.condition.map fun c => ("condition", .text c)).toList ++ [("type", j.kind.toJson)])

def fields : List (Json.Field Join) :=
  [Json.field "entity" .required Entity.reader fun e j => { j with entity := e },
    Json.field "condition" .optional (.option .text) fun c j => { j with condition := c },
    Json.field "type" .optional JoinKind.reader fun k j => { j with kind := k }]

def reader : Json.Reader Join := .record "Join" fields ⟨⟨"", none⟩, none, .inner⟩

end Join
end QueryBuilder
