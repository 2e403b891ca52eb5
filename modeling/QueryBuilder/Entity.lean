import QueryBuilder.Json.Record

/-!
Entities: what a query reads from, each under its name or an alias.
-/
namespace QueryBuilder

/-- Put brackets around an identifier that is not in brackets already. -/
def bracketed (ident : String) : String :=
  if ident.toList.head? = some '[' ∧ ident.toList.getLast? = some ']' then ident
  else "[" ++ ident ++ "]"

example : bracketed "a b" = "[a b]" := by decide
example : bracketed "[a b]" = "[a b]" := by decide
example : bracketed "[" = "[[]" := by decide

/-- An identifier as it is printed, in brackets if `escape` asks for them. -/
def printedIdent (escape : Bool) (ident : String) : String :=
  if escape then bracketed ident else ident

structure Entity where
  name : String
  aliasName : Option String
deriving DecidableEq, Repr

namespace Entity

/-- The name, and after `AS` the alias if there is one. -/
def render (escape : Bool) (e : Entity) : String :=
  match e.aliasName with
  | none => printedIdent escape e.name
  | some a => printedIdent escape e.name ++ " AS " ++ printedIdent escape a

def toJson (e : Entity) : Json :=
  .object (("name", .text e.name) :: (e.aliasName.map fun a => ("alias", .text a)).toList)

def fields : List (Json.Field Entity) :=
  [Json.field "name" .required .text fun s e => { e with name := s },
    Json.field "alias" .optional (.option .text) fun a e => { e with aliasName := a }]

def reader : Json.Reader Entity := .record "EntityRef" fields ⟨"", none⟩

end Entity
end QueryBuilder
