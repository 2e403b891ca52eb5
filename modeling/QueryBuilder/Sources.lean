import QueryBuilder.Entity
import QueryBuilder.Text.Blank

/-!
The sources of a query: one plain name, or entities in order.
-/
namespace QueryBuilder

inductive Sources
  | single (name : String)
  | several (entities : List Entity)
deriving DecidableEq, Repr

namespace Sources

def entities : Sources → List Entity
  | .single name => [⟨name, none⟩]
  | .several es => es

/-- Whether no source is named: the single name is blank, or there is no entity. -/
def isEmpty : Sources → Bool
  | .single name => Text.isBlank name
  | .several es => es.isEmpty

/-- Add an entity at the end; a blank single name is dropped. -/
def push (s : Sources) (e : Entity) : Sources :=
  match s with
  | .single name => if Text.isBlank name then .several [e] else .several [⟨name, none⟩, e]
  | .several es => .several (es ++ [e])

def render (escape : Bool) : Sources → String
  | .single name => printedIdent escape name
  | .several es => ", ".intercalate (es.map (Entity.render escape))

def toJson : Sources → Json
  | .single name => .text name
  | .several es => .array (es.map Entity.toJson)

def reader : Json.Reader Sources :=
  .shapes "Sources"
    [fun room t => .single <$> Json.Reader.text room t,
      fun room t => .several <$> Json.Reader.list Entity.reader room t]

/-- Sources without aliases. -/
def ofNames (names : List String) : Sources := .several (names.map fun n => ⟨n, none⟩)

/-- Sources from pairs of an alias and a name. -/
def ofAliased (pairs : List (String × String)) : Sources :=
  .several (pairs.map fun p => ⟨p.2, some p.1⟩)

/-- Sources as a definition gives them: a name, a list of names, or an object from aliases to
names. -/
def definitionReader : Json.Reader Sources :=
  .shapes "ModelsDefinition"
    [fun room t => .single <$> Json.Reader.text room t,
      fun room t => ofNames <$> Json.Reader.list Json.Reader.text room t,
      fun room t => (fun m => ofAliased m.entries) <$> Json.Reader.map Json.Reader.text room t]

end Sources
end QueryBuilder
