import QueryBuilder.Select.Basic

/-!
Definitions: a query given at once, as JSON. A definition stands for a run of calls on an empty
query, and is built by that run.
-/
namespace QueryBuilder

structure JoinDefinition where
  model : String
  conditions : Option String
  aliasName : Option String
  kind : Option JoinKind
deriving DecidableEq, Repr

namespace JoinDefinition

def fields : List (Json.Field JoinDefinition) :=
  [Json.field "model" .required .text fun x d => { d with model := x },
    Json.field "conditions" .optional (.option .text) fun x d => { d with conditions := x },
    Json.field "alias" .optional (.option .text) fun x d => { d with aliasName := x },
    Json.field "type" .optional (.option JoinKind.reader) fun x d => { d with kind := x }]

def reader : Json.Reader JoinDefinition := .record "JoinDefinition" fields ⟨"", none, none, none⟩

def join (d : JoinDefinition) : Join := .ofName d.model d.conditions d.aliasName d.kind

end JoinDefinition

structure Definition where
  models : Option Sources := none
  columns : Option Clause := none
  conditions : Option String := none
  /-- Values by key texts; a text of digits denotes a position. -/
  bind : OrderedMap String Json := .empty
  bindTypes : OrderedMap String Param.Kind := .empty
  joins : List JoinDefinition := []
  group : Option Clause := none
  having : Option String := none
  order : Option Clause := none
  limit : Option Int := none
  offset : Option Int := none
  distinct : Option Bool := none
  forUpdate : Bool := false

namespace Definition

def fields : List (Json.Field Definition) :=
  [Json.field "models" .optional (.option Sources.definitionReader) fun x d =>
      { d with models := x },
    Json.field "columns" .optional (.option Clause.reader) fun x d => { d with columns := x },
    Json.field "conditions" .optional (.option .text) fun x d => { d with conditions := x },
    Json.field "bind" .optional (.map .value) fun x d => { d with bind := x },
    Json.field "bind_types" .optional (.map Param.Kind.reader) fun x d =>
      { d with bindTypes := x },
    Json.field "joins" .optional (.list JoinDefinition.reader) fun x d => { d with joins := x },
    Json.field "group" .optional (.option Clause.reader) fun x d => { d with group := x },
    Json.field "having" .optional (.option .text) fun x d => { d with having := x },
    Json.field "order" .optional (.option Clause.reader) fun x d => { d with order := x },
    Json.field "limit" .optional (.option .int) fun x d => { d with limit := x },
    Json.field "offset" .optional (.option .int) fun x d => { d with offset := x },
    Json.field "distinct" .optional (.option .bool) fun x d => { d with distinct := x },
    Json.field "for_update" .optional .bool fun x d => { d with forUpdate := x }]

def reader : Json.Reader Definition := .record "BuilderDefinition" fields {}

/-- The parameters: the values by their keys, then the declared types. -/
def params (d : Definition) : Param.Table :=
  d.bindTypes.entries.foldl (fun t e => Param.Table.declare t (.ofText e.1) e.2)
    (.ofValues (d.bind.entries.map fun e => (.ofText e.1, e.2)))

/-- The calls that a definition stands for. -/
def calls (d : Definition) : List Call :=
  (d.models.map Call.setSources).toList ++ (d.columns.map Call.setColumns).toList ++
    d.joins.map (fun j => .addJoin j.join) ++
    [match d.conditions with
      | some text => .filter .rows (.reset text (some d.params))
      | none => .setParams d.params false] ++
    (d.group.map Call.setGroupBy).toList ++
    (d.having.map fun text => .filter .groups (.reset text none)).toList ++
    (d.order.map Call.setOrderBy).toList ++
    (match d.limit, d.offset with
      | some limit, offset => [.setPage limit offset]
      | none, some offset => [.setOffset offset]
      | none, none => []) ++
    [.setDistinct d.distinct, .setForUpdate d.forUpdate]

/-- The query of a definition. -/
def build (settings : Settings) (d : Definition) : Except QueryError Select :=
  (Select.empty settings).build d.calls

/-- The definition in a JSON text. -/
def ofText (text : String) : Except QueryError Definition :=
  match reader.run text with
  | .ok d => .ok d
  | .error e => .error (.definition e)

end Definition

/-- The query of a definition in a JSON text. -/
def Select.ofDefinition (settings : Settings) (text : String) : Except QueryError Select := do
  (← Definition.ofText text).build settings

-- A text of digits as a key of `bind` denotes a position, with leading zeros or without.
example : (Definition.ofText
      "\x7b\"limit\": 5, \"bind\": \x7b\"07\": null\x7d, \"models\": [\"Robots\"]\x7d").toOption.map
        Definition.calls =
    some [.setSources (.several [⟨"Robots", none⟩]),
      .setParams (.ofValues [(.positional 7, .null)]) false, .setPage 5 none, .setDistinct none,
      .setForUpdate false] := by decide +kernel

end QueryBuilder
