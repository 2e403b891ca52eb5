import QueryBuilder.Select.Basic

/-!
The printed parts of a query and its text. A part that is not printed is `none`; the text is the
parts behind their keywords in a fixed order.
-/
namespace QueryBuilder

/-- What is printed of a query. -/
structure Outline where
  /-- DISTINCT or ALL. -/
  quantifier : Option String
  columns : String
  sources : String
  joins : List String
  rows : Option String
  groupBy : Option String
  groups : Option String
  orderBy : Option String
  page : Option String
  forUpdate : Bool
deriving DecidableEq, Repr

namespace Outline

/-- A body behind its keyword, if there is a body. -/
def part (keyword : String) (body : Option String) : String :=
  body.elim "" fun b => " " ++ keyword ++ " " ++ b

def text (o : Outline) : String :=
  "SELECT " ++ o.quantifier.elim "" (fun w => w ++ " ") ++ o.columns ++ " FROM " ++ o.sources ++
    String.join (o.joins.map fun j => " " ++ j) ++ part Filter.rows.keyword o.rows ++
    part "GROUP BY" o.groupBy ++ part Filter.groups.keyword o.groups ++
    part "ORDER BY" o.orderBy ++ o.page.elim "" (fun p => " " ++ p) ++
    if o.forUpdate then " FOR UPDATE" else ""

end Outline

/-- The text of a query with its parameters, as it is handed to an executor. -/
structure BoundQuery where
  text : String
  params : Param.Table
deriving DecidableEq

def BoundQuery.toJson (b : BoundQuery) : Json :=
  .object [("phql", .text b.text), ("params", b.params.toJson)]

namespace Select

/-- The sources of a query that may be rendered: some source is named, and no alias clashes
where the settings refuse that. -/
def checkedSources (q : Select) : Except QueryError Sources :=
  match q.sources.filter fun s => !s.isEmpty with
  | none => .error .noSource
  | some s =>
    match q.settings.clashPolicy, (AliasClash.all q.entities).head? with
    | .reject, some clash => .error (.aliasClash clash)
    | _, _ => .ok s

def outline (q : Select) : Except QueryError Outline := do
  let s ← q.checkedSources
  let escape := q.settings.escape
  return {
    quantifier := q.distinct.map fun d => if d then "DISTINCT" else "ALL"
    columns := (Clause.printed? q.columns).getD q.settings.defaultColumns
    sources := s.render escape
    joins := q.joins.map (Join.render escape)
    rows := q.criteria.rows.map Condition.render
    groupBy := Clause.printed? q.groupBy
    groups := q.criteria.groups.map Condition.render
    orderBy := Clause.printed? q.orderBy
    page := q.page.printed?
    forUpdate := q.forUpdate }

/-- The text of a query. -/
def render (q : Select) : Except QueryError String := return (← q.outline).text

/-- The text of a query with its parameters. -/
def bound (q : Select) : Except QueryError BoundQuery := return ⟨← q.render, q.criteria.params⟩

/-- What an executor makes of a query. -/
def execute {α : Type} (q : Select) (executor : BoundQuery → α) : Except QueryError α :=
  return executor (← q.bound)

example : ((empty {}).run [.setSources (.single "Robots"), .setPage 10 (some 5),
    .filter .rows (.among false "id" [.null, .bool true] .and)]).render.toOption =
    some "SELECT * FROM Robots WHERE id IN (:AP0:, :AP1:) LIMIT 10 OFFSET 5" := by decide

end Select
end QueryBuilder
