import QueryBuilder.Clause
import QueryBuilder.Join
import QueryBuilder.Sources
import QueryBuilder.Select.Criteria

/-!
The calls that put a query together. A run of calls is data: it can be replayed, compared, reordered
and taken from a definition.
-/
namespace QueryBuilder

/-- What can be done to a query. -/
inductive Call
  | setSources (s : Sources)
  | addSource (e : Entity)
  | addJoin (j : Join)
  | setColumns (c : Clause)
  | setDistinct (d : Option Bool)
  | filter (f : Filter) (e : Edit)
  /-- Replace the parameters, or bind more of them. -/
  | setParams (t : Param.Table) (merge : Bool)
  | declareKind (k : Param.Key) (kind : Param.Kind)
  | setGroupBy (c : Clause)
  | setOrderBy (c : Clause)
  | setPage (limit : Int) (offset : Option Int)
  | setOffset (offset : Int)
  | setForUpdate (b : Bool)
deriving DecidableEq

end QueryBuilder
