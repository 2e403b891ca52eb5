import QueryBuilder.Settings
import QueryBuilder.Select.Call
import QueryBuilder.Select.Page

/-!
A SELECT query while it is put together. A call gives the next query or the reason why it fails; a
failing call in a run leaves the query as it was.
-/
namespace QueryBuilder

structure Select where
  settings : Settings
  sources : Option Sources
  joins : List Join
  columns : Option Clause
  /-- DISTINCT if true, ALL if false. -/
  distinct : Option Bool
  criteria : Criteria
  groupBy : Option Clause
  orderBy : Option Clause
  page : Page
  forUpdate : Bool
deriving DecidableEq

namespace Select

/-- A query without any part. -/
def empty (settings : Settings) : Select :=
  ⟨settings, none, [], none, none, .empty settings.keyStem, none, none, .empty, false⟩

/-- The entities that a query names, sources before joins. -/
def entities (q : Select) : List Entity :=
  (q.sources.elim [] Sources.entities) ++ q.joins.map Join.entity

def addSource (e : Entity) (q : Select) : Select :=
  { q with sources := some (q.sources.elim (.several [e]) fun s => s.push e) }

/-- The query after a call, or why the call fails. -/
def apply (q : Select) : Call → Except QueryError Select
  | .setSources s => .ok { q with sources := some s }
  | .addSource e => .ok (q.addSource e)
  | .addJoin j => .ok { q with joins := q.joins ++ [j] }
  | .setColumns c => .ok { q with columns := some c }
  | .setDistinct d => .ok { q with distinct := d }
  | .filter f e => return { q with criteria := ← q.criteria.edit f e }
  | .setParams t merge => .ok { q with criteria := q.criteria.setParams t merge }
  | .declareKind k kind => .ok { q with criteria := q.criteria.declare k kind }
  | .setGroupBy c => .ok { q with groupBy := some c }
  | .setOrderBy c => .ok { q with orderBy := some c }
  | .setPage limit offset => return { q with page := ← Page.set limit offset }
  | .setOffset offset => return { q with page := ← q.page.setOffset offset }
  | .setForUpdate b => .ok { q with forUpdate := b }

/-- The query after a call; a failing call changes nothing. -/
def step (q : Select) (c : Call) : Select :=
  match q.apply c with
  | .ok q' => q'
  | .error _ => q

/-- The query after a run of calls. -/
def run (q : Select) (calls : List Call) : Select := calls.foldl step q

/-- The query after calls of which none may fail. -/
def build (q : Select) (calls : List Call) : Except QueryError Select := calls.foldlM apply q

end Select
end QueryBuilder
