import QueryBuilder.Select.Outline

/-!
What is reported about a query: conditions set anew, aliases used twice, and rendered texts. A
call that fails reports nothing.
-/
namespace QueryBuilder

inductive Level
  | trace
  | debug
  | warn
deriving DecidableEq, Repr

inductive Event
  | rowsReset (text : String)
  /-- An added source or join carries an alias that is owned already. -/
  | aliasReused (clash : AliasClash)
  /-- Sources that were set carry an alias twice, among themselves or with a join. -/
  | sourcesClash (clash : AliasClash)
  | rendered (text : String) (params : Nat)
deriving DecidableEq, Repr

namespace Event

def level : Event → Level
  | .rowsReset _ => .trace
  | .rendered _ _ => .debug
  | .aliasReused _ | .sourcesClash _ => .warn

def message : Event → String
  | .rowsReset _ => "WHERE reset"
  | .rendered _ _ => "rendered PQL"
  | .aliasReused _ => "alias reused; both entities will render"
  | .sourcesClash clash => clash.message

end Event

namespace Select

/-- The reports about aliases under a policy. -/
def warnings (q : Select) (events : List Event) : List Event :=
  match q.settings.clashPolicy with
  | .warn => events
  | .reject => []

/-- The report about an entity that is to be added. -/
def reuse (q : Select) (e : Entity) : List Event :=
  q.warnings ((AliasClash.next? q.entities e).map Event.aliasReused).toList

/-- What a call reports. -/
def events (q : Select) : Call → List Event
  | .setSources s =>
    q.warnings ((AliasClash.all { q with sources := some s }.entities).map Event.sourcesClash)
  | .addSource e => q.reuse e
  | .addJoin j => q.reuse j.entity
  | .filter .rows (.reset text _) => [.rowsReset text]
  | _ => []

/-- What a run of calls reports. -/
def trace (q : Select) : List Call → List Event
  | [] => []
  | c :: rest => q.events c ++ (q.step c).trace rest

/-- What rendering a query reports. -/
def renderEvents (q : Select) : List Event :=
  match q.render with
  | .ok text => [.rendered text q.criteria.params.size]
  | .error _ => []

end Select
end QueryBuilder
