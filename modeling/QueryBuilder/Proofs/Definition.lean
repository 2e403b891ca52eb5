import Mathlib.Data.List.Infix
import QueryBuilder.Definition
import QueryBuilder.Proofs.Param.Table
import QueryBuilder.Proofs.Select.Edit
import QueryBuilder.Select.Outline

/-! The criteria of a query that is built from a definition. Its parameters come with WHERE or
alone, so HAVING keeps none of them when WHERE is set anew.
-/
namespace QueryBuilder
open Param

namespace Criteria

/-- A call on another part of the query. -/
def Silent (x : Call) : Prop := ∀ c : Criteria, c.step x = c

theorem foldl_step_of_silent {calls : List Call} (silent : ∀ x ∈ calls, Silent x) (c : Criteria) :
    calls.foldl step c = c := by
  induction calls with
  | nil => rfl
  | cons x rest ih =>
    rw [List.foldl_cons, silent x (List.mem_cons_self ..)]
    exact ih fun y member => silent y (List.mem_cons_of_mem x member)

end Criteria

namespace Select

theorem criteria_run (q : Select) (calls : List Call) :
    (q.run calls).criteria = calls.foldl Criteria.step q.criteria := by
  induction calls generalizing q with
  | nil => rfl
  | cons c rest ih => rw [run_cons, ih, criteria_step, List.foldl_cons]

end Select

namespace Definition
open Select

private theorem silent_map {α : Type} {f : α → Call} (silent : ∀ a, Criteria.Silent (f a))
    (o : Option α) : ∀ x ∈ (o.map f).toList, Criteria.Silent x := by
  intro x member
  cases o with
  | none => contradiction
  | some a =>
    rw [List.mem_singleton.1 member]
    exact silent a

/-- Only the parameters, the condition and the HAVING text of a definition reach the criteria. -/
theorem criteria_of_build {s : Settings} {d : Definition} {q : Select}
    (built : d.build s = .ok q) :
    q.criteria = ⟨d.conditions.map .leaf, d.having.map .leaf, d.params, [], ⟨s.keyStem, 0⟩⟩ := by
  have joins : ∀ x ∈ d.joins.map (fun j => Call.addJoin j.join), Criteria.Silent x := by
    intro x member
    obtain ⟨j, _, rfl⟩ := List.mem_map.1 member
    exact fun _ => rfl
  have last : ∀ x ∈ [Call.setDistinct d.distinct, .setForUpdate d.forUpdate],
      Criteria.Silent x := by
    intro x member
    rcases List.mem_pair.1 member with rfl | rfl <;> exact fun _ => rfl
  rw [← run_of_build built, criteria_run, calls]
  simp only [List.foldl_append]
  rw [Criteria.foldl_step_of_silent (silent_map (fun _ _ => rfl) d.models),
    Criteria.foldl_step_of_silent (silent_map (fun _ _ => rfl) d.columns),
    Criteria.foldl_step_of_silent joins,
    Criteria.foldl_step_of_silent (silent_map (fun _ _ => rfl) d.group),
    Criteria.foldl_step_of_silent (silent_map (fun _ _ => rfl) d.order),
    Criteria.foldl_step_of_silent last]
  -- What is left is the call with the parameters, the one that sets HAVING, and those of the page.
  cases d.conditions <;> cases d.having <;> cases d.limit <;> cases d.offset <;> rfl

/-- Pairs with the keys that their texts denote. -/
def keyed {α : Type} (l : List (String × α)) : List (Key × α) := l.map fun e => (.ofText e.1, e.2)

/-- What a definition binds to a key: the last value and the last type that stand under a text of
the key. -/
def entry (d : Definition) (k : Key) : Entry :=
  ⟨(OrderedMap.last? (keyed d.bind.entries) k).getD .null,
    OrderedMap.last? (keyed d.bindTypes.entries) k⟩

theorem map_fst_keyed {α : Type} (m : OrderedMap String α) :
    (keyed m.entries).map Prod.fst = m.keys.map Key.ofText := by
  rw [keyed, OrderedMap.keys, List.map_map, List.map_map]
  rfl

theorem params_eq_declareAll (d : Definition) :
    d.params = (Table.ofValues (keyed d.bind.entries)).declareAll (keyed d.bindTypes.entries) := by
  unfold Table.declareAll keyed
  rw [List.foldl_map]
  rfl

theorem keys_params (d : Definition) :
    d.params.keys = ((d.bind.keys ++ d.bindTypes.keys).map Key.ofText).eraseDups := by
  rw [params_eq_declareAll, Table.keys_declareAll, Table.keys_ofValues, map_fst_keyed,
    map_fst_keyed, ← OrderedMap.appendNew_nil, ← OrderedMap.appendNew_append,
    OrderedMap.appendNew_nil, List.map_append]

theorem entry_of_get?_params {d : Definition} {k : Key} {e : Entry}
    (bound : d.params.get? k = some e) : e = d.entry k := by
  rw [params_eq_declareAll, Table.get?_declareAll, Table.get?_ofValues] at bound
  unfold entry
  -- Without a type and without a value the key would not be bound.
  cases value : OrderedMap.last? (keyed d.bind.entries) k <;>
    cases kind : OrderedMap.last? (keyed d.bindTypes.entries) k <;>
    simp_all

/-- The parameters of a definition are the keys that the texts of its values and, behind them, of
its types denote, each where it comes first. A key has the last value that stands under one of its
texts, or `null`, and the last type, or none. -/
theorem params_of_definition (s : Settings) {d : Definition} {q : Select}
    (built : d.build s = .ok q) :
    q.criteria.params.entries =
      ((d.bind.keys ++ d.bindTypes.keys).map Key.ofText).eraseDups.map fun k =>
        (k, ⟨(OrderedMap.last? (keyed d.bind.entries) k).getD .null,
          OrderedMap.last? (keyed d.bindTypes.entries) k⟩) := by
  have params : q.criteria.params = d.params := by rw [criteria_of_build built]
  rw [params, OrderedMap.entries_eq_map fun _ _ => entry_of_get?_params, keys_params]
  rfl

theorem params_of_definition_with_colliding_texts :
    let d : Definition := {
      models := some (.single "Robots")
      conditions := some "id = ?7"
      bind := .ofList [("7", .bool true), ("-7", .null), ("007", .number (.int 1))]
      bindTypes := .ofList [("a", .skip), ("07", .str), ("7", .int)]
      joins := [⟨"Parts", none, some "p", some .left⟩]
      having := some "COUNT(*) > :a:" }
    let q := (empty {}).run d.calls
    d.build {} = .ok q ∧ q.criteria.params.entries =
      [(.positional 7, ⟨.number (.int 1), some .int⟩), (.named "-7", ⟨.null, none⟩),
        (.named "a", ⟨.null, some .skip⟩)] := by
  intro d q
  have built : d.build {} = .ok q := rfl
  exact ⟨built, (params_of_definition {} built).trans (by decide)⟩

/-- When WHERE is set anew, the parameters of a definition make way for those that come with it. So
a key of the HAVING text stays bound just when it is bound again. -/
theorem params_of_definition_after_reset (s : Settings) {d : Definition} {q : Select}
    (built : d.build s = .ok q) (text : String) (bind : Option Table) :
    let reset := q.step (.filter .rows (.reset text bind))
    q.criteria.params = d.params ∧ reset.criteria.params = bind.getD .empty ∧
      reset.criteria.groups = d.having.map .leaf := by
  intro reset
  have criteria := criteria_of_build built
  have kept : q.criteria.kept = [] := by rw [criteria]
  have after : reset.criteria = q.criteria.step (.filter .rows (.reset text bind)) :=
    criteria_step q _
  refine ⟨by rw [criteria], ?_, ?_⟩
  · rw [after]
    exact Criteria.withKept_of_kept_eq_nil kept _
  · rw [after]
    change q.criteria.groups = _
    rw [criteria]

theorem params_of_definition_after_rebinding :
    let d : Definition := {
      models := some (.single "Robots")
      conditions := some "a = :a:"
      bind := .ofList [("a", .number (.int 1)), ("min", .number (.int 2))]
      having := some "COUNT(*) > :min:" }
    let bind := Table.ofValues [(.ofText "min", .number (.int 3))]
    let q := (empty {}).run d.calls
    let reset := q.step (.filter .rows (.reset "b = 1" (some bind)))
    d.build {} = .ok q ∧
      q.criteria.params.keys = [.named "a", .named "min"] ∧
      q.criteria.params = d.params ∧ reset.criteria.params = bind ∧
      reset.criteria.groups = some (.leaf "COUNT(*) > :min:") := by
  intro d bind q reset
  have built : d.build {} = .ok q := rfl
  obtain ⟨before, after, groups⟩ :=
    params_of_definition_after_reset {} built "b = 1" (some bind)
  exact ⟨built, by decide, before, after, groups⟩

/-- The key of a HAVING text that a definition binds is not bound after WHERE is set anew. -/
theorem having_key_unbound_after_reset :
    let d : Definition := {
      models := some (.single "Robots")
      bind := .ofList [("min", .number (.int 2))]
      having := some "COUNT(*) > :min:" }
    let k := Key.ofText "min"
    let q := (empty {}).run d.calls
    let reset := q.step (.filter .rows (.reset "a = 1" none))
    d.build {} = .ok q ∧ "min" ∈ d.bind.keys ∧
      k.placeholder.toList <:+: "COUNT(*) > :min:".toList ∧ k ∈ q.criteria.params.keys ∧
      k ∉ reset.criteria.params.keys ∧
      reset.render = .ok "SELECT * FROM Robots WHERE a = 1 HAVING COUNT(*) > :min:" := by
  refine ⟨rfl, ?_⟩
  decide

end Definition
end QueryBuilder
