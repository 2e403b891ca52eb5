import QueryBuilder.Proofs.Select.Binding

/-! The parameters after WHERE is set anew. What HAVING keeps is read off the calls of a run: the
keys that were bound for it since it was last set anew itself.
-/
namespace QueryBuilder
open Param

/-- Whether a call sets HAVING anew. -/
def Call.resetsGroups : Call → Bool
  | .filter .groups e => e.isReset
  | _ => false

namespace Select

/-- The keys that a call binds for HAVING. -/
def groupKeys (q : Select) : Call → List Key
  | .filter .groups e => (q.binds (.filter .groups e)).keys
  | _ => []

/-- The keys that a run of calls binds for HAVING, in order, from the last call on that sets it anew
or from the start. -/
def liveGroupKeys (q : Select) : List Call → List Key
  | [] => []
  | c :: rest =>
    if rest.any Call.resetsGroups then (q.step c).liveGroupKeys rest
    else q.groupKeys c ++ (q.step c).liveGroupKeys rest

theorem kept_step (q : Select) (c : Call) :
    (q.step c).criteria.kept =
      OrderedMap.appendNew (if c.resetsGroups then [] else q.criteria.kept) (q.groupKeys c) := by
  rw [criteria_step]
  cases c with
  | filter f e =>
    simp only [Criteria.step]
    cases f with
    | rows => cases q.criteria.addition e <;> rfl
    | groups =>
      simp only [groupKeys, binds]
      cases added : q.criteria.addition e with
      | ok a => rfl
      | error reason =>
        cases e with
        | among negated expr values op => rfl
        | _ => contradiction
  | _ => rfl

/-- What HAVING keeps are the keys bound for it since it was last set anew. -/
theorem kept_run (q : Select) (calls : List Call) :
    (q.run calls).criteria.kept =
      OrderedMap.appendNew (if calls.any Call.resetsGroups then [] else q.criteria.kept)
        (q.liveGroupKeys calls) := by
  induction calls generalizing q with
  | nil => rfl
  | cons c rest ih =>
    rw [run_cons, ih, liveGroupKeys, List.any_cons]
    cases later : rest.any Call.resetsGroups with
    | true => simp
    | false => simp [kept_step, OrderedMap.appendNew_append]

/-- After WHERE is set anew the parameters are those it comes with and, behind them, those of HAVING
that it does not bind: the keys that HAVING bound since it was last set anew, in the order of their
first binding, with their last entries. No other key is bound. -/
theorem params_after_rows_reset (s : Settings) (calls : List Call) (text : String)
    (bind : Option Table) :
    let old := (empty s).run calls
    let new := old.step (.filter .rows (.reset text bind))
    let given := bind.getD .empty
    let live := (empty s).liveGroupKeys calls
    new.criteria.params.entries = given.entries ++
        (live.eraseDups.filter fun k => k ∉ given.keys).filterMap
          (fun k => (old.criteria.params.get? k).map (k, ·)) ∧
      ∀ k, k ∈ new.criteria.params.keys ↔
        k ∈ given.keys ∨ k ∈ live ∧ k ∈ old.criteria.params.keys := by
  intro old new given live
  have params : new.criteria.params = old.criteria.withKept given := by
    rw [show new.criteria = _ from criteria_step old _]
    rfl
  have kept : old.criteria.kept = live.eraseDups := by
    rw [show old.criteria.kept = _ from kept_run (empty s) calls, ← OrderedMap.appendNew_nil]
    split <;> rfl
  refine ⟨?_, fun k => ?_⟩
  · have distinct : old.criteria.kept.Nodup := by
      rw [kept, ← OrderedMap.appendNew_nil]
      exact OrderedMap.nodup_appendNew List.nodup_nil live
    rw [params, Criteria.entries_withKept distinct, kept]
  · rw [params, ← not_iff_not, ← OrderedMap.get?_eq_none_iff, Criteria.get?_withKept,
      Option.or_eq_none_iff, OrderedMap.get?_eq_none_iff, kept]
    by_cases member : k ∈ live <;> simp [member, OrderedMap.get?_eq_none_iff]

/-- A key of an earlier HAVING and a key with a type alone are dropped. A kept key keeps the type
that is declared for it. -/
example :
    let earlier := Table.ofValues [(.named "a", .null)]
    let groups := Table.ofValues [(.named "b", .null), (.named "c", .null)]
    let rows := Table.ofValues [(.named "c", .bool true)]
    let calls := [Call.filter .groups (.extend .and "MIN(x) > :a:" (some earlier)),
      .filter .groups (.reset "MAX(x) > :b: + :c:" (some groups)),
      .declareKind (.named "b") .int, .declareKind (.named "d") .str,
      .filter .rows (.reset "y = :c:" (some rows))]
    ((empty {}).run calls).criteria.params.entries =
      [(.named "c", ⟨.bool true, none⟩), (.named "b", ⟨.null, some .int⟩)] := by decide

end Select
end QueryBuilder
