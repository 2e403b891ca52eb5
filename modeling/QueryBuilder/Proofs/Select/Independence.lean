import Mathlib.Data.List.Forall2
import QueryBuilder.Proofs.Param.Table
import QueryBuilder.Proofs.Select.Edit
import QueryBuilder.Proofs.Select.Kept
import QueryBuilder.Select.Outline

/-! Bound values never reach the text of a query. Two runs that bind the same keys give the same
results and texts, whatever values and types they bind to them.
-/
namespace QueryBuilder
open Param

/-- Two edits that are the same but for the values and types of their parameters. -/
inductive Edit.SameKeys : Edit → Edit → Prop
  | reset (text : String) {bind bind' : Option Table}
      (keys : bind.map OrderedMap.keys = bind'.map OrderedMap.keys) :
      SameKeys (.reset text bind) (.reset text bind')
  | extend (op : Connective) (text : String) {bind bind' : Option Table}
      (keys : bind.map OrderedMap.keys = bind'.map OrderedMap.keys) :
      SameKeys (.extend op text bind) (.extend op text bind')
  | between (negated : Bool) (expr : String) (op : Connective) (low high low' high' : Json) :
      SameKeys (.between negated expr low high op) (.between negated expr low' high' op)
  | among (negated : Bool) (expr : String) (op : Connective) {values values' : List Json}
      (length : values.length = values'.length) :
      SameKeys (.among negated expr values op) (.among negated expr values' op)

/-- Two calls that are the same but for the values and types of their parameters. -/
inductive Call.SameKeys : Call → Call → Prop
  | filter (f : Filter) {e e' : Edit} (same : e.SameKeys e') :
      SameKeys (.filter f e) (.filter f e')
  | setParams {t t' : Table} (keys : t.keys = t'.keys) (merge : Bool) :
      SameKeys (.setParams t merge) (.setParams t' merge)
  | declareKind (k : Key) (kind kind' : Kind) :
      SameKeys (.declareKind k kind) (.declareKind k kind')
  | same (c : Call) : SameKeys c c

namespace Param.Fresh

theorem search_congr {t t' : Table} (keys : t.keys = t'.keys) (stem : String) (tries n : Nat) :
    search t stem tries n = search t' stem tries n := by
  induction tries generalizing n with
  | zero => rfl
  | succ tries ih => rw [search, search, ih, OrderedMap.contains, OrderedMap.contains, keys]

theorem take_congr {t t' : Table} (keys : t.keys = t'.keys) (f : Fresh) :
    f.take t = f.take t' := by
  have sizes : t.size = t'.size := by
    rw [← OrderedMap.length_keys, ← OrderedMap.length_keys, keys]
  rw [take, take, nextFree, nextFree, sizes, search_congr keys]

theorem takeMany_congr {t t' : Table} (keys : t.keys = t'.keys) (f : Fresh) (count : Nat) :
    f.takeMany t count = f.takeMany t' count := by
  induction count generalizing f with
  | zero => rfl
  | succ count ih => rw [takeMany_succ, takeMany_succ, take_congr keys, ih]

end Param.Fresh

namespace Edit.SameKeys

variable {e e' : Edit}

protected theorem refl (e : Edit) : e.SameKeys e := by
  cases e with
  | reset text bind => exact .reset text rfl
  | extend op text bind => exact .extend op text rfl
  | between negated expr low high op => exact .between negated expr op low high low high
  | among negated expr values op => exact .among negated expr op rfl

theorem length_values (h : e.SameKeys e') : e.values.length = e'.values.length := by
  cases h with
  | among negated expr op length => exact length
  | _ => rfl

theorem textOver_eq (h : e.SameKeys e') (ps : List String) : e.textOver ps = e'.textOver ps := by
  cases h <;> rfl

theorem onto_eq (h : e.SameKeys e') (x : Option Condition) (text : String) :
    e.onto x text = e'.onto x text := by
  cases h <;> rfl

theorem isReset_eq (h : e.SameKeys e') : e.isReset = e'.isReset := by
  cases h <;> rfl

end Edit.SameKeys

namespace Criteria

/-- Criteria that are the same but for the values and types of their parameters. -/
structure SameKeys (c c' : Criteria) : Prop where
  rows : c.rows = c'.rows
  groups : c.groups = c'.groups
  keys : c.params.keys = c'.params.keys
  kept : c.kept = c'.kept
  fresh : c.fresh = c'.fresh

variable {c c' : Criteria}

theorem keys_withKept_congr (h : c.SameKeys c') {t t' : Table} (keys : t.keys = t'.keys) :
    (c.withKept t).keys = (c'.withKept t').keys := by
  rw [withKept_eq_carry, withKept_eq_carry, ← h.kept]
  generalize c.kept = kept
  induction kept generalizing t t' with
  | nil => exact keys
  | cons k rest ih => exact ih (by rw [keys_carry, keys_carry, keys, h.keys])

theorem SameKeys.minted_eq (h : c.SameKeys c') {e e' : Edit} (same : e.SameKeys e') :
    c.minted e = c'.minted e' := by
  rw [minted, minted, h.fresh, same.length_values, Fresh.takeMany_congr h.keys]

/-- What an edit adds, without the values and types that it binds. -/
def bare (a : Fragment × Fresh) : String × List Key × Fresh := (a.1.text, a.1.params.keys, a.2)

theorem bare_addition_of_values (c : Criteria) {e : Edit} (given : e.values ≠ []) :
    (c.addition e).map bare = .ok (e.textOver ((c.minted e).map Key.placeholder), c.minted e,
      (c.fresh.takeMany c.params e.values.length).2) := by
  rw [c.addition_of_values given, Except.map, bare, keys_ofValues_minted]

private theorem keys_getD {bind bind' : Option Table}
    (keys : bind.map OrderedMap.keys = bind'.map OrderedMap.keys) :
    (bind.getD .empty).keys = (bind'.getD .empty).keys := by
  cases bind with
  | none =>
    cases bind' with
    | none => rfl
    | some t' => contradiction
  | some t =>
    cases bind' with
    | none => contradiction
    | some t' => exact Option.some.inj keys

theorem SameKeys.addition_eq (h : c.SameKeys c') {e e' : Edit} (same : e.SameKeys e') :
    (c.addition e).map bare = (c'.addition e').map bare := by
  rcases eq_or_ne e.values [] with empty | given
  · -- Without values no key is taken; a membership test fails for want of them.
    cases same with
    | reset text keys => simp only [addition, Except.map, bare, keys_getD keys, h.fresh]
    | extend op text keys => simp only [addition, Except.map, bare, keys_getD keys, h.fresh]
    | between negated expr op low high low' high' => contradiction
    | @among negated expr op values values' length =>
      have left : values = [] := empty
      have right : values' = [] := List.eq_nil_of_length_eq_zero (by rw [← length, left]; rfl)
      rw [left, right]
      rfl
  · have given' : e'.values ≠ [] := by
      intro none
      exact given (List.eq_nil_of_length_eq_zero (by rw [same.length_values, none]; rfl))
    rw [c.bare_addition_of_values given, c'.bare_addition_of_values given', h.minted_eq same,
      same.textOver_eq, same.length_values, h.fresh, Fresh.takeMany_congr h.keys]

theorem SameKeys.after (h : c.SameKeys c') {e e' : Edit} (same : e.SameKeys e') (f : Filter)
    {a a' : Fragment × Fresh} (added : bare a = bare a') :
    (c.after f e a.1 a.2).SameKeys (c'.after f e' a'.1 a'.2) := by
  obtain ⟨text, rest⟩ := Prod.mk.inj added
  obtain ⟨keys, fresh⟩ := Prod.mk.inj rest
  have merged : (c.params.merge a.1.params).keys = (c'.params.merge a'.1.params).keys := by
    rw [OrderedMap.keys_merge, OrderedMap.keys_merge, h.keys, keys]
  cases f with
  | rows =>
    refine ⟨by simp only [Criteria.after, h.rows, text, same.onto_eq], h.groups, ?_, h.kept, fresh⟩
    simp only [Criteria.after, same.isReset_eq]
    split
    · exact keys_withKept_congr h keys
    · exact merged
  | groups =>
    refine ⟨h.rows, by simp only [Criteria.after, h.groups, text, same.onto_eq], merged, ?_, fresh⟩
    simp only [Criteria.after, same.isReset_eq, h.kept, keys]

/-- Edits that are the same but for data both succeed, with criteria that are, or fail alike. -/
theorem SameKeys.edit (h : c.SameKeys c') {e e' : Edit} (same : e.SameKeys e') (f : Filter) :
    (∃ d d', c.edit f e = .ok d ∧ c'.edit f e' = .ok d' ∧ d.SameKeys d') ∨
      ∃ reason, c.edit f e = .error reason ∧ c'.edit f e' = .error reason := by
  have both := h.addition_eq same
  rw [edit_eq, edit_eq]
  cases left : c.addition e with
  | error reason =>
    cases right : c'.addition e' with
    | error reason' =>
      rw [left, right] at both
      exact .inr ⟨reason, rfl, by rw [Except.error.inj both]; rfl⟩
    | ok a' => rw [left, right] at both; contradiction
  | ok a =>
    cases right : c'.addition e' with
    | error reason' => rw [left, right] at both; contradiction
    | ok a' =>
      rw [left, right] at both
      exact .inl ⟨_, _, rfl, rfl, h.after same f (Except.ok.inj both)⟩

theorem SameKeys.setParams (h : c.SameKeys c') {t t' : Table} (keys : t.keys = t'.keys)
    (merge : Bool) : (c.setParams t merge).SameKeys (c'.setParams t' merge) := by
  refine ⟨h.rows, h.groups, ?_, h.kept, h.fresh⟩
  cases merge with
  | false => exact keys
  | true =>
    have merged : (c.params.merge t).keys = (c'.params.merge t').keys := by
      rw [OrderedMap.keys_merge, OrderedMap.keys_merge, h.keys, keys]
    exact merged

theorem SameKeys.declare (h : c.SameKeys c') (k : Key) (kind kind' : Kind) :
    (c.declare k kind).SameKeys (c'.declare k kind') := by
  refine ⟨h.rows, h.groups, ?_, h.kept, h.fresh⟩
  simp only [Criteria.declare, Table.keys_declare, h.keys]

end Criteria

namespace Select

/-- Queries that are the same but for the values and types of their parameters. -/
def SameKeys (q q' : Select) : Prop :=
  ∃ c, q.criteria.SameKeys c ∧ q' = { q with criteria := c }

variable {q q' : Select}

theorem SameKeys.render_eq (h : q.SameKeys q') : q.render = q'.render := by
  obtain ⟨c, same, rfl⟩ := h
  simp only [render, outline, same.rows, same.groups]
  rfl

private theorem step_filter {c : Criteria} (kept : q.criteria.SameKeys c) (f : Filter)
    {e e' : Edit} (same : e.SameKeys e') :
    let q' : Select := { q with criteria := c }
    (q.apply (.filter f e)).map (fun _ => ()) = (q'.apply (.filter f e')).map (fun _ => ()) ∧
      (q.step (.filter f e)).SameKeys (q'.step (.filter f e')) := by
  intro q'
  rcases kept.edit same f with ⟨d, d', left, right, after⟩ | ⟨reason, left, right⟩
  · have done : q.apply (.filter f e) = .ok { q with criteria := d } := by rw [apply, left]; rfl
    have done' : q'.apply (.filter f e') = .ok { q with criteria := d' } := by
      rw [apply, right]; rfl
    rw [step, step, done, done']
    exact ⟨rfl, d', after, rfl⟩
  · have failed : q.apply (.filter f e) = .error reason := by rw [apply, left]; rfl
    have failed' : q'.apply (.filter f e') = .error reason := by rw [apply, right]; rfl
    rw [step, step, failed, failed']
    exact ⟨rfl, c, kept, rfl⟩

theorem SameKeys.step (h : q.SameKeys q') {c c' : Call} (same : c.SameKeys c') :
    (q.apply c).map (fun _ => ()) = (q'.apply c').map (fun _ => ()) ∧
      (q.step c).SameKeys (q'.step c') := by
  obtain ⟨d, kept, rfl⟩ := h
  cases same with
  | filter f same => exact step_filter kept f same
  | setParams keys merge => exact ⟨rfl, _, kept.setParams keys merge, rfl⟩
  | declareKind k kind kind' => exact ⟨rfl, _, kept.declare k kind kind', rfl⟩
  | same c =>
    cases c with
    | filter f e => exact step_filter kept f (.refl e)
    | setParams t merge => exact ⟨rfl, _, kept.setParams rfl merge, rfl⟩
    | declareKind k kind => exact ⟨rfl, _, kept.declare k kind kind, rfl⟩
    | setPage limit offset =>
      simp only [Select.step, apply]
      cases Page.set limit offset <;> exact ⟨rfl, d, kept, rfl⟩
    | setOffset offset =>
      simp only [Select.step, apply]
      cases q.page.setOffset offset <;> exact ⟨rfl, d, kept, rfl⟩
    | _ => exact ⟨rfl, d, kept, rfl⟩

theorem SameKeys.run (h : q.SameKeys q') {calls calls' : List Call}
    (same : List.Forall₂ Call.SameKeys calls calls') :
    q.outcomes calls = q'.outcomes calls' ∧ (q.run calls).SameKeys (q'.run calls') := by
  induction same generalizing q q' with
  | nil => exact ⟨rfl, h⟩
  | cons head tail ih =>
    obtain ⟨result, next⟩ := h.step head
    obtain ⟨results, final⟩ := ih next
    exact ⟨by rw [outcomes, outcomes, result, results], final⟩

/-- Calls that bind the same keys have the same results, and after every one of them the conditions,
the keys, the next generated key and the rendered text or error are the same. -/
theorem results_independent_of_data (s : Settings) {calls calls' : List Call}
    (same : List.Forall₂ Call.SameKeys calls calls') :
    (empty s).outcomes calls = (empty s).outcomes calls' ∧ ∀ n,
      let q := (empty s).run (calls.take n)
      let q' := (empty s).run (calls'.take n)
      q.criteria.rows = q'.criteria.rows ∧ q.criteria.groups = q'.criteria.groups ∧
        q.criteria.params.keys = q'.criteria.params.keys ∧
        q.criteria.fresh.take q.criteria.params = q'.criteria.fresh.take q'.criteria.params ∧
        q.render = q'.render := by
  have start : (empty s).SameKeys (empty s) := ⟨_, ⟨rfl, rfl, rfl, rfl, rfl⟩, rfl⟩
  refine ⟨(start.run same).1, fun n => ?_⟩
  have final := (start.run (List.forall₂_take n same)).2
  have text := final.render_eq
  obtain ⟨c, kept, equal⟩ := final
  have criteria : ((empty s).run (calls'.take n)).criteria = c := by rw [equal]
  refine ⟨?_, ?_, ?_, ?_, text⟩
  · rw [criteria, kept.rows]
  · rw [criteria, kept.groups]
  · rw [criteria, kept.keys]
  · rw [criteria, kept.fresh, Fresh.take_congr kept.keys]

theorem results_independent_of_condition_text :
    let calls (value : Json) (kind : Kind) :=
      [Call.setSources (.single "Robots"),
        .filter .rows (.reset "name = :n:" (some (.ofValues [(.named "n", value)]))),
        .filter .groups (.among false "COUNT(*)" [value] .and), .declareKind (.named "n") kind]
    let plain := calls .null .int
    let hostile := calls (.text ") OR (1 = 1") .str
    List.Forall₂ Call.SameKeys plain hostile ∧
      (empty {}).outcomes plain = (empty {}).outcomes hostile ∧
      ((empty {}).run (plain.take 4)).render = ((empty {}).run (hostile.take 4)).render := by
  intro calls plain hostile
  have same : List.Forall₂ Call.SameKeys plain hostile :=
    .cons (.same _) (.cons (.filter _ (.reset _ rfl))
      (.cons (.filter _ (.among _ _ _ rfl)) (.cons (.declareKind _ _ _) .nil)))
  have both := results_independent_of_data {} same
  exact ⟨same, both.1, (both.2 4).2.2.2.2⟩

end Select
end QueryBuilder
