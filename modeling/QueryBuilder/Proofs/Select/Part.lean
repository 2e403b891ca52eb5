import QueryBuilder.Proofs.Select.Edit
import QueryBuilder.Select.Outline

/-! The parts of a query. A call reads and changes one part alone, so calls on different parts may
come in any order.
-/
namespace QueryBuilder

inductive Part
  | sources
  | joins
  | columns
  | distinct
  | criteria
  | groupBy
  | orderBy
  | page
  | lock
deriving DecidableEq, Repr

/-- The part that a call reads and changes. The two conditions share the criteria. -/
def Call.part : Call → Part
  | .setSources _ | .addSource _ => .sources
  | .addJoin _ => .joins
  | .setColumns _ => .columns
  | .setDistinct _ => .distinct
  | .filter _ _ | .setParams _ _ | .declareKind _ _ => .criteria
  | .setGroupBy _ => .groupBy
  | .setOrderBy _ => .orderBy
  | .setPage _ _ | .setOffset _ => .page
  | .setForUpdate _ => .lock

def Call.on (p : Part) (calls : List Call) : List Call := calls.filter fun c => c.part = p

namespace Select

/-- Two queries have the same part. -/
def Agree (q q' : Select) : Part → Prop
  | .sources => q.sources = q'.sources
  | .joins => q.joins = q'.joins
  | .columns => q.columns = q'.columns
  | .distinct => q.distinct = q'.distinct
  | .criteria => q.criteria = q'.criteria
  | .groupBy => q.groupBy = q'.groupBy
  | .orderBy => q.orderBy = q'.orderBy
  | .page => q.page = q'.page
  | .lock => q.forUpdate = q'.forUpdate

variable {q q' : Select} {p : Part}

theorem agree_refl (q : Select) (p : Part) : q.Agree q p := by
  cases p <;> rfl

theorem Agree.symm (h : q.Agree q' p) : q'.Agree q p := by
  cases p <;> exact Eq.symm h

theorem Agree.trans {q'' : Select} (h : q.Agree q' p) (h' : q'.Agree q'' p) : q.Agree q'' p := by
  cases p <;> exact Eq.trans h h'

theorem eq_of_agree (settings : q.settings = q'.settings) (h : ∀ p, q.Agree q' p) : q = q' := by
  cases q
  cases q'
  obtain rfl := settings
  obtain rfl := h .sources
  obtain rfl := h .joins
  obtain rfl := h .columns
  obtain rfl := h .distinct
  obtain rfl := h .criteria
  obtain rfl := h .groupBy
  obtain rfl := h .orderBy
  obtain rfl := h .page
  obtain rfl := h .lock
  rfl

theorem agree_step_of_ne (q : Select) {c : Call} (other : c.part ≠ p) : (q.step c).Agree q p := by
  cases c with
  | filter f e =>
    rw [step, apply_filter]
    cases q.criteria.addition e with
    | error reason => exact agree_refl q p
    | ok a => cases p <;> first | rfl | exact absurd rfl other
  | setPage limit offset =>
    rw [step, apply]
    cases Page.set limit offset with
    | error reason => exact agree_refl q p
    | ok page => cases p <;> first | rfl | exact absurd rfl other
  | setOffset offset =>
    rw [step, apply]
    cases q.page.setOffset offset with
    | error reason => exact agree_refl q p
    | ok page => cases p <;> first | rfl | exact absurd rfl other
  | _ => cases p <;> first | rfl | exact absurd rfl other

/-- What a call results in and makes of its part depends on that part alone. -/
theorem Agree.step {c : Call} (h : q.Agree q' c.part) :
    (q.apply c).map (fun _ => ()) = (q'.apply c).map (fun _ => ()) ∧
      (q.step c).Agree (q'.step c) c.part := by
  cases c with
  | filter f e =>
    have criteria : q.criteria = q'.criteria := h
    rw [Select.step, Select.step, apply_filter, apply_filter, criteria]
    cases q'.criteria.addition e with
    | error reason => exact ⟨rfl, h⟩
    | ok a => exact ⟨rfl, rfl⟩
  | setPage limit offset =>
    rw [Select.step, Select.step, apply, apply]
    cases Page.set limit offset with
    | error reason => exact ⟨rfl, h⟩
    | ok page => exact ⟨rfl, rfl⟩
  | setOffset offset =>
    have page : q.page = q'.page := h
    rw [Select.step, Select.step, apply, apply, page]
    cases q'.page.setOffset offset with
    | error reason => exact ⟨rfl, h⟩
    | ok page => exact ⟨rfl, rfl⟩
  | addSource e =>
    have sources : q.sources = q'.sources := h
    refine ⟨rfl, ?_⟩
    change (q.addSource e).sources = (q'.addSource e).sources
    rw [addSource, addSource, sources]
  | addJoin j =>
    have joins : q.joins = q'.joins := h
    refine ⟨rfl, ?_⟩
    change q.joins ++ [j] = q'.joins ++ [j]
    rw [joins]
  | setParams t merge =>
    have criteria : q.criteria = q'.criteria := h
    refine ⟨rfl, ?_⟩
    change q.criteria.setParams t merge = q'.criteria.setParams t merge
    rw [criteria]
  | declareKind k kind =>
    have criteria : q.criteria = q'.criteria := h
    refine ⟨rfl, ?_⟩
    change q.criteria.declare k kind = q'.criteria.declare k kind
    rw [criteria]
  | _ => exact ⟨rfl, rfl⟩

/-- The calls of a run on a part, each with its result. -/
def resultsOn (p : Part) (q : Select) (calls : List Call) : List (Call × Except QueryError Unit) :=
  (calls.zip (q.outcomes calls)).filter fun r => r.1.part = p

/-- As far as a part is concerned, a run is the run of the calls on that part. -/
theorem Agree.run (h : q.Agree q' p) (calls : List Call) :
    q.resultsOn p calls = (Call.on p calls).zip (q'.outcomes (Call.on p calls)) ∧
      (q.run calls).Agree (q'.run (Call.on p calls)) p := by
  induction calls generalizing q q' with
  | nil => exact ⟨rfl, h⟩
  | cons c rest ih =>
    by_cases own : c.part = p
    · subst own
      obtain ⟨result, next⟩ := h.step
      obtain ⟨results, final⟩ := ih next
      have here : Call.on c.part (c :: rest) = c :: Call.on c.part rest := by simp [Call.on]
      rw [here]
      refine ⟨?_, final⟩
      rw [outcomes, List.zip_cons_cons, ← results, ← result]
      simp [resultsOn, outcomes]
    · have next : (q.step c).Agree q' p := (q.agree_step_of_ne own).trans h
      obtain ⟨results, final⟩ := ih next
      have elsewhere : Call.on p (c :: rest) = Call.on p rest := by simp [Call.on, own]
      rw [elsewhere]
      refine ⟨?_, final⟩
      rw [← results]
      simp [resultsOn, outcomes, own]

theorem settings_run (q : Select) (calls : List Call) : (q.run calls).settings = q.settings := by
  induction calls generalizing q with
  | nil => rfl
  | cons c rest ih => rw [run_cons, ih, settings_step]

/-- Two runs that have the same calls on each part in the same order give the same results, the same
query, and so the same text with the same parameters. -/
theorem run_independent_of_interleaving (q : Select) {calls calls' : List Call}
    (same : ∀ p, Call.on p calls = Call.on p calls') :
    (∀ p, q.resultsOn p calls = q.resultsOn p calls') ∧ q.run calls = q.run calls' ∧
      (q.run calls).bound = (q.run calls').bound := by
  have parts : ∀ p, q.resultsOn p calls = q.resultsOn p calls' ∧
      (q.run calls).Agree (q.run calls') p := by
    intro p
    obtain ⟨results, final⟩ := (agree_refl q p).run calls
    obtain ⟨results', final'⟩ := (agree_refl q p).run calls'
    rw [same p] at results final
    exact ⟨results.trans results'.symm, final.trans final'.symm⟩
  have settings : (q.run calls).settings = (q.run calls').settings := by
    rw [settings_run, settings_run]
  have equal := eq_of_agree settings fun p => (parts p).2
  exact ⟨fun p => (parts p).1, equal, by rw [equal]⟩

theorem run_independent_of_interleaving_with_failures :
    let calls := [Call.setSources (.single "Robots"), .setPage (-1) none, .setPage 5 none,
      .filter .rows (.among false "id" [] .and), .filter .groups (.among true "n" [.null] .and),
      .filter .rows (.reset "a = 1" none), .addSource ⟨"Parts", some "p"⟩,
      .addJoin ⟨⟨"Users", some "p"⟩, none, .cross⟩]
    let calls' := [Call.filter .rows (.among false "id" [] .and),
      .addJoin ⟨⟨"Users", some "p"⟩, none, .cross⟩, .filter .groups (.among true "n" [.null] .and),
      .setPage (-1) none, .setSources (.single "Robots"), .filter .rows (.reset "a = 1" none),
      .addSource ⟨"Parts", some "p"⟩, .setPage 5 none]
    (∀ p, Call.on p calls = Call.on p calls') ∧
      (empty {}).resultsOn .page calls = (empty {}).resultsOn .page calls' ∧
      ((empty {}).resultsOn .page calls).map Prod.snd =
        [.error (.negativePage .limit (-1)), .ok ()] ∧
      (empty {}).run calls = (empty {}).run calls' ∧
      ((empty {}).run calls).render =
        .ok ("SELECT * FROM Robots, Parts AS p CROSS JOIN Users AS p WHERE a = 1" ++
          " HAVING n NOT IN (:AP0:) LIMIT 5") := by
  intro calls calls'
  have same : ∀ p, Call.on p calls = Call.on p calls' := by
    intro p
    cases p <;> decide
  obtain ⟨results, equal, _⟩ := run_independent_of_interleaving (empty {}) same
  exact ⟨same, results .page, by decide, equal, by decide⟩

end Select
end QueryBuilder
