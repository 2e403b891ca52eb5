import QueryBuilder.Proofs.Select.Minted

/-! Calls that fail. A query that is changed in place checks a call before it changes anything, so a
refused call leaves no trace, and a run goes as it would without it.
-/
namespace QueryBuilder
open Param

/-- A call is refused for what it says, whatever the query is. A limit is looked at before an
offset. -/
inductive Call.Refused : Call → QueryError → Prop
  | values (f : Filter) (negated : Bool) (expr : String) (op : Connective) :
      Refused (.filter f (.among negated expr [] op)) (.emptyValues expr)
  | limit {limit : Int} (offset : Option Int) (negative : limit < 0) :
      Refused (.setPage limit offset) (.negativePage .limit limit)
  | offset {limit offset : Int} (natural : 0 ≤ limit) (negative : offset < 0) :
      Refused (.setPage limit (some offset)) (.negativePage .offset offset)
  | offsetAlone {offset : Int} (negative : offset < 0) :
      Refused (.setOffset offset) (.negativePage .offset offset)

namespace Page

theorem natural_of_neg {n : Int} (part : PagePart) (h : n < 0) :
    natural part n = .error (.negativePage part n) := if_pos h

theorem natural_of_nonneg {n : Int} (part : PagePart) (h : 0 ≤ n) :
    natural part n = .ok n.toNat := if_neg (Int.not_lt.2 h)

end Page

namespace Select

theorem apply_of_refused (q : Select) {c : Call} {e : QueryError} (refused : c.Refused e) :
    q.apply c = .error e := by
  cases refused with
  | values f negated expr op => rfl
  | limit offset negative =>
    rw [apply, Page.set, Page.natural_of_neg _ negative]
    rfl
  | offset natural negative =>
    rw [apply, Page.set, Page.natural_of_nonneg _ natural]
    simp only [Page.natural_of_neg _ negative]
    rfl
  | offsetAlone negative =>
    rw [apply, Page.setOffset, Page.natural_of_neg _ negative]
    rfl

theorem apply_of_not_refused (q : Select) {c : Call} (accepted : ∀ e, ¬ c.Refused e) :
    ∃ q', q.apply c = .ok q' := by
  cases c with
  | filter f e =>
    rcases eq_or_ne e.values [] with empty | given
    · cases e with
      | among negated expr values op =>
        obtain rfl : values = [] := empty
        exact absurd (.values f negated expr op) (accepted _)
      | _ => exact ⟨_, rfl⟩
    · rw [apply_filter, q.criteria.addition_of_values given]
      exact ⟨_, rfl⟩
  | setPage limit offset =>
    have natural : 0 ≤ limit := Int.not_lt.1 fun negative => accepted _ (.limit offset negative)
    cases offset with
    | none =>
      rw [apply, Page.set, Page.natural_of_nonneg _ natural]
      exact ⟨_, rfl⟩
    | some offset =>
      have natural' : 0 ≤ offset :=
        Int.not_lt.1 fun negative => accepted _ (.offset natural negative)
      rw [apply, Page.set, Page.natural_of_nonneg _ natural]
      simp only [Page.natural_of_nonneg _ natural']
      exact ⟨_, rfl⟩
  | setOffset offset =>
    have natural : 0 ≤ offset := Int.not_lt.1 fun negative => accepted _ (.offsetAlone negative)
    rw [apply, Page.setOffset, Page.natural_of_nonneg _ natural]
    exact ⟨_, rfl⟩
  | _ => exact ⟨_, rfl⟩

theorem apply_eq_error_iff {q : Select} {c : Call} {e : QueryError} :
    q.apply c = .error e ↔ c.Refused e := by
  refine ⟨fun failed => ?_, q.apply_of_refused⟩
  by_contra other
  have accepted : ∀ e', ¬ c.Refused e' := by
    intro e' refused
    have same : e = e' := Except.error.inj (failed.symm.trans (q.apply_of_refused refused))
    exact other (same ▸ refused)
  obtain ⟨q', done⟩ := q.apply_of_not_refused accepted
  rw [done] at failed
  contradiction

/-- A query that is changed in place: what is done before a failure stays done. -/
abbrev Action := EStateM QueryError Select

namespace Action

/-- Take keys that the parameters do not bind, one after the other. -/
def mint : Nat → Action (List Key)
  | 0 => return []
  | count + 1 => do
    let c := (← get).criteria
    let (k, fresh) := c.fresh.take c.params
    modify fun q => { q with criteria := { c with fresh := fresh } }
    return k :: (← mint count)

/-- A call in place. What can be refused is done step by step, each check where it is made. -/
def perform : Call → Action Unit
  | .filter f (.among negated expr values op) => do
    if values.isEmpty then throw (.emptyValues expr)
    let ks ← mint values.length
    let text := expr ++ " " ++ Fragment.negation negated ++ "IN (" ++
      ", ".intercalate (ks.map Key.placeholder) ++ ")"
    modify fun q => { q with criteria := q.criteria.extend f op text }
    modify fun q => { q with criteria := q.criteria.bind f (.ofValues (ks.zip values)) }
  | .setPage limit offset => do
    let limit ← MonadExcept.ofExcept (Page.natural .limit limit)
    let offset ← offset.mapM fun o => MonadExcept.ofExcept (Page.natural .offset o)
    modify fun q => { q with page := { q.page with limit := some limit } }
    modify fun q => { q with page := { q.page with offset := offset } }
  | .setOffset offset => do
    let offset ← MonadExcept.ofExcept (Page.natural .offset offset)
    modify fun q => { q with page := { q.page with offset := some offset } }
  | c => modify fun q => q.step c

theorem run_mint (q : Select) (count : Nat) :
    (mint count).run q =
      .ok (q.criteria.fresh.takeMany q.criteria.params count).1
        { q with criteria := { q.criteria with
          fresh := (q.criteria.fresh.takeMany q.criteria.params count).2 } } := by
  induction count generalizing q with
  | zero => rfl
  | succ count ih =>
    let c := q.criteria
    let taken : Select := { q with criteria := { c with fresh := (c.fresh.take c.params).2 } }
    have rest := ih taken
    simp only [mint]
    change EStateM.bind (mint count) (fun ks => pure ((c.fresh.take c.params).1 :: ks)) taken = _
    rw [EStateM.run] at rest
    rw [EStateM.bind, rest, Fresh.takeMany_succ]
    rfl

/-- What is refused is refused before anything is changed. -/
theorem run_perform (q : Select) (c : Call) :
    (perform c).run q =
      match q.apply c with
      | .ok q' => .ok () q'
      | .error e => .error e q := by
  cases c with
  | filter f e =>
    cases e with
    | among negated expr values op =>
      by_cases empty : values = []
      · rw [empty]
        rfl
      · have given : values.isEmpty = false := by simpa using empty
        have keys := run_mint q values.length
        simp only [perform, apply, Criteria.edit, Fragment.among, given, Bool.false_eq_true,
          if_false]
        rw [EStateM.run] at keys
        change EStateM.bind (mint values.length) _ q = _
        rw [EStateM.bind, keys]
        cases f <;> rfl
    | _ => rfl
  | setPage limit offset =>
    simp only [perform, apply, Page.set]
    cases Page.natural .limit limit with
    | error e => rfl
    | ok l =>
      cases offset with
      | none => rfl
      | some offset =>
        simp only [Option.mapM_some]
        cases Page.natural .offset offset <;> rfl
  | setOffset offset =>
    simp only [perform, apply, Page.setOffset]
    cases Page.natural .offset offset <;> rfl
  | _ => rfl

theorem run_perform_of_apply {q q' : Select} {c : Call} (done : q.apply c = .ok q') :
    (perform c).run q = .ok () q' := by
  rw [run_perform, done]

theorem run_perform_of_refused {q : Select} {c : Call} {e : QueryError} (refused : c.Refused e) :
    (perform c).run q = .error e q := by
  rw [run_perform, q.apply_of_refused refused]

theorem run_perform_eq_error_iff {q q' : Select} {c : Call} {e : QueryError} :
    (perform c).run q = .error e q' ↔ c.Refused e ∧ q' = q := by
  constructor
  · intro failed
    rw [run_perform] at failed
    cases applied : q.apply c with
    | ok next =>
      rw [applied] at failed
      contradiction
    | error reason =>
      rw [applied] at failed
      obtain ⟨rfl, rfl⟩ := EStateM.Result.error.inj failed
      exact ⟨apply_eq_error_iff.1 applied, rfl⟩
  · rintro ⟨refused, rfl⟩
    exact run_perform_of_refused refused

def succeeded : EStateM.Result QueryError Select Unit → Bool
  | .ok _ _ => true
  | .error _ _ => false

end Action

open QueryBuilder.Select.Action

/-- What each call of a run in place results in, with the query after it. -/
def trail (q : Select) : List Call → List (EStateM.Result QueryError Select Unit)
  | [] => []
  | c :: rest =>
    match (perform c).run q with
    | .ok _ q' => .ok () q' :: q'.trail rest
    | .error e q' => .error e q' :: q'.trail rest

/-- The calls of a run in place that do not fail. -/
def accepted (q : Select) : List Call → List Call
  | [] => []
  | c :: rest =>
    match (perform c).run q with
    | .ok _ q' => c :: q'.accepted rest
    | .error _ q' => q'.accepted rest

section
variable {q q' : Select} {c : Call} {e : QueryError} (rest : List Call)

theorem trail_cons_of_apply (done : q.apply c = .ok q') :
    q.trail (c :: rest) = .ok () q' :: q'.trail rest := by
  rw [trail, run_perform_of_apply done]

theorem trail_cons_of_refused (refused : c.Refused e) :
    q.trail (c :: rest) = .error e q :: q.trail rest := by
  rw [trail, run_perform_of_refused refused]

theorem accepted_cons_of_apply (done : q.apply c = .ok q') :
    q.accepted (c :: rest) = c :: q'.accepted rest := by
  rw [accepted, run_perform_of_apply done]

theorem accepted_cons_of_refused (refused : c.Refused e) :
    q.accepted (c :: rest) = q.accepted rest := by
  rw [accepted, run_perform_of_refused refused]

end

theorem mints_of_refused (q : Select) {c : Call} {e : QueryError} (refused : c.Refused e) :
    q.mints c = [] := by
  cases refused <;> rfl

theorem trail_accepted (q : Select) (calls : List Call) :
    q.trail (q.accepted calls) = (q.trail calls).filter succeeded ∧
      q.minted (q.accepted calls) = q.minted calls ∧ q.run (q.accepted calls) = q.run calls := by
  induction calls generalizing q with
  | nil => exact ⟨rfl, rfl, rfl⟩
  | cons c rest ih =>
    cases applied : q.apply c with
    | ok q' =>
      have stepped : q.step c = q' := by rw [step, applied]
      obtain ⟨results, keys, final⟩ := ih q'
      rw [accepted_cons_of_apply rest applied, trail_cons_of_apply _ applied,
        trail_cons_of_apply _ applied, minted, minted, run_cons, run_cons, stepped]
      exact ⟨by rw [results]; rfl, by rw [keys], final⟩
    | error e =>
      have stepped : q.step c = q := by rw [step, applied]
      have refused := apply_eq_error_iff.1 applied
      obtain ⟨results, keys, final⟩ := ih q
      rw [accepted_cons_of_refused rest refused, trail_cons_of_refused _ refused, minted,
        mints_of_refused q refused, run_cons, stepped]
      exact ⟨results, keys, final⟩

/-- In place, a call fails just when it is refused, and then the query is as it was; any other call
has the effect it has as a whole. So a run without its failing calls has the results of the others,
each with the query after it, takes the same keys, and ends in the same query. -/
theorem failing_calls_leave_no_trace :
    (∀ (q q' : Select) (c : Call) (e : QueryError),
      (perform c).run q = .error e q' ↔ c.Refused e ∧ q' = q) ∧
    (∀ (q q' : Select) (c : Call), (perform c).run q = .ok () q' ↔ q.apply c = .ok q') ∧
    ∀ (q : Select) (calls : List Call),
      q.trail (q.accepted calls) = (q.trail calls).filter succeeded ∧
        q.minted (q.accepted calls) = q.minted calls ∧
        q.run (q.accepted calls) = q.run calls := by
  refine ⟨fun q q' c e => run_perform_eq_error_iff, fun q q' c => ?_, trail_accepted⟩
  refine ⟨fun done => ?_, run_perform_of_apply⟩
  rw [run_perform] at done
  cases applied : q.apply c with
  | ok next =>
    rw [applied] at done
    obtain ⟨_, rfl⟩ := EStateM.Result.ok.inj done
    rfl
  | error e =>
    rw [applied] at done
    contradiction

/-- A refused offset leaves the limit, and a test without values takes no key. -/
example :
    let calls := [Call.setPage 10 (some (-1)), .filter .groups (.among true "type" [] .or),
      .filter .rows (.among false "id" [.null] .and)]
    (empty {}).accepted calls = [.filter .rows (.among false "id" [.null] .and)] ∧
      ((empty {}).run calls).page = .empty ∧
      ((empty {}).run calls).criteria.params.keys = [.named "AP0"] := by decide

end Select
end QueryBuilder
