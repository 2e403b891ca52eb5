import QueryBuilder.Proofs.Param.Table
import QueryBuilder.Proofs.Select.Edit

/-! No binding is lost while its condition is in use. A key that WHERE or HAVING binds stays bound
until that condition is set anew, and its entry is the one written last.
-/
namespace QueryBuilder
open Param

namespace Select

/-- The entries that a call binds. -/
def binds (q : Select) : Call → Table
  | .filter _ e =>
    match q.criteria.addition e with
    | .ok (t, _) => t.params
    | .error _ => .empty
  | .setParams t _ => t
  | _ => .empty

/-- The entry last written at a key, after a call. To declare a type is to write the type alone. -/
def written (q : Select) (k : Key) (before : Option Entry) : Call → Option Entry
  | .declareKind j kind =>
    if j = k then some ⟨before.elim .null Entry.value, some kind⟩ else before
  | c => ((q.binds c).get? k).or before

/-- The entry last written at a key, after a run of calls. -/
def lastWritten (q : Select) (k : Key) (before : Option Entry) : List Call → Option Entry
  | [] => before
  | c :: rest => (q.step c).lastWritten k (q.written k before c) rest

theorem lastWritten_append (q : Select) (k : Key) (before : Option Entry)
    (first second : List Call) : q.lastWritten k before (first ++ second) =
      (q.run first).lastWritten k (q.lastWritten k before first) second := by
  induction first generalizing q before with
  | nil => rfl
  | cons c rest ih => exact ih (q.step c) (q.written k before c)

/-- A key that a filter bound since it was last set anew, with the entry last written. -/
structure Holds (f : Filter) (k : Key) (written : Option Entry) (c : Criteria) : Prop where
  bound : c.params.get? k = written
  some : written.isSome
  kept : f = .groups → k ∈ c.kept

variable {f : Filter} {k : Key} {w : Option Entry}

theorem holds_of_binds {q : Select} {e : Edit} (w : Option Entry)
    (h : k ∈ (q.binds (.filter f e)).keys) :
    Holds f k (q.written k w (.filter f e)) (q.step (.filter f e)).criteria := by
  rw [criteria_step]
  obtain ⟨x, found⟩ := OrderedMap.mem_keys_iff.1 h
  simp only [written, found, Option.some_or, Criteria.step]
  simp only [binds] at h found
  cases added : q.criteria.addition e with
  | error reason => simp [added] at found
  | ok a =>
    simp only [added] at h found
    refine ⟨?_, rfl, ?_⟩
    · rw [Criteria.get?_params_after, found, Option.some_or]
    · rintro rfl
      exact (Criteria.mem_kept_after _ _ _ _ _).2 (.inr h)

/-- An edit that does not set the filter itself anew binds over the key or leaves it. -/
private theorem Holds.after {c : Criteria} (h : Holds f k w c) {g : Filter} {e : Edit}
    (live : g = f → e.isReset = false) (t : Fragment) (fresh : Fresh) :
    Holds f k ((t.params.get? k).or w) (c.after g e t fresh) := by
  refine ⟨?_, by simp [h.some], ?_⟩
  · rw [Criteria.get?_params_after, if_neg, h.bound]
    rintro ⟨rfl, reset, dropped⟩
    cases f with
    | rows => simp [live rfl] at reset
    | groups => exact dropped (h.kept rfl)
  · intro groups
    cases g with
    | rows => exact h.kept groups
    | groups =>
      exact (Criteria.mem_kept_after _ _ _ _ _).2 (.inl ⟨live groups.symm, h.kept groups⟩)

theorem Holds.step {q : Select} (h : Holds f k w q.criteria) {c : Call}
    (merging : ∀ t, c ≠ .setParams t false) (live : ∀ text bind, c ≠ .filter f (.reset text bind)) :
    Holds f k (q.written k w c) (q.step c).criteria := by
  rw [criteria_step]
  cases c with
  | filter g e =>
    simp only [written, binds, Criteria.step]
    cases added : q.criteria.addition e with
    | error reason => simpa using h
    | ok a => exact h.after (Edit.isReset_eq_false live) a.1 a.2
  | setParams t merge =>
    cases merge with
    | false => exact absurd rfl (merging t)
    | true =>
      refine ⟨?_, by simp [written, h.some], h.kept⟩
      simp only [Criteria.step, Criteria.setParams, if_true]
      rw [OrderedMap.get?_merge, h.bound]
      rfl
  | declareKind j kind =>
    refine ⟨?_, ?_, h.kept⟩
    · simp only [Criteria.step, Criteria.declare, written]
      rw [Table.get?_declare, h.bound]
    · simp only [written]
      split
      · rfl
      · exact h.some
  | _ => simpa [written, binds, Criteria.step] using h

theorem Holds.run {q : Select} (h : Holds f k w q.criteria) {calls : List Call}
    (merging : ∀ t, Call.setParams t false ∉ calls)
    (live : ∀ text bind, Call.filter f (.reset text bind) ∉ calls) :
    Holds f k (q.lastWritten k w calls) (q.run calls).criteria := by
  induction calls generalizing q w with
  | nil => exact h
  | cons c rest ih =>
    have next := h.step (c := c) (fun t same => merging t (by simp [same]))
      (fun text bind same => live text bind (by simp [same]))
    exact ih next (fun t member => merging t (by simp [member]))
      (fun text bind member => live text bind (by simp [member]))

theorem texts_step {q : Select} {c : Call}
    (live : ∀ text bind, c ≠ .filter f (.reset text bind)) :
    q.criteria.texts f <+: (q.step c).criteria.texts f := by
  rw [criteria_step]
  cases c with
  | filter g e =>
    simp only [Criteria.step]
    cases q.criteria.addition e with
    | error reason => exact List.prefix_rfl
    | ok a =>
      by_cases same : f = g
      · have extending := Edit.isReset_eq_false live same.symm
        subst same
        simp only [Criteria.texts_after, extending, Bool.false_eq_true, if_false]
        exact List.prefix_append _ _
      · simp only [Criteria.texts, Criteria.condition_after_of_ne _ _ _ _ same]
        exact List.prefix_rfl
  | _ => cases f <;> exact List.prefix_rfl

theorem texts_run {q : Select} {calls : List Call}
    (live : ∀ text bind, Call.filter f (.reset text bind) ∉ calls) :
    q.criteria.texts f <+: (q.run calls).criteria.texts f := by
  induction calls generalizing q with
  | nil => exact List.prefix_rfl
  | cons c rest ih =>
    have first : q.criteria.texts f <+: (q.step c).criteria.texts f :=
      texts_step fun text bind same => live text bind (by simp [same])
    exact first.trans (ih fun text bind member => live text bind (by simp [member]))

theorem keys_binds_of_values {q : Select} {e : Edit} (h : e.values ≠ []) :
    (q.binds (.filter f e)).keys = q.criteria.minted e := by
  simp only [binds, q.criteria.addition_of_values h]
  exact q.criteria.keys_ofValues_minted e

/-- What a filter binds stays bound until the filter is set anew, whatever other calls do short of
replacing the parameters: the entry is the one written last. So the placeholders of a test over
generated keys are bound as long as the test is in its condition. -/
theorem live_bindings_kept (s : Settings) {pre post : List Call} {f : Filter} {e : Edit}
    (merging : ∀ t, Call.setParams t false ∉ post)
    (live : ∀ text bind, Call.filter f (.reset text bind) ∉ post) :
    let start := empty s
    let calls := pre ++ .filter f e :: post
    let before := start.run pre
    let last := start.run calls
    (∀ k ∈ (before.binds (.filter f e)).keys, ∃ x, last.criteria.params.get? k = some x ∧
      start.lastWritten k none calls = some x) ∧
    (e.values ≠ [] →
      e.textOver ((before.criteria.minted e).map Key.placeholder) ∈ last.criteria.texts f ∧
      ∀ k ∈ before.criteria.minted e, ∃ x, last.criteria.params.get? k = some x) := by
  intro start calls before last
  have split : last = (before.step (.filter f e)).run post := run_append start pre _
  have bound : ∀ k ∈ (before.binds (.filter f e)).keys, ∃ x,
      last.criteria.params.get? k = some x ∧ start.lastWritten k none calls = some x := by
    intro k member
    have first := holds_of_binds (start.lastWritten k none pre) member
    have final := first.run merging live
    obtain ⟨x, entry⟩ := Option.isSome_iff_exists.1 final.some
    refine ⟨x, ?_, ?_⟩
    · rw [split, final.bound, entry]
    · rw [lastWritten_append]
      exact entry
  refine ⟨bound, fun given => ⟨?_, fun k member => ?_⟩⟩
  · have added : e.textOver ((before.criteria.minted e).map Key.placeholder) ∈
        (before.step (.filter f e)).criteria.texts f := by
      simp only [criteria_step, Criteria.step, before.criteria.addition_of_values given,
        Criteria.texts_after]
      simp
    rw [split]
    exact (texts_run live).mem added
  · rw [← keys_binds_of_values (f := f) given] at member
    obtain ⟨x, entry, _⟩ := bound k member
    exact ⟨x, entry⟩

/-- A HAVING test outlives a new WHERE, with the type that is declared for its key later. -/
theorem live_bindings_kept_across_reset :
    let pre := [Call.filter .rows (.among false "id" [.bool true] .and)]
    let e := Edit.among true "COUNT(*)" [.null] .and
    let post := [Call.filter .rows (.reset "a = 1" none), .declareKind (.named "AP1") .int]
    (∀ t, Call.setParams t false ∉ post) ∧
      (∀ text bind, Call.filter .groups (.reset text bind) ∉ post) ∧
      Key.named "AP1" ∈ (((empty {}).run pre).binds (.filter .groups e)).keys ∧
      ∃ x, ((empty {}).run (pre ++ .filter .groups e :: post)).criteria.params.get?
          (.named "AP1") = some x ∧
        (empty {}).lastWritten (.named "AP1") none (pre ++ .filter .groups e :: post) = some x :=
  ⟨by simp, by simp, by decide,
    (live_bindings_kept {} (by simp) (by simp)).1 (.named "AP1") (by decide)⟩

end Select
end QueryBuilder
