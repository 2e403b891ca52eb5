import QueryBuilder.Proofs.Select.Edit

/-! HAVING is edited as WHERE is. The same edits give both the same results, the same condition and
the same parameters, as long as neither is set anew over parameters that it found.
-/
namespace QueryBuilder
open Param

namespace Criteria

/-- The HAVING of the second criteria is the WHERE of the first, with the same parameters. -/
structure Mirrors (c d : Criteria) : Prop where
  condition : c.rows = d.groups
  params : c.params = d.params
  fresh : c.fresh = d.fresh

variable {c d : Criteria}

theorem Mirrors.addition_eq (h : c.Mirrors d) (e : Edit) : c.addition e = d.addition e := by
  cases e <;> simp only [addition, h.params, h.fresh]

/-- To set WHERE anew is to drop the parameters, to set HAVING anew is to keep them, so both are the
same only where there are none. -/
theorem Mirrors.after (h : c.Mirrors d) {e : Edit}
    (start : e.isReset = true → c.kept = [] ∧ d.params = .empty) (t : Fragment) (fresh : Fresh) :
    (c.after .rows e t fresh).Mirrors (d.after .groups e t fresh) := by
  refine ⟨by simp only [Criteria.after, h.condition], ?_, rfl⟩
  simp only [Criteria.after]
  split
  · next reset =>
    obtain ⟨kept, none⟩ := start reset
    rw [withKept_of_kept_eq_nil kept, none, OrderedMap.empty_merge]
  · rw [h.params]

end Criteria

namespace Select

theorem mirrors_step {q q' : Select} (h : q.criteria.Mirrors q'.criteria) {e : Edit}
    (start : e.isReset = true → q.criteria.kept = [] ∧ q'.criteria.params = .empty) :
    (q.apply (.filter .rows e)).map (fun _ => ()) =
        (q'.apply (.filter .groups e)).map (fun _ => ()) ∧
      (q.step (.filter .rows e)).criteria.Mirrors (q'.step (.filter .groups e)).criteria := by
  rw [criteria_step, criteria_step, apply_filter, apply_filter]
  simp only [Criteria.step, h.addition_eq e]
  cases q'.criteria.addition e with
  | error reason => exact ⟨rfl, h⟩
  | ok a => exact ⟨rfl, h.after start a.1 a.2⟩

theorem mirrors_run {q q' : Select} (h : q.criteria.Mirrors q'.criteria) {edits : List Edit}
    (extending : ∀ e ∈ edits, e.isReset = false) :
    q.outcomes (edits.map (.filter .rows)) = q'.outcomes (edits.map (.filter .groups)) ∧
      (q.run (edits.map (.filter .rows))).criteria.Mirrors
        (q'.run (edits.map (.filter .groups))).criteria := by
  induction edits generalizing q q' with
  | nil => exact ⟨rfl, h⟩
  | cons e rest ih =>
    have first : e.isReset = false := extending e (List.mem_cons_self ..)
    obtain ⟨result, next⟩ := mirrors_step h fun reset => absurd reset (Bool.eq_false_iff.1 first)
    obtain ⟨results, final⟩ := ih next fun x member => extending x (List.mem_cons_of_mem e member)
    exact ⟨by rw [List.map_cons, List.map_cons, outcomes, outcomes, result, results], final⟩

/-- Edits of which only the first may set the condition anew do to HAVING what they do to WHERE: on
two empty queries they have the same results, and leave the same condition, the same parameters and
the same next key. -/
theorem groups_mirror_rows (s : Settings) {edits : List Edit}
    (extending : ∀ e ∈ edits.tail, e.isReset = false) :
    let rows := edits.map (Call.filter .rows)
    let groups := edits.map (Call.filter .groups)
    let c := ((empty s).run rows).criteria
    let d := ((empty s).run groups).criteria
    (empty s).outcomes rows = (empty s).outcomes groups ∧ c.rows = d.groups ∧
      c.params = d.params ∧ c.fresh = d.fresh ∧ c.fresh.take c.params = d.fresh.take d.params := by
  intro rows groups c d
  have start : (empty s).criteria.Mirrors (empty s).criteria := ⟨rfl, rfl, rfl⟩
  have mirrored : (empty s).outcomes rows = (empty s).outcomes groups ∧ c.Mirrors d := by
    cases edits with
    | nil => exact ⟨rfl, start⟩
    | cons e rest =>
      rw [List.tail_cons] at extending
      obtain ⟨result, next⟩ := mirrors_step (e := e) start fun _ => ⟨rfl, rfl⟩
      obtain ⟨results, final⟩ := mirrors_run next extending
      have whole : (empty s).outcomes rows = (empty s).outcomes groups := by
        change _ :: _ = _ :: _
        rw [result, results]
      exact ⟨whole, final⟩
  obtain ⟨results, final⟩ := mirrored
  exact ⟨results, final.condition, final.params, final.fresh, by rw [final.fresh, final.params]⟩

theorem groups_mirror_rows_with_failures :
    let bind := Table.ofValues [(.named "AP0", .null), (.positional 1, .bool true)]
    let edits := [Edit.reset "a = :AP0:" (some bind), .among true "b" [] .or,
      .between true "c" .null (.bool false) .or, .extend .and "d" none]
    let rows := edits.map (Call.filter .rows)
    let groups := edits.map (Call.filter .groups)
    let c := ((empty {}).run rows).criteria
    let d := ((empty {}).run groups).criteria
    (∀ e ∈ edits.tail, e.isReset = false) ∧
      (empty {}).outcomes groups = [.ok (), .error (.emptyValues "b"), .ok (), .ok ()] ∧
      d.groups.map Condition.render =
        some "((a = :AP0:) OR (c NOT BETWEEN :AP1: AND :AP2:)) AND (d)" ∧
      (empty {}).outcomes rows = (empty {}).outcomes groups ∧ c.rows = d.groups ∧
      c.params = d.params ∧ c.fresh = d.fresh := by
  intro bind edits rows groups c d
  have extending : ∀ e ∈ edits.tail, e.isReset = false := by decide
  obtain ⟨results, condition, params, fresh, _⟩ := groups_mirror_rows {} extending
  exact ⟨extending, by decide, by decide, results, condition, params, fresh⟩

end Select
end QueryBuilder
