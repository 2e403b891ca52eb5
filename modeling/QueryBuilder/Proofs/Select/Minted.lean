import QueryBuilder.Proofs.Select.Edit

/-! The keys that a query generates. In a whole run no key is generated twice, and each one is bound
at the end of the table to the value it was generated for.
-/
namespace QueryBuilder
open Param

namespace Select

/-- The keys that a call takes from the source of keys. -/
def mints (q : Select) : Call → List Key
  | .filter _ e => q.criteria.minted e
  | _ => []

/-- The keys that a run of calls takes from the source of keys, in order. -/
def minted (q : Select) : List Call → List Key
  | [] => []
  | c :: rest => q.mints c ++ (q.step c).minted rest

theorem minted_append (q : Select) (first second : List Call) :
    q.minted (first ++ second) = q.minted first ++ (q.run first).minted second := by
  induction first generalizing q with
  | nil => rfl
  | cons c rest ih =>
    rw [List.cons_append, minted, ih, minted, List.append_assoc, run_cons]

/-- An edit that fails takes no key, so the source of keys stays where it is. -/
theorem issues_step (q : Select) (c : Call) :
    q.criteria.fresh.Issues (q.mints c) (q.step c).criteria.fresh := by
  rw [criteria_step]
  cases c with
  | filter f e =>
    simp only [mints, Criteria.step]
    cases added : q.criteria.addition e with
    | error reason =>
      have none : e.values = [] := by
        by_contra given
        rw [q.criteria.addition_of_values given] at added
        contradiction
      simpa [Criteria.minted, none, Fresh.takeMany] using Fresh.Issues.nil q.criteria.fresh
    | ok a =>
      simp only [Criteria.fresh_after, (Criteria.addition_eq_ok added).2]
      exact q.criteria.fresh.issues_takeMany q.criteria.params e.values.length
  | _ => exact .nil q.criteria.fresh

theorem issues_run (q : Select) (calls : List Call) :
    q.criteria.fresh.Issues (q.minted calls) (q.run calls).criteria.fresh := by
  induction calls generalizing q with
  | nil => exact .nil q.criteria.fresh
  | cons c rest ih => exact (q.issues_step c).append (ih (q.step c))

theorem minted_nodup (q : Select) (calls : List Call) : (q.minted calls).Nodup :=
  (q.issues_run calls).distinct

theorem named_of_mem_minted (s : Settings) (calls : List Call) {e : Edit} {k : Key}
    (member : k ∈ ((empty s).run calls).criteria.minted e) :
    ∃ n : Nat, k = .named (s.keyStem ++ toString n) := by
  obtain ⟨n, -, -, named⟩ :=
    (((empty s).run calls).criteria.fresh.issues_takeMany _ e.values.length).numbered k member
  have stem : ((empty s).run calls).criteria.fresh.stem = s.keyStem :=
    (issues_run (empty s) calls).stem
  rw [stem] at named
  exact ⟨n, named⟩

/-- An edit with values always succeeds. Its keys are names over the stem that are new to the whole
run and to the table, and each is bound to its value behind all earlier entries. The text over their
placeholders is added at the right of the condition. -/
theorem generated_keys_fresh (s : Settings) (calls : List Call) (f : Filter) {e : Edit}
    (given : e.values ≠ []) :
    let q := (empty s).run calls
    let ks := q.criteria.minted e
    ks.length = e.values.length ∧ ks.Nodup ∧ (∀ k ∈ ks, k ∉ (empty s).minted calls) ∧
      (∀ k ∈ ks, k ∉ q.criteria.params.keys) ∧
      (∀ k ∈ ks, ∃ n : Nat, k = .named (s.keyStem ++ toString n) ∧
        k.placeholder = ":" ++ (s.keyStem ++ toString n) ++ ":") ∧
      ∃ q', q.apply (.filter f e) = .ok q' ∧
        q'.criteria.params.entries =
          q.criteria.params.entries ++ (ks.zip e.values).map (fun p => (p.1, ⟨p.2, none⟩)) ∧
        q'.criteria.condition f =
          some (e.onto (q.criteria.condition f) (e.textOver (ks.map Key.placeholder))) := by
  intro q ks
  have lifetime : ((empty s).minted calls ++ ks).Nodup := by
    have whole := minted_nodup (empty s) (calls ++ [.filter f e])
    rw [minted_append] at whole
    simpa [minted, mints] using whole
  have unbound : ∀ k ∈ ks, k ∉ q.criteria.params.keys := fun k => Fresh.takeMany_not_mem
  refine ⟨q.criteria.length_minted e, q.criteria.nodup_minted e, ?_, unbound, ?_, ?_⟩
  · intro k member earlier
    exact (List.nodup_append.1 lifetime).2.2 k earlier k member rfl
  · intro k member
    obtain ⟨n, rfl⟩ := named_of_mem_minted s calls member
    exact ⟨n, rfl, rfl⟩
  · have extending : f = .rows → e.isReset = false := by
      intro _
      cases e with
      | reset text bind => exact absurd rfl given
      | _ => rfl
    have new : ∀ k ∈ (Table.ofValues (ks.zip e.values)).keys, k ∉ q.criteria.params.keys := by
      rw [q.criteria.keys_ofValues_minted]
      exact unbound
    refine ⟨_, by rw [apply_filter, q.criteria.addition_of_values given]; rfl, ?_, ?_⟩
    · rw [Criteria.params_after _ _ _ extending, OrderedMap.entries_merge_of_disjoint new,
        q.criteria.entries_ofValues_minted]
    · exact Criteria.condition_after _ _ _ _ _

/-- Keys that a new WHERE has dropped are not taken again; a key of the caller is passed over. -/
theorem generated_keys_fresh_after_reset :
    let calls := [Call.filter .rows (.among false "id" [.null, .null] .and),
      .filter .rows (.reset "owner = :AP2:" (some (.ofValues [(.named "AP2", .bool true)])))]
    let e := Edit.between true "year" (.bool false) .null .or
    let q := (empty {}).run calls
    e.values ≠ [] ∧ (empty {}).minted calls = [.named "AP0", .named "AP1"] ∧
      q.criteria.minted e = [.named "AP3", .named "AP4"] ∧
      ∃ q', q.apply (.filter .rows e) = .ok q' ∧
        q'.criteria.params.entries = [(.named "AP2", ⟨.bool true, none⟩),
          (.named "AP3", ⟨.bool false, none⟩), (.named "AP4", ⟨.null, none⟩)] ∧
        q'.criteria.condition .rows = some (.combine (.leaf "owner = :AP2:") .or
          (.leaf "year NOT BETWEEN :AP3: AND :AP4:")) := by
  intro calls e q
  have given : e.values ≠ [] := by decide
  obtain ⟨-, -, -, -, -, q', done, entries, tree⟩ := generated_keys_fresh {} calls .rows given
  exact ⟨given, by decide, by decide, q', done, entries.trans (by decide), tree.trans (by decide)⟩

end Select
end QueryBuilder
