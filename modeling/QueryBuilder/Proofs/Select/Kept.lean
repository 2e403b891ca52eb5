import QueryBuilder.Proofs.OrderedMap
import QueryBuilder.Select.Criteria

/-! The parameters after WHERE is set anew: those that come with it, and behind them those that
HAVING has bound and that it does not bind itself.
-/
namespace QueryBuilder.Criteria
open Param

theorem addKeys_eq_appendNew (kept keys : List Key) :
    addKeys kept keys = OrderedMap.appendNew kept keys := rfl

/-- Take the entry of a key over from an old table, unless the new one binds the key. -/
def carry (old t : Table) (k : Key) : Table :=
  if t.contains k then t
  else match old.get? k with
    | some e => t.insert k e
    | none => t

theorem withKept_eq_carry (c : Criteria) (t : Table) :
    c.withKept t = c.kept.foldl (carry c.params) t := rfl

theorem withKept_of_kept_eq_nil {c : Criteria} (none : c.kept = []) (t : Table) :
    c.withKept t = t := by
  rw [withKept, none, List.foldl_nil]

theorem get?_carry (old t : Table) (j k : Key) :
    (carry old t j).get? k = (t.get? k).or (if k = j then old.get? k else none) := by
  unfold carry
  by_cases bound : t.contains j = true
  · rw [if_pos bound]
    split
    · next same =>
      obtain ⟨e, held⟩ := OrderedMap.mem_keys_iff.1 (OrderedMap.contains_iff.1 bound)
      rw [same, held, Option.some_or]
    · rw [Option.or_none]
  · rw [if_neg bound]
    have free : t.get? j = none :=
      OrderedMap.get?_eq_none_iff.2 fun member => bound (OrderedMap.contains_iff.2 member)
    by_cases same : k = j
    · subst same
      cases old.get? k <;> simp [free, OrderedMap.get?_insert]
    · cases old.get? j <;> simp [same, Ne.symm same, OrderedMap.get?_insert]

theorem keys_carry (old t : Table) (k : Key) :
    (carry old t k).keys = if k ∈ old.keys then OrderedMap.appendNew t.keys [k] else t.keys := by
  unfold carry
  by_cases bound : k ∈ t.keys
  · simp [OrderedMap.contains_iff, bound, OrderedMap.appendNew]
  · cases found : old.get? k with
    | none =>
      have absent := OrderedMap.get?_eq_none_iff.1 found
      simp [OrderedMap.contains_iff, bound, absent]
    | some e =>
      have present := OrderedMap.mem_keys_iff.2 ⟨e, found⟩
      simp [OrderedMap.contains_iff, bound, present, OrderedMap.keys_insert,
        OrderedMap.appendNew]

/-- The parameters that WHERE is set anew with come first, then those that HAVING keeps. -/
theorem get?_withKept (c : Criteria) (t : Table) (k : Key) :
    (c.withKept t).get? k = (t.get? k).or (if k ∈ c.kept then c.params.get? k else none) := by
  rw [withKept_eq_carry]
  generalize c.kept = kept
  induction kept generalizing t with
  | nil => simp
  | cons j rest ih =>
    rw [List.foldl_cons, ih, get?_carry, Option.or_assoc]
    by_cases same : k = j
    · cases c.params.get? k <;> simp [same]
    · simp [same]

theorem entries_carry (old t : Table) (k : Key) :
    (carry old t k).entries =
      t.entries ++ if k ∈ t.keys then [] else ((old.get? k).map (k, ·)).toList := by
  unfold carry
  by_cases bound : k ∈ t.keys
  · simp [OrderedMap.contains_iff, bound]
  · cases old.get? k with
    | none => simp [OrderedMap.contains_iff, bound]
    | some e => simp [OrderedMap.contains_iff, bound, OrderedMap.entries_insert_of_not_mem]

/-- Behind the parameters that come with WHERE stand those that HAVING keeps, in its order. -/
theorem entries_withKept {c : Criteria} (distinct : c.kept.Nodup) (t : Table) :
    (c.withKept t).entries = t.entries ++
      (c.kept.filter fun k => k ∉ t.keys).filterMap fun k => (c.params.get? k).map (k, ·) := by
  rw [withKept_eq_carry]
  generalize c.kept = kept at distinct
  induction kept generalizing t with
  | nil => simp
  | cons k rest ih =>
    obtain ⟨absent, distinct⟩ := List.nodup_cons.1 distinct
    have same : rest.filter (fun j => j ∉ (carry c.params t k).keys) =
        rest.filter fun j => j ∉ t.keys := by
      refine List.filter_congr fun j member => decide_eq_decide.2 ?_
      have other : j ≠ k := fun same => absent (same ▸ member)
      rw [keys_carry]
      split <;> simp [other]
    rw [List.foldl_cons, ih _ distinct, entries_carry, List.append_assoc, same]
    by_cases bound : k ∈ t.keys
    · simp [bound]
    · cases found : c.params.get? k <;> simp [bound, found]

end QueryBuilder.Criteria
