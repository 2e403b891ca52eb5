import QueryBuilder.Param.Table
import QueryBuilder.Proofs.OrderedMap

/-! Tables that are filled with values and types one after the other, and tables that are merged.
-/
namespace QueryBuilder.Param.Table
open OrderedMap

theorem keys_ofValues (l : List (Key × Json)) : (ofValues l).keys = (l.map Prod.fst).eraseDups := by
  rw [ofValues, ofList_eq_insertAll, keys_insertAll, keys_empty, appendNew_nil, List.map_map]
  rfl

theorem get?_ofValues (l : List (Key × Json)) (k : Key) :
    (ofValues l).get? k = (last? l k).map fun v => ⟨v, none⟩ := by
  rw [ofValues, ofList_eq_insertAll, get?_insertAll, get?_empty, Option.or_none]
  exact last?_map (fun v => Entry.mk v none) l k

theorem keys_declare (t : Table) (k : Key) (kind : Kind) :
    (t.declare k kind).keys = appendNew t.keys [k] := by
  unfold declare bind
  rw [keys_insert, appendNew_singleton]

theorem get?_declare (t : Table) (j k : Key) (kind : Kind) :
    (t.declare j kind).get? k =
      if j = k then some ⟨(t.get? k).elim .null Entry.value, some kind⟩ else t.get? k := by
  unfold declare bind
  rw [get?_insert]
  by_cases same : j = k
  · rw [if_pos same, if_pos same, same]
  · rw [if_neg same, if_neg same]

/-- Declare the types of keys one after the other. -/
def declareAll (t : Table) (l : List (Key × Kind)) : Table :=
  l.foldl (fun t e => t.declare e.1 e.2) t

theorem declareAll_cons (t : Table) (e : Key × Kind) (l : List (Key × Kind)) :
    t.declareAll (e :: l) = (t.declare e.1 e.2).declareAll l := rfl

theorem keys_declareAll (t : Table) (l : List (Key × Kind)) :
    (t.declareAll l).keys = appendNew t.keys (l.map Prod.fst) := by
  induction l generalizing t with
  | nil => rfl
  | cons e rest ih =>
    rw [declareAll_cons, ih, keys_declare, ← appendNew_append]
    rfl

/-- The last type that is declared for a key stands, beside the value that was there. -/
theorem get?_declareAll (t : Table) (l : List (Key × Kind)) (k : Key) :
    (t.declareAll l).get? k = ((last? l k).map fun kind =>
      ⟨(t.get? k).elim .null Entry.value, some kind⟩).or (t.get? k) := by
  induction l generalizing t with
  | nil => rfl
  | cons e rest ih =>
    rw [declareAll_cons, ih, get?_declare, last?_cons]
    by_cases same : e.1 = k
    · cases last? rest k <;> simp [same]
    · simp [same]

/-- A merge binds each key as the right table does, or else as the left one. Its keys are those of
the left table, then the new ones of the right table, each side in its order. Merges of several
tables do not depend on how they are grouped, and values may be bound at once or in two tables that
are merged. -/
theorem merge_laws (a b c : Table) (l m : List (Key × Json)) :
    (∀ k, (a.merge b).get? k = (b.get? k).or (a.get? k)) ∧
      (a.merge b).keys = a.keys ++ b.keys.filter (fun k => k ∉ a.keys) ∧
      (a.merge b).keys.Nodup ∧
      (a.merge b).merge c = a.merge (b.merge c) ∧
      a.merge .empty = a ∧ OrderedMap.empty.merge a = a ∧ a.merge a = a ∧
      ofValues (l ++ m) = (ofValues l).merge (ofValues m) := by
  have keys : (a.merge b).keys = a.keys ++ b.keys.filter fun k => k ∉ a.keys := by
    rw [keys_merge, appendNew_of_nodup b.nodup_keys]
  have values : ofValues (l ++ m) = (ofValues l).merge (ofValues m) := by
    unfold ofValues
    rw [List.map_append, ofList_append]
  exact ⟨get?_merge a b, keys, (a.merge b).nodup_keys, merge_assoc a b c, merge_empty a,
    empty_merge a, merge_self a, values⟩

end QueryBuilder.Param.Table
