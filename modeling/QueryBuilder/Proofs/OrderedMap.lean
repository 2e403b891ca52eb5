import Mathlib.Data.List.Induction
import Mathlib.Data.List.Nodup
import QueryBuilder.OrderedMap

/-! What maps bind after pairs are inserted one after the other. The bindings of a merge are those
of the right map, then those of the left one. A map is fixed by its keys and what it binds to them,
so merges are put together in any order, and pairs are inserted at once or in parts.
-/
namespace QueryBuilder.OrderedMap

variable {α β : Type}

@[simp] theorem entries_empty : (empty : OrderedMap α β).entries = [] := rfl

@[simp] theorem keys_empty : (empty : OrderedMap α β).keys = [] := rfl

theorem nodup_keys (m : OrderedMap α β) : m.keys.Nodup := m.nodup

theorem length_keys (m : OrderedMap α β) : m.keys.length = m.size := List.length_map _

variable [DecidableEq α]

@[simp] theorem get?_empty (k : α) : (empty : OrderedMap α β).get? k = none := rfl

theorem find?_eq_none_iff {l : List (α × β)} {k : α} :
    (l.find? fun e => e.1 = k).map Prod.snd = none ↔ k ∉ l.map Prod.fst := by
  rw [Option.map_eq_none_iff, List.find?_eq_none]
  simp only [decide_eq_true_eq, List.mem_map, not_exists, not_and]

theorem get?_eq_none_iff {m : OrderedMap α β} {k : α} : m.get? k = none ↔ k ∉ m.keys :=
  find?_eq_none_iff

theorem contains_iff {m : OrderedMap α β} {k : α} : m.contains k = true ↔ k ∈ m.keys := by
  simp [contains]

theorem mem_keys_iff {m : OrderedMap α β} {k : α} : k ∈ m.keys ↔ ∃ v, m.get? k = some v := by
  rw [← not_iff_not, ← get?_eq_none_iff, ← Option.isSome_iff_exists]
  simp

theorem find?_of_mem {l : List (α × β)} (distinct : (l.map Prod.fst).Nodup) {e : α × β}
    (member : e ∈ l) : (l.find? fun f => f.1 = e.1).map Prod.snd = some e.2 := by
  induction l with
  | nil => contradiction
  | cons f rest ih =>
    obtain ⟨absent, distinct⟩ := List.nodup_cons.1 distinct
    rcases List.mem_cons.1 member with rfl | later
    · rw [List.find?_cons_of_pos (by simp), Option.map_some]
    · have other : f.1 ≠ e.1 := fun same => absent (same ▸ List.mem_map_of_mem later)
      rw [List.find?_cons_of_neg (by simpa using other), ih distinct later]

theorem entries_eq_filterMap (m : OrderedMap α β) :
    m.entries = m.keys.filterMap fun k => (m.get? k).map (k, ·) := by
  have bound : ∀ e ∈ m.entries, (m.get? e.1).map (e.1, ·) = some e := by
    intro e member
    rw [get?, find?_of_mem m.nodup member, Option.map_some]
  rw [keys, List.filterMap_map]
  exact ((List.filterMap_congr bound).trans List.filterMap_some).symm

theorem entries_eq_map {m : OrderedMap α β} {f : α → β}
    (values : ∀ k v, m.get? k = some v → v = f k) : m.entries = m.keys.map fun k => (k, f k) := by
  rw [entries_eq_filterMap, ← List.filterMap_eq_map]
  refine List.filterMap_congr fun k member => ?_
  obtain ⟨v, bound⟩ := mem_keys_iff.1 member
  rw [bound, values k v bound]
  rfl

/-- Maps with the same keys in the same order, and with the same values, are the same. -/
theorem ext_get? {m n : OrderedMap α β} (keys : m.keys = n.keys)
    (values : ∀ k, m.get? k = n.get? k) : m = n := by
  apply OrderedMap.ext
  rw [entries_eq_filterMap, entries_eq_filterMap, keys]
  simp only [values]

theorem entries_insert_of_not_mem {m : OrderedMap α β} {k : α} (v : β) (h : k ∉ m.keys) :
    (m.insert k v).entries = m.entries ++ [(k, v)] := by
  have appended (l : List (α × β)) (absent : k ∉ l.map Prod.fst) : put k v l = l ++ [(k, v)] := by
    induction l with
    | nil => rfl
    | cons e rest ih =>
      simp only [List.map_cons, List.mem_cons, not_or] at absent
      rw [put, if_neg (fun same => absent.1 same.symm), ih absent.2]
      rfl
  exact appended m.entries h

/-- Bind the pairs of a list one after the other. -/
def insertAll (m : OrderedMap α β) (l : List (α × β)) : OrderedMap α β :=
  l.foldl (fun acc e => acc.insert e.1 e.2) m

theorem merge_eq_insertAll (m n : OrderedMap α β) : m.merge n = m.insertAll n.entries := rfl

theorem ofList_eq_insertAll (l : List (α × β)) : ofList l = empty.insertAll l := rfl

theorem insertAll_cons (m : OrderedMap α β) (e : α × β) (l : List (α × β)) :
    m.insertAll (e :: l) = (m.insert e.1 e.2).insertAll l := rfl

/-- Add keys behind others, each once, in their order. -/
def appendNew (ks l : List α) : List α :=
  l.foldl (fun acc k => if k ∈ acc then acc else acc ++ [k]) ks

theorem appendNew_cons (ks : List α) (j : α) (l : List α) :
    appendNew ks (j :: l) = appendNew (if j ∈ ks then ks else ks ++ [j]) l := rfl

@[simp] theorem mem_appendNew {ks l : List α} {k : α} : k ∈ appendNew ks l ↔ k ∈ ks ∨ k ∈ l := by
  induction l generalizing ks with
  | nil => simp [appendNew]
  | cons j rest ih =>
    rw [appendNew_cons, ih, List.mem_cons]
    split
    · next present =>
      constructor
      · rintro (old | new)
        · exact .inl old
        · exact .inr (.inr new)
      · rintro (old | rfl | new)
        · exact .inl old
        · exact .inl present
        · exact .inr new
    · rw [List.mem_append, List.mem_singleton, or_assoc]

theorem appendNew_append (ks l m : List α) :
    appendNew ks (l ++ m) = appendNew (appendNew ks l) m := List.foldl_append

theorem appendNew_singleton (ks : List α) (k : α) :
    appendNew ks [k] = if k ∈ ks then ks else ks ++ [k] := rfl

/-- Keys that are added to none are those keys, each where it comes first. -/
theorem appendNew_nil (l : List α) : appendNew [] l = l.eraseDups := by
  induction l using List.reverseRecOn with
  | nil => rfl
  | append_singleton l k ih =>
    rw [appendNew_append, ih, appendNew_singleton, List.eraseDups_append]
    by_cases old : k ∈ l
    · simp [old, List.removeAll]
    · simp [old, List.removeAll, List.eraseDups_cons]

theorem appendNew_of_nodup {l : List α} (distinct : l.Nodup) (ks : List α) :
    appendNew ks l = ks ++ l.filter fun k => k ∉ ks := by
  induction l using List.reverseRecOn with
  | nil => simp [appendNew]
  | append_singleton l k ih =>
    obtain ⟨distinct, _, apart⟩ := List.nodup_append.1 distinct
    have last : k ∉ l := fun member => apart k member k (List.mem_singleton_self k) rfl
    rw [appendNew_append, ih distinct, appendNew_singleton, List.filter_append]
    by_cases old : k ∈ ks <;> simp [old, last]

theorem appendNew_appendNew (ks l m : List α) :
    appendNew ks (appendNew l m) = appendNew (appendNew ks l) m := by
  induction m using List.reverseRecOn with
  | nil => rfl
  | append_singleton m k ih =>
    rw [appendNew_append, appendNew_append, appendNew_singleton, appendNew_singleton, ← ih]
    by_cases old : k ∈ appendNew l m
    · simp [old]
    · rw [if_neg old, appendNew_append, appendNew_singleton]

theorem nodup_appendNew {ks : List α} (distinct : ks.Nodup) (l : List α) :
    (appendNew ks l).Nodup := by
  induction l using List.reverseRecOn with
  | nil => exact distinct
  | append_singleton l k ih =>
    rw [appendNew_append, appendNew_singleton]
    split
    · exact ih
    · next new =>
      refine List.nodup_append.2 ⟨ih, List.nodup_singleton k, ?_⟩
      intro j old i last same
      rw [List.mem_singleton.1 last] at same
      exact new (same ▸ old)

theorem keys_insertAll (m : OrderedMap α β) (l : List (α × β)) :
    (m.insertAll l).keys = appendNew m.keys (l.map Prod.fst) := by
  induction l generalizing m with
  | nil => rfl
  | cons e rest ih => rw [insertAll_cons, ih, keys_insert, List.map_cons, appendNew_cons]

theorem keys_merge (m n : OrderedMap α β) : (m.merge n).keys = appendNew m.keys n.keys := by
  rw [merge_eq_insertAll, keys_insertAll]
  rfl

/-- The value of the last pair with this key. -/
def last? (l : List (α × β)) (k : α) : Option β := (l.reverse.find? fun e => e.1 = k).map Prod.snd

theorem last?_cons (e : α × β) (l : List (α × β)) (k : α) :
    last? (e :: l) k = (last? l k).or (if e.1 = k then some e.2 else none) := by
  rw [last?, List.reverse_cons, List.find?_append, last?]
  by_cases same : e.1 = k <;> cases l.reverse.find? _ <;> simp [same]

theorem last?_map {γ : Type} (f : β → γ) (l : List (α × β)) (k : α) :
    last? (l.map fun e => (e.1, f e.2)) k = (last? l k).map f := by
  induction l with
  | nil => rfl
  | cons e rest ih =>
    rw [List.map_cons, last?_cons, ih, last?_cons, Option.map_or]
    by_cases same : e.1 = k <;> simp [same]

theorem last?_of_nodup {l : List (α × β)} (distinct : (l.map Prod.fst).Nodup) (k : α) :
    last? l k = (l.find? fun e => e.1 = k).map Prod.snd := by
  induction l with
  | nil => rfl
  | cons e rest ih =>
    obtain ⟨absent, distinct⟩ := List.nodup_cons.1 distinct
    rw [last?_cons, ih distinct]
    by_cases same : e.1 = k
    · rw [← same, find?_eq_none_iff.2 absent]
      simp
    · simp [same]

theorem get?_insertAll (m : OrderedMap α β) (l : List (α × β)) (k : α) :
    (m.insertAll l).get? k = (last? l k).or (m.get? k) := by
  induction l generalizing m with
  | nil => rfl
  | cons e rest ih =>
    rw [insertAll_cons, ih, get?_insert, last?_cons, Option.or_assoc]
    by_cases same : e.1 = k <;> simp [same]

theorem entries_insertAll_of_disjoint {l : List (α × β)} (distinct : (l.map Prod.fst).Nodup)
    {m : OrderedMap α β} (new : ∀ k ∈ l.map Prod.fst, k ∉ m.keys) :
    (m.insertAll l).entries = m.entries ++ l := by
  induction l generalizing m with
  | nil => exact (List.append_nil _).symm
  | cons e rest ih =>
    obtain ⟨absent, distinct⟩ := List.nodup_cons.1 distinct
    have first : e.1 ∉ m.keys := new e.1 (by simp)
    have later : ∀ k ∈ rest.map Prod.fst, k ∉ (m.insert e.1 e.2).keys := by
      intro k member
      rw [keys_insert, if_neg first, List.mem_append, List.mem_singleton, not_or]
      exact ⟨new k (by simp [member]), fun same => absent (same ▸ member)⟩
    rw [insertAll_cons, ih distinct later, entries_insert_of_not_mem _ first]
    simp

@[simp] theorem get?_merge (m n : OrderedMap α β) (k : α) :
    (m.merge n).get? k = (n.get? k).or (m.get? k) := by
  rw [merge_eq_insertAll, get?_insertAll, last?_of_nodup n.nodup]
  rfl

theorem entries_merge_of_disjoint {m n : OrderedMap α β} (new : ∀ k ∈ n.keys, k ∉ m.keys) :
    (m.merge n).entries = m.entries ++ n.entries := by
  rw [merge_eq_insertAll]
  exact entries_insertAll_of_disjoint n.nodup new

@[simp] theorem empty_merge (m : OrderedMap α β) : empty.merge m = m := by
  apply OrderedMap.ext
  rw [entries_merge_of_disjoint (by simp)]
  rfl

@[simp] theorem merge_empty (m : OrderedMap α β) : m.merge empty = m := rfl

theorem merge_self (m : OrderedMap α β) : m.merge m = m := by
  apply ext_get?
  · rw [keys_merge, appendNew_of_nodup m.nodup_keys]
    simp
  · intro k
    rw [get?_merge, Option.or_self]

theorem merge_assoc (m n o : OrderedMap α β) : (m.merge n).merge o = m.merge (n.merge o) := by
  apply ext_get?
  · simp only [keys_merge, appendNew_appendNew]
  · intro k
    simp only [get?_merge, Option.or_assoc]

theorem insertAll_eq_merge (m : OrderedMap α β) (l : List (α × β)) :
    m.insertAll l = m.merge (ofList l) := by
  apply ext_get?
  · rw [keys_insertAll, keys_merge, ofList_eq_insertAll, keys_insertAll, appendNew_appendNew]
    rfl
  · intro k
    rw [get?_insertAll, get?_merge, ofList_eq_insertAll, get?_insertAll]
    simp

/-- Pairs are inserted at once, or in two parts of which the second is merged into the first. -/
theorem ofList_append (l m : List (α × β)) : ofList (l ++ m) = (ofList l).merge (ofList m) := by
  rw [← insertAll_eq_merge, ofList_eq_insertAll, ofList_eq_insertAll, insertAll, insertAll,
    insertAll, List.foldl_append]

theorem entries_ofList {l : List (α × β)} (distinct : (l.map Prod.fst).Nodup) :
    (ofList l).entries = l := by
  rw [ofList_eq_insertAll, entries_insertAll_of_disjoint distinct (by simp)]
  rfl

end QueryBuilder.OrderedMap
