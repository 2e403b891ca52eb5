/-!
Maps that remember the order in which their keys were first bound. A key that is bound again
keeps its place and takes the new value. Main statements: `keys_insert`, `get?_insert`.
-/
namespace QueryBuilder

/-- Bindings in order of first insertion; no key occurs twice. -/
@[ext]
structure OrderedMap (α β : Type) where
  entries : List (α × β)
  nodup : (entries.map Prod.fst).Nodup

namespace OrderedMap

variable {α β γ : Type}

instance [DecidableEq α] [DecidableEq β] : DecidableEq (OrderedMap α β) := fun m n =>
  decidable_of_iff (m.entries = n.entries) OrderedMap.ext_iff.symm

def empty : OrderedMap α β := ⟨[], by simp⟩

instance : Inhabited (OrderedMap α β) := ⟨empty⟩

def keys (m : OrderedMap α β) : List α := m.entries.map Prod.fst

def size (m : OrderedMap α β) : Nat := m.entries.length

def isEmpty (m : OrderedMap α β) : Bool := m.entries.isEmpty

/-- The same keys in the same order, each with a new value. -/
def mapValues (f : β → γ) (m : OrderedMap α β) : OrderedMap α γ :=
  ⟨m.entries.map fun e => (e.1, f e.2), by
    simpa [List.map_map, Function.comp_def] using m.nodup⟩

/-- The keys to whose value `f` gives something, in their order. -/
def filterMapValues (f : β → Option γ) (m : OrderedMap α β) : OrderedMap α γ :=
  ⟨m.entries.filterMap fun e => (f e.2).map (e.1, ·), by
    have kept : ((m.entries.filterMap fun e => (f e.2).map (e.1, ·)).map Prod.fst).Sublist
        (m.entries.map Prod.fst) := by
      induction m.entries with
      | nil => exact .slnil
      | cons e rest ih =>
        cases h : f e.2 with
        | none => simpa [List.filterMap_cons, h] using ih.cons e.1
        | some v => simpa [List.filterMap_cons, h] using ih.cons_cons e.1
    exact kept.nodup m.nodup⟩

variable [DecidableEq α]

def get? (m : OrderedMap α β) (k : α) : Option β :=
  (m.entries.find? fun e => e.1 = k).map Prod.snd

def contains (m : OrderedMap α β) (k : α) : Bool := m.keys.contains k

/-- Replace the value of the first pair with this key, or add the pair at the end. -/
def put (k : α) (v : β) : List (α × β) → List (α × β)
  | [] => [(k, v)]
  | e :: rest => if e.1 = k then (k, v) :: rest else e :: put k v rest

theorem map_fst_put (k : α) (v : β) (l : List (α × β)) :
    (put k v l).map Prod.fst =
      if k ∈ l.map Prod.fst then l.map Prod.fst else l.map Prod.fst ++ [k] := by
  induction l with
  | nil => simp [put]
  | cons e rest ih =>
    unfold put
    by_cases h : e.1 = k
    · simp [h]
    · have h' : k ≠ e.1 := fun c => h c.symm
      simp only [if_neg h, List.map_cons, ih, List.mem_cons, h', false_or]
      split <;> simp

/-- Bind a key: in its place if it is bound already, at the end otherwise. -/
def insert (m : OrderedMap α β) (k : α) (v : β) : OrderedMap α β :=
  ⟨put k v m.entries, by
    rw [map_fst_put]
    split
    · exact m.nodup
    · next h =>
      refine List.nodup_append.2 ⟨m.nodup, by simp, fun a ha b hb c => h ?_⟩
      rw [← List.mem_singleton.1 hb, ← c]
      exact ha⟩

/-- Bind every key of `n`, in the order of `n`. -/
def merge (m n : OrderedMap α β) : OrderedMap α β :=
  n.entries.foldl (fun acc e => acc.insert e.1 e.2) m

def ofList (l : List (α × β)) : OrderedMap α β :=
  l.foldl (fun acc e => acc.insert e.1 e.2) empty

theorem keys_insert (m : OrderedMap α β) (k : α) (v : β) :
    (m.insert k v).keys = if k ∈ m.keys then m.keys else m.keys ++ [k] :=
  map_fst_put k v m.entries

theorem find?_put (k j : α) (v : β) (l : List (α × β)) :
    ((put k v l).find? fun e => e.1 = j).map Prod.snd =
      if k = j then some v else (l.find? fun e => e.1 = j).map Prod.snd := by
  induction l with
  | nil => by_cases h : k = j <;> simp [put, h]
  | cons e rest ih =>
    unfold put
    by_cases h : e.1 = k
    · by_cases hj : k = j <;> simp [h, hj]
    · by_cases hj : e.1 = j
      · have hk : k ≠ j := fun c => h (hj.trans c.symm)
        rw [if_neg h, List.find?_cons_of_pos (by simpa using hj),
          List.find?_cons_of_pos (by simpa using hj), if_neg hk]
      · rw [if_neg h, List.find?_cons_of_neg (by simpa using hj),
          List.find?_cons_of_neg (by simpa using hj), ih]

theorem get?_insert (m : OrderedMap α β) (k j : α) (v : β) :
    (m.insert k v).get? j = if k = j then some v else m.get? j :=
  find?_put k j v m.entries

end OrderedMap
end QueryBuilder
