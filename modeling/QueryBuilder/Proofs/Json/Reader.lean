import QueryBuilder.Proofs.Json.Record
import QueryBuilder.Proofs.Json.Written

/-! Readers of written values. Any plain value can be read as it stands, with the members of objects
in rising order; a reader of a type gives back what was written for the type.
-/
namespace QueryBuilder.Json

theorem keyBefore_irrefl (k : List Char) : keyBefore k k = false := by
  induction k with
  | nil => rfl
  | cons c k ih => rw [keyBefore, if_pos rfl, ih]

theorem keyBefore_asymm {k l : List Char} (h : keyBefore k l = true) : keyBefore l k = false := by
  induction k generalizing l with
  | nil =>
    cases l with
    | nil => cases h
    | cons d l => rfl
  | cons c k ih =>
    cases l with
    | nil => cases h
    | cons d l =>
      rw [keyBefore] at h ⊢
      by_cases same : c = d
      · rw [if_pos same] at h
        rw [if_pos same.symm, ih h]
      · rw [if_neg same, decide_eq_true_eq] at h
        rw [if_neg (Ne.symm same), decide_eq_false_iff_not]
        omega

theorem putMember_of_before {k : String} {members : List (String × Json)}
    (h : ∀ m ∈ members, keyBefore m.1.toList k.toList = true) (v : Json) :
    putMember k v members = members ++ [(k, v)] := by
  induction members with
  | nil => rfl
  | cons m rest ih =>
    have first := h m List.mem_cons_self
    have differ : m.1 ≠ k := by
      rintro same
      rw [same, keyBefore_irrefl] at first
      cases first
    have others := ih fun n mem => h n (List.mem_cons_of_mem m mem)
    rw [putMember, if_neg differ, keyBefore_asymm first, others]
    rfl

def Rising (members : List (String × Json)) : Prop :=
  members.Pairwise fun m n => keyBefore m.1.toList n.1.toList = true

theorem foldl_putMember {before members : List (String × Json)} (h : Rising (before ++ members)) :
    members.foldl (fun acc m => putMember m.1 m.2 acc) before = before ++ members := by
  induction members generalizing before with
  | nil => exact (List.append_nil before).symm
  | cons m rest ih =>
    have behind : ∀ n ∈ before, keyBefore n.1.toList m.1.toList = true := fun n mem =>
      (List.pairwise_append.mp h).2.2 n mem m List.mem_cons_self
    rw [List.append_cons] at h
    rw [List.foldl_cons, putMember_of_before behind, ih h, ← List.append_cons]

theorem ofMembers_of_rising {members : List (String × Json)} (h : Rising members) :
    ofMembers members = .object members := by
  exact congrArg object (foldl_putMember (show Rising ([] ++ members) from h))

mutual
/-- A value as it is read: the members of objects in rising order of their keys. -/
def normal : Json → Json
  | .array items => .array (normalItems items)
  | .object members => .ofMembers (normalMembers members)
  | j => j

def normalItems : List Json → List Json
  | [] => []
  | j :: rest => j.normal :: normalItems rest

def normalMembers : List (String × Json) → List (String × Json)
  | [] => []
  | (k, j) :: rest => (k, j.normal) :: normalMembers rest
end

theorem normalItems_eq_map (items : List Json) : normalItems items = items.map normal := by
  induction items with
  | nil => rfl
  | cons j rest ih => rw [normalItems, ih, List.map_cons]

theorem normalMembers_eq_map (members : List (String × Json)) :
    normalMembers members = members.map fun m => (m.1, m.2.normal) := by
  induction members with
  | nil => rfl
  | cons m rest ih => rw [normalMembers, ih, List.map_cons]

/-- Every object in the value has its keys in rising order, each once. -/
inductive Sorted : Json → Prop
  | null : Sorted .null
  | bool (b : Bool) : Sorted (.bool b)
  | number (n : Number) : Sorted (.number n)
  | text (s : String) : Sorted (.text s)
  | array {items : List Json} (h : ∀ j ∈ items, Sorted j) : Sorted (.array items)
  | object {members : List (String × Json)} (keys : Rising members)
    (h : ∀ m ∈ members, Sorted m.2) : Sorted (.object members)

theorem Sorted.normal_eq {j : Json} (h : Sorted j) : j.normal = j := by
  induction h with
  | null | bool | number | text => rfl
  | array _ ih =>
    rw [normal, normalItems_eq_map, List.map_congr_left ih, List.map_id']
  | @object members keys _ ih =>
    have same : ∀ m ∈ members, (m.1, m.2.normal) = m := fun m mem => Prod.ext rfl (ih m mem)
    rw [normal, normalMembers_eq_map, List.map_congr_left same, List.map_id',
      ofMembers_of_rising keys]

namespace Reader

theorem valueItems_map {items : List Json} {room : Nat}
    (h : ∀ j ∈ items, value room j.tree = .ok j.normal) :
    valueItems room (items.map tree) = .ok (items.map normal) := by
  induction items with
  | nil => rfl
  | cons j rest ih =>
    have first := h j List.mem_cons_self
    have others := ih fun k mem => h k (List.mem_cons_of_mem j mem)
    rw [List.map_cons, valueItems, first, others]
    rfl

theorem valueMembers_map {members : List (String × Json)} {room : Nat}
    (h : ∀ m ∈ members, value room m.2.tree = .ok m.2.normal) :
    valueMembers room (members.map fun m => (.ofText m.1, m.2.tree)) =
      .ok (members.map fun m => (m.1, m.2.normal)) := by
  induction members with
  | nil => rfl
  | cons m rest ih =>
    have first := h m List.mem_cons_self
    have others := ih fun n mem => h n (List.mem_cons_of_mem m mem)
    rw [List.map_cons, valueMembers, Literal.read_ofText, first, others]
    rfl

theorem value_tree {n : Nat} {j : Json} (h : Plain n j) {room : Nat} (fits : n ≤ room) :
    value room j.tree = .ok j.normal := by
  induction h generalizing room with
  | null | bool => rfl
  | int within =>
    rw [tree, leaf_int, value, Leaf.found, Numeral.read_ofInt within]
    rfl
  | text s =>
    rw [tree, value, Leaf.found, Literal.read_ofText]
    rfl
  | array _ ih =>
    cases room with
    | zero => omega
    | succ room =>
      have items := valueItems_map fun j mem => ih j mem (Nat.le_of_succ_le_succ fits)
      rw [tree, normal, itemTrees_eq_map, normalItems_eq_map, value, enter]
      change (valueItems room _ >>= _) = _
      rw [items]
      rfl
  | object _ ih =>
    cases room with
    | zero => omega
    | succ room =>
      have members := valueMembers_map fun m mem => ih m mem (Nat.le_of_succ_le_succ fits)
      rw [tree, normal, memberTrees_eq_map, normalMembers_eq_map, value, enter]
      change (valueMembers room _ >>= _) = _
      rw [members]
      rfl

variable {α : Type}

/-- A reader gives back every value that is written, if this room is left. -/
def Undoes (r : Reader α) (write : α → Json) (room : Nat) : Prop :=
  ∀ a, r room (write a).tree = .ok a

theorem undoes_text (room : Nat) : Undoes text .text room := Literal.read_ofText

theorem undoes_bool (room : Nat) : Undoes bool .bool room := fun _ => rfl

theorem mapM_undoes {r : Reader α} {write : α → Json} {room : Nat} (h : Undoes r write room)
    (xs : List α) : (xs.map fun x => (write x).tree).mapM (r room) = .ok xs := by
  induction xs with
  | nil => rfl
  | cons x xs ih =>
    rw [List.map_cons, List.mapM_cons, h x, ih]
    rfl

theorem undoes_list {r : Reader α} {write : α → Json} {room : Nat} (h : Undoes r write room) :
    Undoes (list r) (fun xs => .array (xs.map write)) (room + 1) := by
  intro xs
  have items := mapM_undoes h xs
  rw [tree, itemTrees_eq_map, List.map_map, list, enter]
  change (List.mapM (r room) (xs.map fun x => (write x).tree) >>= _) = _
  rw [items]
  rfl

theorem option_text {r : Reader α} {s : String} {room : Nat} {a : α}
    (h : r room (Json.text s).tree = .ok a) : option r room (Json.text s).tree = .ok (some a) := by
  change (some <$> r room (Json.text s).tree) = _
  rw [h]
  rfl

theorem variant_text {choices : List (String × α)} {s : String} {a : α}
    (h : named choices s = .ok a) (room : Nat) :
    variant choices room (Json.text s).tree = .ok a := by
  rw [tree, variant, Literal.read_ofText]
  exact h

/-- The whole value is read first, which a plain one allows. -/
theorem shapes_tree {type : String} {alternatives : List (Reader α)} {n room : Nat} {j : Json}
    {a : α} (h : Plain n j) (fits : n ≤ room)
    (first : alternatives.findSome? (fun r => (r room j.tree).toOption) = some a) :
    shapes type alternatives room j.tree = .ok a := by
  rw [shapes, value_tree h fits, first]
  rfl

end Reader

namespace Record

variable {α : Type} {fields : List (Field α)} {room : Nat}

theorem readMembers_cons {β : Type} {r : Reader β} {x : β} {set : β → α → α} {presence : Presence}
    {given : List String} {a : α} {key : String} {t : Tree} {rest : List (Literal × Tree)}
    {result : List String × α}
    (known : fields.find? (fun f => f.name = key) = some (field key presence r set))
    (fresh : given.contains key = false) (read : r room t = .ok x)
    (more : readMembers fields room (key :: given) (set x a) rest = .ok result) :
    readMembers fields room given a ((.ofText key, t) :: rest) = .ok result := by
  have put : (field key presence r set).read room t a = .ok (set x a) :=
    bind_eq_ok.mpr ⟨x, read, rfl⟩
  have name : (Literal.ofText key).read = .ok key := Literal.read_ofText key
  refine readMembers_cons_iff.mpr ⟨_, .put name known ?_ put, more⟩
  simpa using fresh

theorem record_object {type : String} {start a : α} {given : List String}
    {members : List (Literal × Tree)}
    (read : readMembers fields room [] start members = .ok (given, a))
    (complete : missing? fields given = none) :
    Reader.record type fields start (room + 1) (.object members .closed) = .ok a :=
  record_eq_ok.mpr ⟨room, given, rfl, read, rfl, complete⟩

end Record
end QueryBuilder.Json
