import QueryBuilder.Proofs.OrderedMap
import QueryBuilder.Proofs.Param.Key
import QueryBuilder.Proofs.RoundTrip
import QueryBuilder.Select.Outline

/-! Parameters that were handed off. A query is handed off with its parameters as JSON, in which
names and positions are plain texts; the parameters are found in it again.
-/
namespace QueryBuilder
open Json (Plain)

namespace Json.Reader
variable {α : Type}

def member (r : Reader α) (room : Nat) (m : Literal × Tree) : Except ReadError (String × α) := do
  let key ← m.1.read
  return (key, ← r room m.2)

/-- The members of an object, each with its name, in their order. -/
def members (r : Reader α) : Reader (List (String × α))
  | room, .object members ending => do
    let room ← enter room
    let members ← members.mapM (member r room)
    ending.check
    return members
  | _, t => t.wrongType "a map"

variable {r : Reader α} {write : α → Json} {room : Nat} {ms : List (String × α)}

theorem mapM_member (read : ∀ m ∈ ms, r room (write m.2).tree = .ok m.2) :
    (ms.map fun m => (Literal.ofText m.1, (write m.2).tree)).mapM (member r room) = .ok ms := by
  induction ms with
  | nil => rfl
  | cons m rest ih =>
    have others := ih fun n mem => read n (List.mem_cons_of_mem m mem)
    rw [List.map_cons, List.mapM_cons, others, member, Literal.read_ofText,
      read m List.mem_cons_self]
    rfl

theorem members_object (read : ∀ m ∈ ms, r room (write m.2).tree = .ok m.2) :
    members r (room + 1) (Json.object (ms.map fun m => (m.1, write m.2))).tree = .ok ms := by
  have inside := mapM_member read
  rw [tree, memberTrees_eq_map, List.map_map, members, enter]
  change ((ms.map fun m => (Literal.ofText m.1, (write m.2).tree)).mapM (member r room) >>= _) = _
  rw [inside]
  rfl

end Json.Reader

open Json.Reader (undoes_text members_object)
open Json.Record (readMembers_cons record_object)

namespace Param.Table

def membersReader : Json.Reader (List (String × Entry)) :=
  .record "BindParams" [Json.field "entries" .required (.members Entry.reader) fun ms _ => ms] []

/-- The entries of a table, each under the text of its key. -/
def members (t : Table) : List (String × Entry) := t.entries.map fun e => (e.1.text, e.2)

variable {t : Table} {depth : Nat}

theorem plain (h : ∀ e ∈ t.entries, Plain depth e.2.value) : Plain (depth + 3) t.toJson := by
  refine .object (List.forall_mem_singleton.mpr (.object fun m mem => ?_))
  obtain ⟨e, bound, rfl⟩ := List.mem_map.mp mem
  exact Entry.plain (h e bound)

theorem read_members {room : Nat} (h : ∀ e ∈ t.entries, Plain depth e.2.value ∧ e.2.value.Sorted)
    (fits : depth ≤ room) : membersReader (room + 3) t.toJson.tree = .ok t.members := by
  have entries : ∀ m ∈ t.members, Entry.reader (room + 1) m.2.toJson.tree = .ok m.2 := by
    intro m mem
    obtain ⟨e, bound, rfl⟩ := List.mem_map.mp mem
    obtain ⟨plain, sorted⟩ := h e bound
    exact Entry.undoes plain sorted fits
  have object := members_object entries
  rw [members, List.map_map] at object
  exact record_object (readMembers_cons rfl rfl object rfl) rfl

theorem ofText_members (canonical : ∀ k ∈ t.keys, k.Canonical) :
    t.members.map (fun m => (Key.ofText m.1, m.2)) = t.entries := by
  have same : ∀ e ∈ t.entries, (Key.ofText e.1.text, e.2) = e := by
    intro e bound
    rw [Key.ofText_text (canonical e.1 (List.mem_map_of_mem bound))]
  rw [members, List.map_map]
  exact (List.map_congr_left same).trans (List.map_id' _)

theorem nodup_members (canonical : ∀ k ∈ t.keys, k.Canonical) : (t.members.map Prod.fst).Nodup := by
  have keys : (t.members.map Prod.fst).map Key.ofText = t.keys := by
    rw [OrderedMap.keys, ← ofText_members canonical, List.map_map, List.map_map]
    rfl
  have distinct : ((t.members.map Prod.fst).map Key.ofText).Nodup := by
    rw [keys]
    exact t.nodup
  exact List.Pairwise.of_map Key.ofText (fun _ _ => mt (congrArg Key.ofText)) distinct

end Param.Table

/-- The text of a written query and the members of its parameters. -/
def BoundQuery.membersReader : Json.Reader (String × List (String × Param.Entry)) :=
  .record "BuiltQuery"
    [Json.field "phql" .required .text fun x b => (x, b.2),
      Json.field "params" .required Param.Table.membersReader fun x b => (b.1, x)] ("", [])

theorem BoundQuery.plain {b : BoundQuery} {depth : Nat}
    (h : ∀ e ∈ b.params.entries, Plain depth e.2.value) : Plain (depth + 4) b.toJson :=
  .object (List.forall_mem_cons.mpr ⟨.text b.text, List.forall_mem_singleton.mpr
    (Param.Table.plain h)⟩)

/-- Where every key is one that a text denotes, the names of the members differ, and the members,
each name taken for the key that it denotes, are the entries in their order. -/
theorem handed_off_params_read_back {t : Param.Table} {depth : Nat}
    (canonical : ∀ k ∈ t.keys, k.Canonical) (fits : depth + 4 ≤ Json.depthLimit)
    (values : ∀ e ∈ t.entries, Plain depth e.2.value ∧ e.2.value.Sorted) :
    ∃ members : List (String × Param.Entry),
      (members.map Prod.fst).Nodup ∧
      members.map (fun m => (Param.Key.ofText m.1, m.2)) = t.entries ∧
      Param.Table.membersReader.run t.toJson.compact = .ok members ∧
      ∀ text, BoundQuery.membersReader.run (BoundQuery.mk text t).toJson.compact =
        .ok (text, members) := by
  have plain : ∀ e ∈ t.entries, Plain depth e.2.value := fun e bound => (values e bound).1
  have room : Json.depthLimit = 123 + 4 := rfl
  have alone : Param.Table.membersReader (124 + 3) t.toJson.tree = .ok t.members :=
    Param.Table.read_members values (by omega)
  have inside : Param.Table.membersReader (123 + 3) t.toJson.tree = .ok t.members :=
    Param.Table.read_members values (by omega)
  refine ⟨t.members, t.nodup_members canonical, t.ofText_members canonical, ?_, fun text => ?_⟩
  · rw [(Param.Table.plain plain).run_compact]
    exact alone
  · rw [(BoundQuery.plain (b := ⟨text, t⟩) plain).run_compact, room]
    exact record_object (readMembers_cons rfl rfl (undoes_text _ text) <|
      readMembers_cons rfl rfl inside rfl) rfl

theorem handed_off_params_read_back_of_numerals :
    let greatest : Json := .array [.number (.int 18446744073709551615), .null]
    let quoted : Json := .text "\"\n\u0001é"
    let t : Param.Table := .ofList [(.positional 18446744073709551615, ⟨greatest, none⟩),
      (.named "18446744073709551616", ⟨quoted, some .str⟩), (.named "", ⟨.null, some .skip⟩)]
    (∀ k ∈ t.keys, k.Canonical) ∧ 1 + 4 ≤ Json.depthLimit ∧
      (∀ e ∈ t.entries, Plain 1 e.2.value ∧ e.2.value.Sorted) ∧
      ∃ members : List (String × Param.Entry),
        (members.map Prod.fst).Nodup ∧
        members.map (fun m => (Param.Key.ofText m.1, m.2)) = t.entries ∧
        Param.Table.membersReader.run t.toJson.compact = .ok members ∧
        ∀ text, BoundQuery.membersReader.run (BoundQuery.mk text t).toJson.compact =
          .ok (text, members) := by
  intro greatest quoted t
  have entries : t.entries = [(.positional 18446744073709551615, ⟨greatest, none⟩),
      (.named "18446744073709551616", ⟨quoted, some .str⟩), (.named "", ⟨.null, some .skip⟩)] :=
    OrderedMap.entries_ofList (by decide)
  have canonical : ∀ k ∈ t.keys, k.Canonical := by
    rw [OrderedMap.keys, entries]
    exact List.forall_mem_cons.mpr ⟨⟨"18446744073709551615", by decide⟩,
      List.forall_mem_cons.mpr ⟨⟨"18446744073709551616", by decide⟩,
        List.forall_mem_singleton.mpr ⟨"", by decide⟩⟩⟩
  have plain : Plain 1 greatest := .array (List.forall_mem_cons.mpr
    ⟨.int (by decide), List.forall_mem_singleton.mpr .null⟩)
  have sorted : greatest.Sorted := .array (List.forall_mem_cons.mpr
    ⟨.number _, List.forall_mem_singleton.mpr .null⟩)
  have values : ∀ e ∈ t.entries, Plain 1 e.2.value ∧ e.2.value.Sorted := by
    rw [entries]
    exact List.forall_mem_cons.mpr ⟨⟨plain, sorted⟩, List.forall_mem_cons.mpr
      ⟨⟨.text _, .text _⟩, List.forall_mem_singleton.mpr ⟨.null, .null⟩⟩⟩
  exact ⟨canonical, by decide, values, handed_off_params_read_back canonical (by decide) values⟩

/-- A name that looks like a position is no key that a text denotes, and its text may come twice. -/
example :
    let t : Param.Table := .ofValues [(.named "0", .null), (.positional 0, .null)]
    t.toJson.compact = "\x7b\"entries\":\x7b\"0\":\x7b\"value\":null,\"bind_type\":null\x7d," ++
      "\"0\":\x7b\"value\":null,\"bind_type\":null\x7d\x7d\x7d" := by decide

end QueryBuilder
