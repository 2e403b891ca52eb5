import QueryBuilder.Clause
import QueryBuilder.Join
import QueryBuilder.Param.Table
import QueryBuilder.Settings
import QueryBuilder.Sources
import QueryBuilder.Proofs.Json.Reader

/-! What is written for a clause, sources, an entity, a join, settings or a parameter is read back
as the same.
-/
namespace QueryBuilder
open Json (Plain)
open Json.Reader (Undoes undoes_text undoes_bool undoes_list option_text shapes_tree variant_text)
open Json.Record (readMembers_cons record_object)

theorem Clause.plain (c : Clause) : Plain 1 c.toJson := by
  cases c with
  | text s => exact .text s
  | items xs =>
    refine .array fun j mem => ?_
    obtain ⟨x, -, rfl⟩ := List.mem_map.mp mem
    exact .text x

theorem Clause.undoes (room : Nat) : Undoes Clause.reader Clause.toJson (room + 1) := by
  intro c
  refine shapes_tree c.plain (by omega) ?_
  cases c with
  | text s =>
    have read := undoes_text (room + 1) s
    simp only [toJson, List.findSome?_cons, read]
    rfl
  | items xs =>
    have read := undoes_list (undoes_text room) xs
    simp only [toJson, List.findSome?_cons, read]
    rfl

theorem Entity.plain (e : Entity) : Plain 1 e.toJson := by
  obtain ⟨name, _ | label⟩ := e
  · exact .object (List.forall_mem_singleton.mpr (.text name))
  · exact .object (List.forall_mem_cons.mpr
      ⟨.text name, List.forall_mem_singleton.mpr (.text label)⟩)

theorem Entity.undoes (room : Nat) : Undoes Entity.reader Entity.toJson (room + 1) := by
  rintro ⟨name, _ | label⟩
  · exact record_object (readMembers_cons rfl rfl (undoes_text room name) rfl) rfl
  · exact record_object (readMembers_cons rfl rfl (undoes_text room name) <|
      readMembers_cons rfl rfl (option_text (undoes_text room label)) rfl) rfl

theorem Sources.plain (s : Sources) : Plain 2 s.toJson := by
  cases s with
  | single name => exact .text name
  | several entities =>
    refine .array fun j mem => ?_
    obtain ⟨e, -, rfl⟩ := List.mem_map.mp mem
    exact e.plain

theorem Sources.undoes (room : Nat) : Undoes Sources.reader Sources.toJson (room + 2) := by
  intro s
  refine shapes_tree s.plain (by omega) ?_
  cases s with
  | single name =>
    have read := undoes_text (room + 2) name
    simp only [toJson, List.findSome?_cons, read]
    rfl
  | several entities =>
    have read := undoes_list (Entity.undoes room) entities
    simp only [toJson, List.findSome?_cons, read]
    rfl

theorem JoinKind.undoes (room : Nat) : Undoes JoinKind.reader JoinKind.toJson room := by
  intro k
  refine variant_text ?_ room
  cases k <;> rfl

theorem Join.plain (j : Join) : Plain 2 j.toJson := by
  have kind : Plain 1 j.kind.toJson := .text j.kind.name
  obtain ⟨entity, _ | condition, k⟩ := j
  · exact .object (List.forall_mem_cons.mpr ⟨entity.plain, List.forall_mem_singleton.mpr kind⟩)
  · exact .object (List.forall_mem_cons.mpr ⟨entity.plain, List.forall_mem_cons.mpr
      ⟨.text condition, List.forall_mem_singleton.mpr kind⟩⟩)

theorem Join.undoes (room : Nat) : Undoes Join.reader Join.toJson (room + 2) := by
  rintro ⟨entity, _ | condition, kind⟩
  · exact record_object (readMembers_cons rfl rfl (Entity.undoes room entity) <|
      readMembers_cons rfl rfl (JoinKind.undoes _ kind) rfl) rfl
  · exact record_object (readMembers_cons rfl rfl (Entity.undoes room entity) <|
      readMembers_cons rfl rfl (option_text (undoes_text _ condition)) <|
      readMembers_cons rfl rfl (JoinKind.undoes _ kind) rfl) rfl

theorem ClashPolicy.undoes (room : Nat) : Undoes ClashPolicy.reader ClashPolicy.toJson room := by
  intro p
  refine variant_text ?_ room
  cases p <;> rfl

theorem Settings.plain (s : Settings) : Plain 1 s.toJson := by
  have columns : Plain 0 (.text s.defaultColumns) := .text _
  have stem : Plain 0 (.text s.keyStem) := .text _
  have policy : Plain 0 s.clashPolicy.toJson := .text _
  have escape : Plain 0 (.bool s.escape) := .bool _
  exact .object (List.forall_mem_cons.mpr ⟨columns, List.forall_mem_cons.mpr ⟨stem,
    List.forall_mem_cons.mpr ⟨policy, List.forall_mem_singleton.mpr escape⟩⟩⟩)

theorem Settings.undoes (room : Nat) : Undoes Settings.reader Settings.toJson (room + 1) := by
  intro s
  exact record_object (readMembers_cons rfl rfl (undoes_text room s.defaultColumns) <|
    readMembers_cons rfl rfl (undoes_text room s.keyStem) <|
    readMembers_cons rfl rfl (ClashPolicy.undoes room s.clashPolicy) <|
    readMembers_cons rfl rfl (undoes_bool room s.escape) rfl) rfl

namespace Param

theorem Kind.undoes (room : Nat) : Undoes Kind.reader Kind.toJson room := by
  intro k
  refine variant_text ?_ room
  cases k <;> rfl

theorem Entry.plain {n : Nat} {e : Entry} (h : Plain n e.value) : Plain (n + 1) e.toJson := by
  have kind : Plain n (e.kind.elim .null Kind.toJson) := by
    cases e.kind with
    | none => exact .null
    | some k => exact .text k.name
  exact .object (List.forall_mem_cons.mpr ⟨h, List.forall_mem_singleton.mpr kind⟩)

theorem Entry.undoes {n room : Nat} {e : Entry} (h : Plain n e.value) (sorted : e.value.Sorted)
    (fits : n ≤ room) : Entry.reader (room + 1) e.toJson.tree = .ok e := by
  obtain ⟨value, kind⟩ := e
  have read : Json.Reader.value room value.tree = .ok value := by
    rw [Json.Reader.value_tree h fits, sorted.normal_eq]
  cases kind with
  | none =>
    exact record_object (readMembers_cons rfl rfl read <| readMembers_cons rfl rfl rfl rfl) rfl
  | some kind =>
    exact record_object (readMembers_cons rfl rfl read <|
      readMembers_cons rfl rfl (option_text (Kind.undoes room kind)) rfl) rfl

end Param

/-- A parameter's value may be nested as deep as a reading goes, less the parameter itself. -/
theorem reading_undoes_writing :
    (∀ c : Clause, Clause.reader.run c.toJson.compact = .ok c) ∧
    (∀ s : Sources, Sources.reader.run s.toJson.compact = .ok s) ∧
    (∀ e : Entity, Entity.reader.run e.toJson.compact = .ok e) ∧
    (∀ j : Join, Join.reader.run j.toJson.compact = .ok j) ∧
    (∀ s : Settings, Settings.reader.run s.toJson.compact = .ok s) ∧
    (∀ (e : Param.Entry) (depth : Nat), depth < Json.depthLimit → Plain depth e.value →
      e.value.Sorted → Param.Entry.reader.run e.toJson.compact = .ok e) := by
  refine ⟨fun c => ?_, fun s => ?_, fun e => ?_, fun j => ?_, fun s => ?_,
    fun e depth bound plain sorted => ?_⟩
  · exact (c.plain.run_compact _).trans (Clause.undoes 126 c)
  · exact (s.plain.run_compact _).trans (Sources.undoes 125 s)
  · exact (e.plain.run_compact _).trans (Entity.undoes 126 e)
  · exact (j.plain.run_compact _).trans (Join.undoes 125 j)
  · exact (s.plain.run_compact _).trans (Settings.undoes 126 s)
  · have room : depth ≤ 126 := Nat.le_of_lt_succ bound
    exact ((Param.Entry.plain plain).run_compact _).trans (Param.Entry.undoes plain sorted room)

theorem reading_undoes_writing_of_nested_value :
    let ends : Json :=
      .array [.number (.int (-9223372036854775808)), .number (.int 18446744073709551615)]
    let flags : Json := .object [("\u0001", .null), ("é", .bool true)]
    let e : Param.Entry := ⟨.object [("", ends), ("\"\\\n", flags)], some .blob⟩
    2 < Json.depthLimit ∧ Plain 2 e.value ∧ e.value.Sorted ∧
      Param.Entry.reader.run e.toJson.compact = .ok e := by
  intro ends flags e
  have plain : Plain 2 e.value := by
    have ends : Plain 1 ends := .array (List.forall_mem_cons.mpr
      ⟨.int (by decide), List.forall_mem_singleton.mpr (.int (by decide))⟩)
    have flags : Plain 1 flags := .object (List.forall_mem_cons.mpr
      ⟨.null, List.forall_mem_singleton.mpr (.bool true)⟩)
    exact .object (List.forall_mem_cons.mpr ⟨ends, List.forall_mem_singleton.mpr flags⟩)
  have sorted : e.value.Sorted := by
    have ends : ends.Sorted := .array (List.forall_mem_cons.mpr
      ⟨.number _, List.forall_mem_singleton.mpr (.number _)⟩)
    have flags : flags.Sorted := .object (List.pairwise_pair.mpr (by decide))
      (List.forall_mem_cons.mpr ⟨.null, List.forall_mem_singleton.mpr (.bool true)⟩)
    exact .object (List.pairwise_pair.mpr (by decide))
      (List.forall_mem_cons.mpr ⟨ends, List.forall_mem_singleton.mpr flags⟩)
  exact ⟨by decide, plain, sorted,
    reading_undoes_writing.2.2.2.2.2 e 2 (by decide) plain sorted⟩

end QueryBuilder
