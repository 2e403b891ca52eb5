import QueryBuilder.Definition
import QueryBuilder.Proofs.Json.Record
import QueryBuilder.Proofs.Json.Spelled
import QueryBuilder.Select.Outline

/-! Texts of definitions. What a text defines depends neither on the order of its members nor on
members that a definition does not know.
-/
namespace QueryBuilder
open Json (Gap Literal MemberText Numeral Spelled Tree)
open Json.Record (Independent Unknown independent_field record_rearranged)

namespace Definition

theorem fields_independent : fields.Pairwise Independent := by
  simp only [fields, List.pairwise_cons, List.forall_mem_cons, List.not_mem_nil,
    false_implies, implies_true, List.Pairwise.nil, and_true]
  -- Each field sets a component of its own, so any two settings commute.
  and_intros
  all_goals
    refine independent_field ?_
    exact fun _ _ _ => rfl

theorem ofText_eq_ok {text : String} {t : Tree} (written : Spelled text.toList t) {d : Definition} :
    ofText text = .ok d ↔ reader Json.depthLimit t = .ok d := by
  rw [ofText, written.run]
  cases reader Json.depthLimit t with
  | error e => exact ⟨nofun, nofun⟩
  | ok d => exact ⟨fun h => congrArg _ (Except.ok.inj h), fun h => congrArg _ (Except.ok.inj h)⟩

end Definition

/-- The order of the members does not matter, nor do members that a definition does not know: two
texts that differ in these alone define the same query, or neither defines one. -/
theorem Select.ofDefinition_rearranged (s : Settings) {text text' : String}
    {members members' extra : List (Literal × Tree)}
    (written : Spelled text.toList (.object members .closed))
    (written' : Spelled text'.toList (.object members' .closed))
    (rearranged : members'.Perm (members ++ extra))
    (unknown : ∀ m ∈ extra, ∃ name, m.1.text = .ok name ∧
      name ∉ Definition.fields.map Json.Field.name) (q : Select) :
    ofDefinition s text' = .ok q ↔ ofDefinition s text = .ok q := by
  have passed : ∀ m ∈ extra, Unknown Definition.fields m := by
    intro m mem
    obtain ⟨name, key, other⟩ := unknown m mem
    have inside : m ∈ members' := rearranged.mem_iff.mpr (List.mem_append_right members mem)
    have read : m.1.read = .ok name := by rw [Literal.read, key, Json.orFault]
    exact ⟨written'.skip_of_mem inside, name, read, other⟩
  have same (d : Definition) :
      Definition.ofText text' = .ok d ↔ Definition.ofText text = .ok d := by
    rw [Definition.ofText_eq_ok written, Definition.ofText_eq_ok written']
    exact record_rearranged Definition.fields_independent passed rearranged
  rw [ofDefinition, ofDefinition, Json.bind_eq_ok, Json.bind_eq_ok]
  simp only [same]

theorem Select.ofDefinition_rearranged_with_seed :
    let text := "\x7b\"limit\":5,\"models\":\"Robots\"\x7d"
    let text' := "\x7b \"seed\" : [\"\\ud800\"],\"models\":\"Robots\",\"limit\":5\x7d"
    let limit : Literal × Tree := (.ofText "limit", .leaf (.number (.ofInt 5)))
    let models : Literal × Tree := (.ofText "models", .leaf (.text (.ofText "Robots")))
    let seed : Literal × Tree :=
      (.ofText "seed", .array [.leaf (.text ⟨[.unit 0xd800], none⟩)] none)
    Spelled text.toList (.object [limit, models] .closed) ∧
      Spelled text'.toList (.object [seed, models, limit] .closed) ∧
      [seed, models, limit].Perm ([limit, models] ++ [seed]) ∧
      (∀ m ∈ [seed], ∃ name, m.1.text = .ok name ∧
        name ∉ Definition.fields.map Json.Field.name) ∧
      ∃ q, ofDefinition {} text = .ok q ∧ ofDefinition {} text' = .ok q ∧
        q.render.toOption = some "SELECT * FROM Robots LIMIT 5" := by
  intro text text' limit models seed
  let limitText : MemberText := .written "limit" ['5'] limit.2
  let modelsText : MemberText := .written "models" ('"' :: "Robots".toList ++ ['"']) models.2
  let seedText : MemberText := ⟨[' '], "seed".toList, seed.1, [' '],
    ' ' :: '[' :: '"' :: "\\ud800".toList ++ ['"', ']'], seed.2⟩
  have limitNamed : limitText.Named := MemberText.named_written ..
  have modelsNamed : modelsText.Named := MemberText.named_written ..
  have gap : Gap [' '] := List.forall_mem_singleton.mpr rfl
  have seedNamed : seedText.Named := ⟨gap, Literal.spelled_text "seed".toList, rfl, gap⟩
  have limitSpelled : Spelled limitText.value limitText.tree := .number (Numeral.spelled_int 5)
  have modelsSpelled : Spelled modelsText.value modelsText.tree :=
    .text (Literal.spelled_text "Robots".toList)
  have half : Spelled ('"' :: "\\ud800".toList ++ ['"']) (.leaf (.text ⟨[.unit 0xd800], none⟩)) :=
    .text (.unit rfl .nil)
  have seedSpelled : Spelled seedText.value seedText.tree :=
    .before rfl (@Spelled.array [(_, _)] (List.forall_mem_singleton.mpr half))
  have chars : text.toList = '\x7b' ::
      Json.separated ([limitText, modelsText].map MemberText.chars) ++ ['\x7d'] := by decide
  have chars' : text'.toList = '\x7b' ::
      Json.separated ([seedText, modelsText, limitText].map MemberText.chars) ++ ['\x7d'] := by
    decide
  have written : Spelled text.toList (.object [limit, models] .closed) := by
    rw [chars]
    exact .object
      (List.forall_mem_cons.mpr ⟨limitNamed, List.forall_mem_singleton.mpr modelsNamed⟩)
      (List.forall_mem_cons.mpr ⟨limitSpelled, List.forall_mem_singleton.mpr modelsSpelled⟩)
  have written' : Spelled text'.toList (.object [seed, models, limit] .closed) := by
    rw [chars']
    exact .object
      (List.forall_mem_cons.mpr ⟨seedNamed,
        List.forall_mem_cons.mpr ⟨modelsNamed, List.forall_mem_singleton.mpr limitNamed⟩⟩)
      (List.forall_mem_cons.mpr ⟨seedSpelled,
        List.forall_mem_cons.mpr ⟨modelsSpelled, List.forall_mem_singleton.mpr limitSpelled⟩⟩)
  have rearranged : [seed, models, limit].Perm ([limit, models] ++ [seed]) :=
    List.reverse_perm [limit, models, seed]
  have unknown : ∀ m ∈ [seed], ∃ name, m.1.text = .ok name ∧
      name ∉ Definition.fields.map Json.Field.name :=
    List.forall_mem_singleton.mpr ⟨"seed", rfl, by decide⟩
  let d : Definition := { models := some (.single "Robots"), limit := some 5 }
  have read : Definition.ofText text = .ok d := (Definition.ofText_eq_ok written).mpr rfl
  have built : ofDefinition {} text = .ok ((empty {}).run d.calls) := by
    rw [ofDefinition, read]
    rfl
  exact ⟨written, written', rearranged, unknown, _, built,
    (ofDefinition_rearranged {} written written' rearranged unknown _).mpr built, by decide⟩

end QueryBuilder
