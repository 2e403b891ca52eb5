import QueryBuilder.Proofs.AliasClash
import QueryBuilder.Proofs.Select.Edit
import QueryBuilder.Select.Event

/-! Alias clashes that are reported call by call, beside the clashes of the entities at the end. An
added source comes before the joins there are, so the two lists agree in number but not in order.
-/
namespace QueryBuilder
open AliasClash

def Event.clash? : Event → Option AliasClash
  | .aliasReused clash => some clash
  | .sourcesClash clash => some clash
  | .rowsReset _ => none
  | .rendered _ _ => none

namespace Select

/-- The clashes that a run of calls reports. -/
def warned (q : Select) (calls : List Call) : List AliasClash :=
  (q.trace calls).filterMap Event.clash?

theorem warned_cons (q : Select) (c : Call) (rest : List Call) :
    q.warned (c :: rest) = (q.events c).filterMap Event.clash? ++ (q.step c).warned rest := by
  rw [warned, trace, List.filterMap_append]
  rfl

/-- What a call does to the entities, and the clashes that it reports where clashes are reported. -/
inductive Naming (q : Select) (reported : List AliasClash) : Call → Prop
  | replaces (s : Sources) (whole : reported = all (q.step (.setSources s)).entities) :
      Naming q reported (.setSources s)
  | adds {c : Call} (e : Entity) (own : reported = (next? q.entities e).toList)
      (carried : (aliased (q.step c).entities).Perm (aliased (q.entities ++ [e])))
      (last : (∀ x, c = .addSource x → q.joins = []) →
        aliased (q.step c).entities = aliased (q.entities ++ [e])) : Naming q reported c
  | keeps {c : Call} (silent : reported = []) (same : (q.step c).entities = q.entities) :
      Naming q reported c

theorem aliased_entities_addSource (q : Select) (e : Entity) :
    aliased (q.addSource e).entities = aliased (q.sources.elim [] Sources.entities) ++
      aliased [e] ++ aliased (q.joins.map Join.entity) := by
  simp only [entities, addSource, aliased, ← List.filter_append]
  cases q.sources with
  | none => rfl
  | some s =>
    cases s with
    | single name =>
      by_cases blank : Text.isBlank name
      · simp [Sources.push, Sources.entities, blank]
      · simp [Sources.push, Sources.entities, blank]
    | several es => simp [Sources.push, Sources.entities]

theorem aliased_append (xs ys : List Entity) : aliased (xs ++ ys) = aliased xs ++ aliased ys :=
  List.filter_append ..

theorem warns_step {q : Select} (warns : q.settings.clashPolicy = .warn) (c : Call) :
    (q.step c).settings.clashPolicy = .warn := by
  rw [settings_step, warns]

theorem clashes_reuse {q : Select} (warns : q.settings.clashPolicy = .warn) (e : Entity) :
    (q.reuse e).filterMap Event.clash? = (next? q.entities e).toList := by
  rw [reuse, warnings, warns]
  cases next? q.entities e <;> rfl

theorem naming (q : Select) (warns : q.settings.clashPolicy = .warn) (c : Call) :
    Naming q ((q.events c).filterMap Event.clash?) c := by
  cases c with
  | setSources s =>
    refine .replaces s ?_
    rw [events, warnings, warns, List.filterMap_map]
    exact List.filterMap_some
  | addSource e =>
    have added : aliased (q.step (.addSource e)).entities = aliased
        (q.sources.elim [] Sources.entities) ++ aliased [e] ++ aliased (q.joins.map Join.entity) :=
      aliased_entities_addSource q e
    refine .adds e (clashes_reuse warns e) ?_ ?_
    · rw [added, aliased_append, entities, aliased_append, List.append_assoc, List.append_assoc]
      exact List.perm_append_comm.append_left _
    · intro joinless
      rw [added, aliased_append, entities, joinless e rfl]
      simp [aliased]
  | addJoin j =>
    have added : (q.step (.addJoin j)).entities = q.entities ++ [j.entity] := by
      simp [step, apply, entities]
    refine .adds j.entity (clashes_reuse warns j.entity) ?_ ?_
    · rw [added]
    · intro _
      rw [added]
  | filter f e =>
    have silent : (q.events (.filter f e)).filterMap Event.clash? = [] := by
      cases f <;> cases e <;> rfl
    exact .keeps silent (by rw [entities, sources_step, joins_step]; rfl)
  | _ => exact .keeps rfl (by rw [entities, sources_step, joins_step]; rfl)

/-- Every alias that two entities carry has been reported with a clash. -/
def Reported (es : List Entity) (reports : List AliasClash) : Prop :=
  ∀ a, 2 ≤ (aliases es).count a → ∃ c ∈ reports, c.aliasName = a

theorem reported_step {q : Select} {before : List AliasClash}
    (warns : q.settings.clashPolicy = .warn) (h : Reported q.entities before) (c : Call) :
    Reported (q.step c).entities (before ++ (q.events c).filterMap Event.clash?) := by
  intro a twice
  cases q.naming warns c with
  | replaces s whole =>
    rw [whole]
    obtain ⟨clash, member, same⟩ := exists_mem_all_of_two_le_count twice
    exact ⟨clash, List.mem_append_right _ member, same⟩
  | adds e own carried last =>
    have count : (aliases (q.step c).entities).count a = (aliases (q.entities ++ [e])).count a := by
      rw [← aliases_aliased, ← aliases_aliased (q.entities ++ [e])]
      exact (carried.filterMap _).count_eq a
    rw [count] at twice
    rcases two_le_count_append_singleton twice with early | ⟨clash, found, named⟩
    · obtain ⟨clash, member, named⟩ := h a early
      exact ⟨clash, List.mem_append_left _ member, named⟩
    · exact ⟨clash, List.mem_append_right _ (by simp [own, found]), named⟩
  | keeps silent same =>
    rw [same] at twice
    obtain ⟨clash, member, named⟩ := h a twice
    exact ⟨clash, List.mem_append_left _ member, named⟩

theorem reported_run {q : Select} {before : List AliasClash}
    (warns : q.settings.clashPolicy = .warn) (h : Reported q.entities before)
    (calls : List Call) : Reported (q.run calls).entities (before ++ q.warned calls) := by
  induction calls generalizing q before with
  | nil => simpa [warned, trace, run] using h
  | cons c rest ih =>
    rw [warned_cons, ← List.append_assoc, run_cons]
    exact ih (warns_step warns c) (reported_step warns h c)

theorem length_all_step {q : Select} (warns : q.settings.clashPolicy = .warn) {c : Call}
    (added : ∀ s, c ≠ .setSources s) :
    (all (q.step c).entities).length =
      (all q.entities).length + ((q.events c).filterMap Event.clash?).length := by
  cases q.naming warns c with
  | replaces s whole => exact absurd rfl (added s)
  | adds e own carried last =>
    rw [length_all_of_perm carried, all_append_singleton, List.length_append, own]
  | keeps silent same => rw [same, silent, List.length_nil, Nat.add_zero]

theorem length_all_run {q : Select} (warns : q.settings.clashPolicy = .warn) {calls : List Call}
    (added : ∀ s, Call.setSources s ∉ calls) :
    (all (q.run calls).entities).length = (all q.entities).length + (q.warned calls).length := by
  induction calls generalizing q with
  | nil => simp [warned, trace, run]
  | cons c rest ih =>
    have first := length_all_step warns (c := c) fun s same => added s (by simp [same])
    have later := ih (warns_step warns c) fun s member => added s (by simp [member])
    rw [run_cons, warned_cons, List.length_append]
    omega

/-- No source is added behind a join. -/
def SourcesFirst (calls : List Call) : Prop :=
  calls.Pairwise fun c d => ∀ j e, c = .addJoin j → d ≠ .addSource e

theorem all_step {q : Select} (warns : q.settings.clashPolicy = .warn) {c : Call}
    (added : ∀ s, c ≠ .setSources s) (joinless : ∀ e, c = .addSource e → q.joins = []) :
    all (q.step c).entities = all q.entities ++ (q.events c).filterMap Event.clash? := by
  cases q.naming warns c with
  | replaces s whole => exact absurd rfl (added s)
  | adds e own carried last =>
    rw [← all_aliased, last joinless, all_aliased, all_append_singleton, own]
  | keeps silent same => rw [same, silent, List.append_nil]

theorem joinless_step {q : Select} {c : Call} {rest : List Call}
    (ordered : SourcesFirst (c :: rest))
    (joinless : q.joins = [] ∨ ∀ e, Call.addSource e ∉ c :: rest) :
    (q.step c).joins = [] ∨ ∀ e, Call.addSource e ∉ rest := by
  by_cases joins : ∃ j, c = .addJoin j
  · obtain ⟨j, same⟩ := joins
    have behind := (List.pairwise_cons.1 ordered).1
    exact .inr fun e member => behind _ member j e same rfl
  · have unjoined : (q.step c).joins = q.joins := by
      rw [joins_step]
      cases c with
      | addJoin j => exact absurd ⟨j, rfl⟩ joins
      | _ => rfl
    rw [unjoined]
    refine joinless.imp_right ?_
    intro none e member
    exact none e (List.mem_cons_of_mem c member)

theorem all_run {q : Select} (warns : q.settings.clashPolicy = .warn) {calls : List Call}
    (added : ∀ s, Call.setSources s ∉ calls) (ordered : SourcesFirst calls)
    (joinless : q.joins = [] ∨ ∀ e, Call.addSource e ∉ calls) :
    all (q.run calls).entities = all q.entities ++ q.warned calls := by
  induction calls generalizing q with
  | nil => simp [warned, trace, run]
  | cons c rest ih =>
    have first :
        all (q.step c).entities = all q.entities ++ (q.events c).filterMap Event.clash? := by
      refine all_step warns (fun s same => added s (by simp [same])) ?_
      intro e same
      rcases joinless with none | none
      · exact none
      · exact absurd (by simp [same]) (none e)
    have later := ih (warns_step warns c) (fun s member => added s (by simp [member]))
      (List.pairwise_cons.1 ordered).2 (joinless_step ordered joinless)
    rw [run_cons, later, first, warned_cons, List.append_assoc]

theorem all_first_step {s : Settings} (warns : s.clashPolicy = .warn) (c : Call) :
    all ((empty s).step c).entities = ((empty s).events c).filterMap Event.clash? := by
  cases (empty s).naming warns c with
  | replaces src whole => exact whole.symm
  | adds e own carried last =>
    rw [own, ← all_aliased, last (fun _ _ => rfl), all_aliased, all_append_singleton]
    rfl
  | keeps silent same =>
    rw [silent, same]
    rfl

/-- Where clashes are reported, every alias that two entities carry has been reported. If sources
are set at most in the first call, there are as many reports as clashes among the final entities,
and if sources are also added before all joins, the reports are these clashes in their order. -/
theorem warnings_agree_with_clashes (s : Settings) (warns : s.clashPolicy = .warn)
    (calls : List Call) :
    let last := (empty s).run calls
    let reports := (empty s).warned calls
    (∀ a, 2 ≤ last.entities.countP (fun e => e.aliasName = some a) →
      ∃ c ∈ reports, c.aliasName = a) ∧
    ((∀ src, Call.setSources src ∉ calls.tail) →
      reports.length = (all last.entities).length ∧
      (SourcesFirst calls → reports = all last.entities)) := by
  intro last reports
  constructor
  · intro a twice
    have start : Reported (empty s).entities [] := fun a twice => by contradiction
    rw [← count_aliases] at twice
    exact reported_run warns start calls a twice
  · intro added
    cases calls with
    | nil => exact ⟨rfl, fun _ => rfl⟩
    | cons c rest =>
      -- The first call may set the sources, as there are no joins yet; the others only add.
      have warns' := warns_step (q := empty s) warns c
      have first := all_first_step warns c
      have split : reports = all ((empty s).step c).entities ++ ((empty s).step c).warned rest := by
        rw [first]
        exact warned_cons (empty s) c rest
      refine ⟨?_, fun ordered => ?_⟩
      · rw [split, List.length_append]
        exact (length_all_run warns' added).symm
      · have joinless := joinless_step (q := empty s) ordered (.inl rfl)
        rw [split]
        exact (all_run warns' added (List.pairwise_cons.1 ordered).2 joinless).symm

theorem warnings_agree_with_clashes_of_repeated_aliases :
    let calls := [Call.setSources (.several [⟨"Robots", some "r"⟩, ⟨"Parts", some "r"⟩]),
      .addSource ⟨"Users", some "u"⟩, .setColumns (.text "r.id"),
      .addJoin (.ofName "Logs" (some "u.id = r.owner") (some "r") none)]
    let last := (empty {}).run calls
    let reports := (empty {}).warned calls
    ({} : Settings).clashPolicy = .warn ∧
      2 ≤ last.entities.countP (fun e => e.aliasName = some "r") ∧
      (∃ c ∈ reports, c.aliasName = "r") ∧ (∀ src, Call.setSources src ∉ calls.tail) ∧
      SourcesFirst calls ∧ reports = all last.entities ∧
      reports = [⟨"r", "Robots", "Parts"⟩, ⟨"r", "Robots", "Logs"⟩] := by
  intro calls last reports
  have added : ∀ src, Call.setSources src ∉ calls.tail := by simp [calls]
  have ordered : SourcesFirst calls := by simp [SourcesFirst, calls]
  have twice : 2 ≤ last.entities.countP (fun e => e.aliasName = some "r") := by decide
  have agree := warnings_agree_with_clashes {} rfl calls
  exact ⟨rfl, twice, agree.1 "r" twice, added, ordered, (agree.2 added).2 ordered, by decide⟩

/-- A source that is added behind a join changes the order, as it comes before the join. -/
example :
    let calls := [Call.addSource ⟨"Robots", some "r"⟩,
      .addJoin (.ofName "Parts" none (some "r") none), .addSource ⟨"Users", some "r"⟩]
    (empty {}).warned calls = [⟨"r", "Robots", "Parts"⟩, ⟨"r", "Robots", "Users"⟩] ∧
      all ((empty {}).run calls).entities =
        [⟨"r", "Robots", "Users"⟩, ⟨"r", "Robots", "Parts"⟩] := by decide

end Select
end QueryBuilder
