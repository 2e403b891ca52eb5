import QueryBuilder.Definition
import QueryBuilder.Proofs.Clause
import QueryBuilder.Proofs.Select.Edit
import QueryBuilder.Proofs.Select.Text

/-! Blank texts behind the keywords of a query. A single source, a join condition and a clause are
not printed where they are blank; the names of a list of sources and the texts of the two conditions
are printed as they come.
-/
namespace QueryBuilder
open Param Text

/-- The texts of a call that are printed as they come. -/
def Call.unchecked : Call → List String
  | .setSources (.several es) => es.map Entity.name
  | .addSource e => [e.name]
  | .filter _ (.reset text _) => [text]
  | .filter _ (.extend _ text _) => [text]
  | _ => []

theorem Edit.isBlank_textOver {f : Filter} {e : Edit}
    (given : ∀ t ∈ (Call.filter f e).unchecked, isBlank t = false) (placeholders : List String) :
    isBlank (e.textOver placeholders) = false := by
  cases e with
  | reset text bind => exact given text (by simp [Call.unchecked])
  | extend op text bind => exact given text (by simp [Call.unchecked])
  | between negated expr low high op =>
    have keyword : isBlank (if negated then " NOT BETWEEN " else " BETWEEN ") = false := by
      cases negated <;> decide
    simp [textOver, keyword]
  | among negated expr values op =>
    have keyword : isBlank (if negated then " NOT IN (" else " IN (") = false := by
      cases negated <;> decide
    simp [textOver, keyword]

/-- No name in a list of sources is blank. A blank single name is no source at all. -/
def Sources.Named : Sources → Prop
  | .single _ => True
  | .several es => ∀ e ∈ es, isBlank e.name = false

theorem Sources.named_push {s : Sources} (h : s.Named) {e : Entity}
    (given : isBlank e.name = false) : (s.push e).Named := by
  cases s with
  | single name =>
    by_cases blank : isBlank name = true
    · rw [push, if_pos blank]
      intro x member
      rw [List.mem_singleton.1 member]
      exact given
    · rw [push, if_neg blank]
      intro x member
      rcases List.mem_pair.1 member with rfl | rfl
      · simpa using blank
      · exact given
  | several es =>
    intro x member
    rcases List.mem_append.1 member with old | new
    · exact h x old
    · rw [List.mem_singleton.1 new]
      exact given

theorem Sources.not_isBlank_of_named {s : Sources} (h : s.Named) (present : s.isEmpty = false) :
    ∀ e ∈ s.entities, isBlank e.name = false := by
  cases s with
  | single name =>
    intro e member
    rw [List.mem_singleton.1 member]
    exact present
  | several es => exact h

namespace Select

/-- The texts that stand behind the keywords of a query: names of sources, join conditions, texts of
the two conditions, and the two clauses. -/
def bodies (q : Select) : List String :=
  (q.sources.elim [] Sources.entities).map Entity.name ++
    q.joins.filterMap Join.printedCondition? ++ q.criteria.texts .rows ++
    (Clause.printed? q.groupBy).toList ++ q.criteria.texts .groups ++
    (Clause.printed? q.orderBy).toList

/-- No name in a list of sources and no text of a condition is blank. -/
structure Filled (q : Select) : Prop where
  sources : ∀ s, q.sources = some s → s.Named
  texts : ∀ f, ∀ t ∈ q.criteria.texts f, isBlank t = false

theorem filled_empty (s : Settings) : (empty s).Filled := by
  constructor
  · intro src held
    contradiction
  · intro f t member
    cases f <;> contradiction

theorem named_step {q : Select} (h : q.Filled) {c : Call}
    (given : ∀ t ∈ c.unchecked, isBlank t = false) :
    ∀ s, (q.step c).sources = some s → s.Named := by
  intro s held
  rw [sources_step] at held
  cases c with
  | setSources new =>
    obtain rfl := Option.some.inj held
    cases new with
    | single name => trivial
    | several es =>
      intro e member
      exact given e.name (List.mem_map_of_mem member)
  | addSource e =>
    have named : isBlank e.name = false := given e.name (List.mem_singleton_self _)
    obtain rfl := Option.some.inj held
    cases old : q.sources with
    | none =>
      intro x member
      rw [List.mem_singleton.1 member]
      exact named
    | some src => exact Sources.named_push (h.sources src old) named
  | _ => exact h.sources s held

theorem texts_filled_step {q : Select} (h : q.Filled) {c : Call}
    (given : ∀ t ∈ c.unchecked, isBlank t = false) (f : Filter) :
    ∀ t ∈ (q.step c).criteria.texts f, isBlank t = false := by
  intro t member
  rw [criteria_step] at member
  cases c with
  | filter g e =>
    simp only [Criteria.step] at member
    cases added : q.criteria.addition e with
    | error reason =>
      rw [added] at member
      exact h.texts f t member
    | ok a =>
      rw [added] at member
      by_cases same : f = g
      · subst same
        rw [Criteria.texts_after] at member
        rcases List.mem_append.1 member with old | new
        · split at old
          · contradiction
          · exact h.texts f t old
        · rw [List.mem_singleton.1 new, (Criteria.addition_eq_ok added).1]
          exact Edit.isBlank_textOver given _
      · rw [Criteria.texts, Criteria.condition_after_of_ne _ _ _ _ same] at member
        exact h.texts f t member
  | _ => exact h.texts f t (by cases f <;> exact member)

theorem filled_run {q : Select} (h : q.Filled) {calls : List Call}
    (given : ∀ c ∈ calls, ∀ t ∈ c.unchecked, isBlank t = false) : (q.run calls).Filled := by
  induction calls generalizing q with
  | nil => exact h
  | cons c rest ih =>
    have first := given c (List.mem_cons_self ..)
    have next : (q.step c).Filled := ⟨named_step h first, texts_filled_step h first⟩
    exact ih next fun d member => given d (List.mem_cons_of_mem c member)

/-- Where no call brings a blank name in a list of sources or a blank condition, nothing blank
stands behind a keyword of the text. The calls of a definition may come first. -/
theorem bodies_not_blank (s : Settings) {pre calls : List Call} {start : Select}
    (built : (empty s).build pre = .ok start)
    (given : ∀ c ∈ pre ++ calls, ∀ t ∈ c.unchecked, isBlank t = false) {text : String}
    (rendered : (start.run calls).render = .ok text) :
    (∀ b ∈ (start.run calls).bodies, isBlank b = false) ∧
      ∃ src, (start.run calls).sources = some src ∧ text = (start.run calls).spelled src := by
  have whole : start.run calls = (empty s).run (pre ++ calls) := by
    rw [run_append, run_of_build built]
  have filled := filled_run (filled_empty s) given
  rw [← whole] at filled
  obtain ⟨src, -, held, present, printed⟩ := exists_sources_of_render rendered
  refine ⟨fun b member => ?_, src, held, printed⟩
  simp only [bodies, held, List.mem_append, Option.mem_toList, List.mem_map, List.mem_filterMap]
    at member
  rcases member with ((((name | joined) | rows) | grouped) | groups) | ordered
  · obtain ⟨e, named, rfl⟩ := name
    exact Sources.not_isBlank_of_named (filled.sources src held) present e named
  · obtain ⟨j, _, printed⟩ := joined
    simpa using (Option.filter_eq_some_iff.1 printed).2
  · exact filled.texts .rows b rows
  · exact Clause.not_isBlank_of_printed? grouped
  · exact filled.texts .groups b groups
  · exact Clause.not_isBlank_of_printed? ordered

theorem bodies_not_blank_of_definition :
    let d : Definition := {
      models := some (.several [⟨"Robots", some "r"⟩])
      joins := [⟨"Parts", some " ", none, none⟩]
      group := some (.items ["", "r.type"])
      having := some "n > 1" }
    let calls := [Call.filter .rows (.among false "r.id" [.null] .and), .addSource ⟨"Users", none⟩]
    let start := (empty {}).run d.calls
    let text := "SELECT * FROM Robots AS r, Users INNER JOIN Parts" ++
      " WHERE r.id IN (:AP0:) GROUP BY r.type HAVING n > 1"
    (empty {}).build d.calls = .ok start ∧
      (∀ c ∈ d.calls ++ calls, ∀ t ∈ c.unchecked, isBlank t = false) ∧
      (start.run calls).render = .ok text ∧
      (start.run calls).bodies = ["Robots", "Users", "r.id IN (:AP0:)", "r.type", "n > 1"] ∧
      (∀ b ∈ (start.run calls).bodies, isBlank b = false) ∧
      ∃ src, (start.run calls).sources = some src ∧ text = (start.run calls).spelled src := by
  intro d calls start text
  have built : (empty {}).build d.calls = .ok start := rfl
  have given : ∀ c ∈ d.calls ++ calls, ∀ t ∈ c.unchecked, isBlank t = false := by decide
  have rendered : (start.run calls).render = .ok text := by decide
  exact ⟨built, given, rendered, by decide, bodies_not_blank {} built given rendered⟩

/-- A blank name in a list of sources is printed, and so is a blank condition. -/
theorem blank_bodies_rendered :
    let unnamed := (empty {}).run [.setSources (.several [⟨"", none⟩])]
    let unfiltered :=
      (empty {}).run [.setSources (.single "Robots"), .filter .rows (.reset "" none)]
    unnamed.render = .ok "SELECT * FROM " ∧ unfiltered.render = .ok "SELECT * FROM Robots WHERE " ∧
      (∃ b ∈ unnamed.bodies, isBlank b = true) ∧ ∃ b ∈ unfiltered.bodies, isBlank b = true := by
  decide

end Select
end QueryBuilder
