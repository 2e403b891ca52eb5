import QueryBuilder.Proofs.AliasClash
import QueryBuilder.Proofs.Select.Part
import QueryBuilder.Proofs.Select.Text

/-! The policy for repeated aliases. It decides whether a query in which an alias is repeated is
rendered, and nothing else: under either policy a run of calls ends in the same query.
-/
namespace QueryBuilder
open AliasClash

namespace Select

/-- The same query with another policy for repeated aliases. -/
def under (p : ClashPolicy) (q : Select) : Select :=
  { q with settings := { q.settings with clashPolicy := p } }

theorem agree_under (p : ClashPolicy) (q : Select) (part : Part) : (q.under p).Agree q part := by
  cases part <;> rfl

theorem apply_under (p : ClashPolicy) (q : Select) (c : Call) :
    ((q.under p).apply c).map (fun _ => ()) = (q.apply c).map (fun _ => ()) :=
  (agree_under p q c.part).step.1

theorem step_under (p : ClashPolicy) (q : Select) (c : Call) :
    (q.under p).step c = (q.step c).under p := by
  have settings : ((q.under p).step c).settings = ((q.step c).under p).settings := by
    rw [settings_step, under, under, settings_step]
  refine eq_of_agree settings fun part => ?_
  have after : ((q.under p).step c).Agree (q.step c) part := by
    by_cases own : c.part = part
    · subst own
      exact (agree_under p q c.part).step.2
    · have before := (agree_step_of_ne (q.under p) own).trans (agree_under p q part)
      exact before.trans (agree_step_of_ne q own).symm
  exact after.trans (agree_under p (q.step c) part).symm

theorem run_under (p : ClashPolicy) (q : Select) (calls : List Call) :
    (q.under p).run calls = (q.run calls).under p ∧
      (q.under p).outcomes calls = q.outcomes calls := by
  induction calls generalizing q with
  | nil => exact ⟨rfl, rfl⟩
  | cons c rest ih =>
    obtain ⟨final, results⟩ := ih (q.step c)
    rw [run_cons, run_cons, outcomes, outcomes, step_under, apply_under, final, results]
    exact ⟨rfl, rfl⟩

theorem render_of_checkedSources {q : Select} {e : QueryError}
    (refused : q.checkedSources = .error e) : q.render = .error e := by
  rw [render_eq_spelled, refused]
  rfl

theorem render_under_congr {q : Select} {p p' : ClashPolicy}
    (same : (q.under p).checkedSources = (q.under p').checkedSources) :
    (q.under p).render = (q.under p').render := by
  rw [render_eq_spelled, render_eq_spelled, same]
  rfl

section
variable {q : Select} {s : Sources} (given : q.sources = some s) (named : s.isEmpty = false)
include given named

theorem checkedSources_under_warn : (q.under .warn).checkedSources = .ok s := by
  have found : q.sources.filter (fun s => !s.isEmpty) = some s := by simp [given, named]
  simp only [checkedSources, under, found]

theorem checkedSources_under_reject :
    (q.under .reject).checkedSources =
      match (all q.entities).head? with
      | some clash => .error (.aliasClash clash)
      | none => .ok s := by
  have found : (q.under .reject).sources.filter (fun s => !s.isEmpty) = some s := by
    simp [under, given, named]
  have entities : (q.under .reject).entities = q.entities := rfl
  rw [checkedSources, found, entities]
  cases (all q.entities).head? <;> rfl

theorem exists_render_under_warn : ∃ text, (q.under .warn).render = .ok text := by
  rw [render_eq_spelled, checkedSources_under_warn given named]
  exact ⟨_, rfl⟩

theorem render_under_reject :
    (q.under .reject).render =
      match (all q.entities).head? with
      | some clash => .error (.aliasClash clash)
      | none => (q.under .warn).render := by
  have checked := checkedSources_under_reject given named
  cases first : (all q.entities).head? with
  | some clash =>
    rw [first] at checked
    exact render_of_checkedSources checked
  | none =>
    rw [first] at checked
    exact render_under_congr (checked.trans (checkedSources_under_warn given named).symm)

end

theorem render_under_warn_ne (q : Select) (clash : AliasClash) :
    (q.under .warn).render ≠ .error (.aliasClash clash) := by
  cases found : q.sources.filter fun s => !s.isEmpty with
  | none =>
    have refused : (q.under .warn).checkedSources = .error .noSource := by
      simp only [checkedSources, under, found]
    rw [render_of_checkedSources refused]
    exact nofun
  | some s =>
    obtain ⟨given, named⟩ := Option.filter_eq_some_iff.1 found
    obtain ⟨text, done⟩ := exists_render_under_warn given (by simpa using named)
    rw [done]
    exact nofun

/-- The first entity with an alias owns it, and every later one is reported in its place. Where
repeated aliases are refused, the first report is all that comes of it. -/
theorem first_carrier_owns_alias :
    (∀ es : List Entity,
      (∃ ps : List Nat, ps.Pairwise (· < ·) ∧ (∀ i, i ∈ ps ↔ RepeatsAt es i) ∧
        List.Forall₂ (ClashAt es) ps (all es)) ∧
      (all es = [] ↔ (aliases es).Nodup)) ∧
    ∀ (q : Select) (calls : List Call),
      let warned := (q.under .warn).run calls
      let rejected := (q.under .reject).run calls
      rejected = warned.under .reject ∧
        (q.under .reject).outcomes calls = (q.under .warn).outcomes calls ∧
        (∀ clash, warned.render ≠ .error (.aliasClash clash)) ∧
        ∀ s, warned.sources = some s → s.isEmpty = false →
          (∃ text, warned.render = .ok text) ∧
          ((∃ e, rejected.render = .error e) ↔ ¬ (aliases warned.entities).Nodup) ∧
          rejected.render =
            match (all warned.entities).head? with
            | some clash => .error (.aliasClash clash)
            | none => warned.render := by
  refine ⟨fun es => ⟨exists_positions es, all_eq_nil_iff⟩, fun q calls => ?_⟩
  intro warned rejected
  obtain ⟨warnedEnd, warnedResults⟩ := run_under .warn q calls
  obtain ⟨rejectedEnd, rejectedResults⟩ := run_under .reject q calls
  have same : rejected = warned.under .reject := by
    rw [show rejected = _ from rejectedEnd, show warned = _ from warnedEnd]
    rfl
  have self : warned.under .warn = warned := by
    rw [show warned = _ from warnedEnd]
    rfl
  refine ⟨same, rejectedResults.trans warnedResults.symm, fun clash => ?_, fun s given named => ?_⟩
  · rw [← self]
    exact render_under_warn_ne warned clash
  · obtain ⟨text, done⟩ := exists_render_under_warn given named
    have refused := render_under_reject given named
    rw [self] at done refused
    rw [← same] at refused
    refine ⟨⟨text, done⟩, ?_, refused⟩
    rw [refused, ← all_eq_nil_iff]
    cases all warned.entities with
    | nil => simp [done]
    | cons clash rest => simp

theorem first_carrier_owns_alias_of_join :
    let calls := [Call.addSource ⟨"Robots", some "r"⟩, .addSource ⟨"Logs", none⟩,
      .addJoin (.ofName "Parts" none (some "r") none), .setPage (-1) none,
      .filter .rows (.among false "r.id" [.null] .and)]
    let sources := Sources.several [⟨"Robots", some "r"⟩, ⟨"Logs", none⟩]
    let warned := ((empty {}).under .warn).run calls
    let rejected := ((empty {}).under .reject).run calls
    warned.sources = some sources ∧ sources.isEmpty = false ∧
      warned.render = .ok ("SELECT * FROM Robots AS r, Logs INNER JOIN Parts AS r" ++
        " WHERE r.id IN (:AP0:)") ∧
      rejected.criteria = warned.criteria ∧
      rejected.render = .error (.aliasClash ⟨"r", "Robots", "Parts"⟩) := by
  intro calls sources warned rejected
  have given : warned.sources = some sources := by decide
  have first : (all warned.entities).head? = some ⟨"r", "Robots", "Parts"⟩ := by decide
  obtain ⟨same, -, -, rendered⟩ := first_carrier_owns_alias.2 (empty {}) calls
  obtain ⟨-, -, refused⟩ := rendered sources given rfl
  refine ⟨given, rfl, by decide, ?_, ?_⟩
  · rw [show rejected = _ from same]
    rfl
  · rw [show rejected.render = _ from refused, show (all _).head? = _ from first]

end Select
end QueryBuilder
