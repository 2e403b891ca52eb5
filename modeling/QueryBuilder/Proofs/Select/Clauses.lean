import QueryBuilder.Proofs.Clause
import QueryBuilder.Proofs.Select.Text

/-! Clauses in the text of a query. Each stands in its place among texts that do not depend on the
clauses; one that is unset or blank leaves its place to the default columns, or to nothing.
-/
namespace QueryBuilder
open Clause

namespace Select

/-- The same query with other clauses, and with another text where no column is given. -/
def withClauses (default : String) (columns groupBy orderBy : Option Clause) (q : Select) :
    Select :=
  { q with
    settings := { q.settings with defaultColumns := default }
    columns := columns
    groupBy := groupBy
    orderBy := orderBy }

theorem exists_frame {q : Select} {text : String} (rendered : q.render = .ok text) :
    ∃ frame : Frame, ∀ default columns groupBy orderBy,
      (q.withClauses default columns groupBy orderBy).render =
        .ok (frame.text ((printed? columns).getD default) (printed? groupBy)
          (printed? orderBy)) := by
  obtain ⟨s, checked, -⟩ := exists_sources_of_render rendered
  refine ⟨q.frame s, fun default columns groupBy orderBy => ?_⟩
  -- Neither the checks before rendering nor the frame look at a clause.
  have same : (q.withClauses default columns groupBy orderBy).checkedSources = .ok s := checked
  rw [render_eq_spelled, same]
  rfl

/-- A clause is empty just when its text is blank, blank items change neither, and its text is the
other items with a comma between them. A clause that is set and not blank is printed in its place,
behind its keyword; the default columns are printed in place of columns that are unset or blank. -/
theorem clauses_printed_unless_blank :
    (∀ s, Text.isBlank s = true ↔ Text.trim s = "") ∧
      (∀ c : Clause, c.isEmpty = Text.isBlank c.render) ∧
      (∀ xs ys, Padded xs ys →
        (items xs).isEmpty = (items ys).isEmpty ∧ (items xs).render = (items ys).render) ∧
      (∀ xs, ∃ filled, (∀ x ∈ filled, Text.isBlank x = false) ∧ Padded filled xs ∧
        (items xs).render = ", ".intercalate filled) ∧
      (∀ c text, printed? c = some text ↔
        ∃ clause, c = some clause ∧ clause.render = text ∧ Text.isBlank text = false) ∧
      (∀ c, printed? c = none ↔
        c = none ∨ ∃ clause, c = some clause ∧ Text.isBlank clause.render = true) ∧
      ∀ (q : Select) (text : String), q.render = .ok text →
        ∃ frame : Frame,
          text = frame.text ((printed? q.columns).getD q.settings.defaultColumns)
            (printed? q.groupBy) (printed? q.orderBy) ∧
          ∀ default columns groupBy orderBy,
            (q.withClauses default columns groupBy orderBy).render =
              .ok (frame.text ((printed? columns).getD default) (printed? groupBy)
                (printed? orderBy)) := by
  refine ⟨fun s => Text.trim_eq_empty_iff.symm, fun c => c.isBlank_render.symm,
    fun xs ys padded => ⟨padded.isEmpty_eq, padded.render_eq⟩, fun xs => ?_,
    fun c text => printed?_eq_some_iff, fun c => printed?_eq_none_iff, fun q text rendered => ?_⟩
  · refine ⟨_, fun x member => ?_, padded_filter xs, rfl⟩
    simpa using (List.mem_filter.1 member).2
  · obtain ⟨frame, others⟩ := exists_frame rendered
    have own := others q.settings.defaultColumns q.columns q.groupBy q.orderBy
    exact ⟨frame, Except.ok.inj (rendered.symm.trans own), others⟩

theorem clauses_printed_unless_blank_of_spaces :
    let filled := ["r.type", "r.id\u00a0DESC"]
    let padded := ["\u3000", "r.type", "", " \t", "r.id\u00a0DESC"]
    let q := (empty {}).run [.setSources (.single "Robots"), .setColumns (.items [" ", "\u2003"]),
      .setGroupBy (.text "\n"), .setOrderBy (.items padded)]
    let text := "SELECT * FROM Robots ORDER BY r.type, r.id\u00a0DESC"
    Padded filled padded ∧ q.render = .ok text ∧
      (items filled).isEmpty = (items padded).isEmpty ∧
      (items filled).render = (items padded).render ∧
      ∃ frame : Frame, text = frame.text "*" none (some "r.type, r.id\u00a0DESC") ∧
        (q.withClauses "r.*" (some (.text "")) none none).render =
          .ok (frame.text "r.*" none none) := by
  intro filled padded q text
  have blanks : Padded filled padded :=
    .blank (by decide) (.item _ (.blank (by decide) (.blank (by decide) (.item _ .nil))))
  have rendered : q.render = .ok text := by decide
  obtain ⟨-, -, same, -, -, -, framed⟩ := clauses_printed_unless_blank
  obtain ⟨sameEmpty, sameText⟩ := same filled padded blanks
  obtain ⟨frame, own, others⟩ := framed q text rendered
  exact ⟨blanks, rendered, sameEmpty, sameText, frame, own,
    others "r.*" (some (.text "")) none none⟩

end Select
end QueryBuilder
