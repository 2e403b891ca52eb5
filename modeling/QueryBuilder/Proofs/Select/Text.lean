import QueryBuilder.Select.Outline

/-! The text of a query, written out: the words that stand in it, and what each of them leads. The
clauses stand in a frame of texts that do not depend on them.
-/
namespace QueryBuilder

/-- A body behind the words that lead it, if there is a body. -/
def behind (lead : String) (body : Option String) : String := body.elim "" fun b => lead ++ b

/-- The texts around the clauses of a query, from left to right. -/
structure Frame where
  front : String
  between : String
  middle : String
  rear : String

/-- The text of a query with the columns and the other clauses in their places. -/
def Frame.text (frame : Frame) (columns : String) (groupBy orderBy : Option String) : String :=
  "SELECT " ++ frame.front ++ columns ++ frame.between ++ behind " GROUP BY " groupBy ++
    frame.middle ++ behind " ORDER BY " orderBy ++ frame.rear

theorem Outline.part_eq_behind (keyword : String) (body : Option String) :
    part keyword body = behind (" " ++ keyword ++ " ") body := by
  cases body <;> rfl

theorem Join.render_eq_behind (escape : Bool) (j : Join) :
    " " ++ j.render escape = " " ++ j.kind.keyword ++ " JOIN " ++ j.entity.render escape ++
      behind " ON " j.printedCondition? := by
  simp only [render, behind, String.append_assoc]

namespace Select

/-- The texts around the clauses of a query that reads from these sources. -/
def frame (q : Select) (s : Sources) : Frame where
  front := q.distinct.elim "" fun d => if d then "DISTINCT " else "ALL "
  between := " FROM " ++ s.render q.settings.escape ++
    String.join (q.joins.map fun j =>
      " " ++ j.kind.keyword ++ " JOIN " ++ j.entity.render q.settings.escape ++
        behind " ON " j.printedCondition?) ++
    behind " WHERE " (q.criteria.rows.map Condition.render)
  middle := behind " HAVING " (q.criteria.groups.map Condition.render)
  rear := behind " " q.page.printed? ++ if q.forUpdate then " FOR UPDATE" else ""

/-- The text of a query that reads from these sources. -/
def spelled (q : Select) (s : Sources) : String :=
  (q.frame s).text ((Clause.printed? q.columns).getD q.settings.defaultColumns)
    (Clause.printed? q.groupBy) (Clause.printed? q.orderBy)

theorem render_eq_spelled (q : Select) : q.render = q.checkedSources.map q.spelled := by
  rw [render, outline]
  cases q.checkedSources with
  | error e => rfl
  | ok s =>
    have quantifier : ((q.distinct.map fun d => if d then "DISTINCT" else "ALL").elim ""
        fun w => w ++ " ") = q.distinct.elim "" fun d => if d then "DISTINCT " else "ALL " := by
      rcases q.distinct with _ | _ | _ <;> rfl
    refine congrArg Except.ok ?_
    unfold Outline.text spelled Frame.text frame
    simp only [Outline.part_eq_behind, quantifier, List.map_map, Function.comp_def,
      Join.render_eq_behind, String.append_assoc]
    rfl

theorem sources_of_checkedSources {q : Select} {s : Sources} (checked : q.checkedSources = .ok s) :
    q.sources = some s ∧ s.isEmpty = false := by
  unfold checkedSources at checked
  split at checked
  · contradiction
  · next held =>
    obtain ⟨given, named⟩ := Option.filter_eq_some_iff.1 held
    split at checked
    · contradiction
    · obtain rfl := Except.ok.inj checked
      exact ⟨given, by simpa using named⟩

/-- A text that is rendered is the one written out, over sources that name something. -/
theorem exists_sources_of_render {q : Select} {text : String} (rendered : q.render = .ok text) :
    ∃ s, q.checkedSources = .ok s ∧ q.sources = some s ∧ s.isEmpty = false ∧
      text = q.spelled s := by
  rw [render_eq_spelled] at rendered
  cases checked : q.checkedSources with
  | error e =>
    rw [checked] at rendered
    contradiction
  | ok s =>
    rw [checked] at rendered
    obtain ⟨given, named⟩ := sources_of_checkedSources checked
    exact ⟨s, rfl, given, named, (Except.ok.inj rendered).symm⟩

end Select
end QueryBuilder
