import Mathlib.Data.List.DropRight
import QueryBuilder.Clause

/-! A clause has nothing to print just when its printed text is blank, and blank items among the
items of a clause do not show.
-/
namespace QueryBuilder

/-- A text without the white space at its ends. -/
def Text.trim (s : String) : String := .ofList ((s.toList.dropWhile isSpace).rdropWhile isSpace)

theorem Text.trim_eq_empty_iff {s : String} : trim s = "" ↔ isBlank s = true := by
  have same : trim s = "" ↔ ∀ c ∈ s.toList.dropWhile isSpace, isSpace c = true := by
    rw [trim, String.ofList_eq_empty_iff, List.rdropWhile_eq_nil_iff]
  rw [same, isBlank, List.all_eq_true]
  constructor
  · intro rest c member
    -- What is dropped at the front is white space anyway.
    rw [← List.takeWhile_append_dropWhile (p := isSpace) (l := s.toList)] at member
    rcases List.mem_append.1 member with front | back
    · exact List.mem_takeWhile_imp front
    · exact rest c back
  · intro all c member
    exact all c (List.dropWhile_subset _ member)

theorem Text.isBlank_intercalate {sep : String} {xs : List String}
    (filled : ∀ x ∈ xs, isBlank x = false) : isBlank (sep.intercalate xs) = xs.isEmpty := by
  cases xs with
  | nil => rfl
  | cons x rest =>
    have first : isBlank x = false := filled x (by simp)
    cases rest with
    | nil => simpa using first
    | cons y rest => simp [first]

namespace Clause

theorem isBlank_render (c : Clause) : Text.isBlank c.render = c.isEmpty := by
  cases c with
  | text s => rfl
  | items xs =>
    have filled : ∀ x ∈ xs.filter (fun s => !Text.isBlank s), Text.isBlank x = false := by
      intro x member
      simpa using (List.mem_filter.1 member).2
    rw [render, Text.isBlank_intercalate filled, isEmpty, Bool.eq_iff_iff]
    simp

/-- What is printed for a clause is its text, if it is set and that is not blank. -/
theorem printed?_eq_some_iff {c : Option Clause} {text : String} :
    printed? c = some text ↔
      ∃ clause, c = some clause ∧ clause.render = text ∧ Text.isBlank text = false := by
  constructor
  · intro printed
    obtain ⟨clause, kept, rfl⟩ := Option.map_eq_some_iff.1 printed
    obtain ⟨set, filled⟩ := Option.filter_eq_some_iff.1 kept
    exact ⟨clause, set, rfl, by simpa [isBlank_render] using filled⟩
  · rintro ⟨clause, rfl, rfl, filled⟩
    rw [isBlank_render] at filled
    simp [printed?, filled]

theorem printed?_eq_none_iff {c : Option Clause} :
    printed? c = none ↔
      c = none ∨ ∃ clause, c = some clause ∧ Text.isBlank clause.render = true := by
  cases c with
  | none => simp [printed?]
  | some clause => simp [printed?, isBlank_render]

theorem not_isBlank_of_printed? {c : Option Clause} {text : String}
    (printed : printed? c = some text) : Text.isBlank text = false := by
  obtain ⟨clause, -, -, filled⟩ := printed?_eq_some_iff.1 printed
  exact filled

/-- The second list is the first one with blank items put in, any number in any place. -/
inductive Padded : List String → List String → Prop
  | nil : Padded [] []
  | item (x : String) {xs ys : List String} (rest : Padded xs ys) : Padded (x :: xs) (x :: ys)
  | blank {x : String} {xs ys : List String} (blank : Text.isBlank x = true)
      (rest : Padded xs ys) : Padded xs (x :: ys)

theorem Padded.filter_eq {xs ys : List String} (h : Padded xs ys) :
    xs.filter (fun s => !Text.isBlank s) = ys.filter fun s => !Text.isBlank s := by
  induction h with
  | nil => rfl
  | item x rest ih => rw [List.filter_cons, List.filter_cons, ih]
  | blank blank rest ih => rw [List.filter_cons_of_neg (by simpa using blank), ih]

theorem padded_filter (xs : List String) : Padded (xs.filter fun s => !Text.isBlank s) xs := by
  induction xs with
  | nil => exact .nil
  | cons x rest ih =>
    cases filled : Text.isBlank x with
    | true =>
      rw [List.filter_cons_of_neg (by simpa using filled)]
      exact .blank filled ih
    | false =>
      rw [List.filter_cons_of_pos (by simpa using filled)]
      exact .item x ih

theorem Padded.render_eq {xs ys : List String} (h : Padded xs ys) :
    (items xs).render = (items ys).render := by
  rw [render, render, h.filter_eq]

theorem Padded.isEmpty_eq {xs ys : List String} (h : Padded xs ys) :
    (items xs).isEmpty = (items ys).isEmpty := by
  rw [← isBlank_render, ← isBlank_render, h.render_eq]

end Clause
end QueryBuilder
