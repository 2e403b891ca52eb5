import Mathlib.Data.List.Infix
import QueryBuilder.Condition

/-! The printed text of a condition fixes its tree. A printed side of a connective is balanced, so
the parenthesis that closes it is the first one that closes more than the side opened.
-/
namespace QueryBuilder

namespace Text

/-- No prefix closes more parentheses than it opens, and the whole opens as many as it closes. -/
structure Balanced (cs : List Char) : Prop where
  close_le_open : ∀ p ∈ cs.inits, p.count ')' ≤ p.count '('
  open_eq_close : cs.count '(' = cs.count ')'

instance (cs : List Char) : Decidable (Balanced cs) :=
  decidable_of_iff ((∀ p ∈ cs.inits, p.count ')' ≤ p.count '(') ∧ cs.count '(' = cs.count ')')
    ⟨fun h => ⟨h.1, h.2⟩, fun h => ⟨h.1, h.2⟩⟩

namespace Balanced

theorem close_le {cs p : List Char} (h : Balanced cs) (hp : p <+: cs) :
    p.count ')' ≤ p.count '(' :=
  h.close_le_open p ((List.mem_inits p cs).2 hp)

theorem append {a b : List Char} (ha : Balanced a) (hb : Balanced b) : Balanced (a ++ b) := by
  constructor
  · intro p member
    obtain ⟨rest, split⟩ := (List.mem_inits p _).1 member
    rcases List.append_eq_append_iff.1 split with ⟨t, left, _⟩ | ⟨t, right, tail⟩
    · exact ha.close_le ⟨t, left.symm⟩
    · have inside := hb.close_le ⟨rest, tail.symm⟩
      have whole := ha.open_eq_close
      rw [right, List.count_append, List.count_append]
      omega
  · rw [List.count_append, List.count_append, ha.open_eq_close, hb.open_eq_close]

theorem enclosed {a : List Char} (ha : Balanced a) : Balanced ('(' :: (a ++ [')'])) := by
  have whole := ha.open_eq_close
  constructor
  · intro p member
    obtain ⟨rest, split⟩ := (List.mem_inits p _).1 member
    cases p with
    | nil => simp
    | cons c p =>
      obtain ⟨rfl, behind⟩ := List.cons.inj split
      rcases List.append_eq_append_iff.1 behind with ⟨t, left, _⟩ | ⟨t, right, tail⟩
      · have inside := ha.close_le ⟨t, left.symm⟩
        simp only [List.count_cons_self, List.count_cons_of_ne (by decide : '(' ≠ ')')]
        omega
      · -- At most the closing parenthesis itself stands behind the side.
        have short : t.count ')' ≤ 1 := by
          have := congrArg (List.count ')') tail
          rw [List.count_append] at this
          simp only [List.count_singleton_self] at this
          omega
        simp only [right, List.count_cons_self, List.count_cons_of_ne (by decide : '(' ≠ ')'),
          List.count_append]
        omega
  · simp only [List.count_cons_self, List.count_append,
      List.count_cons_of_ne (by decide : '(' ≠ ')'),
      List.count_cons_of_ne (by decide : ')' ≠ '('), List.count_nil]
    omega

/-- A balanced text in front of a closing parenthesis goes no further than another one. -/
private theorem not_append_close {a b t : List Char} (ha : Balanced a) (hb : Balanced b)
    (h : b = a ++ ')' :: t) : False := by
  have inside := hb.close_le (p := a ++ [')']) ⟨t, by simp [h]⟩
  have whole := ha.open_eq_close
  simp only [List.count_append, List.count_singleton_self,
    List.count_cons_of_ne (by decide : ')' ≠ '('), List.count_nil] at inside
  omega

theorem eq_of_append_close {a b r s : List Char} (ha : Balanced a) (hb : Balanced b)
    (h : a ++ ')' :: r = b ++ ')' :: s) : a = b ∧ r = s := by
  rcases List.append_eq_append_iff.1 h with ⟨t, longer, rest⟩ | ⟨t, longer, rest⟩
  · cases t with
    | nil => exact ⟨by simpa using longer.symm, by simpa using rest⟩
    | cons c t =>
      obtain ⟨rfl, _⟩ := List.cons.inj rest
      exact (not_append_close ha hb longer).elim
  · cases t with
    | nil => exact ⟨by simpa using longer, by simpa using rest.symm⟩
    | cons c t =>
      obtain ⟨rfl, _⟩ := List.cons.inj rest
      exact (not_append_close hb ha longer).elim

end Balanced

/-- A text that may stand between parentheses without being taken for more than one text. -/
structure SelfContained (s : String) : Prop where
  balanced : Balanced s.toList
  not_open : s.toList.head? ≠ some '('

instance (s : String) : Decidable (SelfContained s) :=
  decidable_of_iff (Balanced s.toList ∧ s.toList.head? ≠ some '(')
    ⟨fun h => ⟨h.1, h.2⟩, fun h => ⟨h.1, h.2⟩⟩

end Text

namespace Condition
open Text

/-- The texts of a condition from left to right. -/
def leaves : Condition → List String
  | .leaf text => [text]
  | .combine l _ r => l.leaves ++ r.leaves

theorem toList_render_combine (l r : Condition) (op : Connective) :
    (combine l op r).render.toList =
      '(' :: (l.render.toList ++ ')' :: ' ' :: (op.keyword.toList ++ ' ' :: '(' ::
        (r.render.toList ++ [')']))) := by
  simp [render]

theorem balanced_keyword (op : Connective) : Balanced (' ' :: (op.keyword.toList ++ [' '])) := by
  cases op <;> decide

theorem balanced_render {c : Condition} (h : ∀ t ∈ c.leaves, Balanced t.toList) :
    Balanced c.render.toList := by
  induction c with
  | leaf text => exact h text (by simp [leaves])
  | combine l op r ihl ihr =>
    have left := (ihl fun t ht => h t (by simp [leaves, ht])).enclosed
    have right := (ihr fun t ht => h t (by simp [leaves, ht])).enclosed
    have joined := (left.append (balanced_keyword op)).append right
    rw [toList_render_combine]
    simpa using joined

/-- What stands between two sides tells the connective and where the right side begins. -/
private theorem connective_of_rest {op op' : Connective} {r r' : List Char}
    (h : ' ' :: (op.keyword.toList ++ ' ' :: '(' :: (r ++ [')'])) =
      ' ' :: (op'.keyword.toList ++ ' ' :: '(' :: (r' ++ [')']))) : op = op' ∧ r = r' := by
  cases op <;> cases op' <;> simp [Connective.keyword] at h
  all_goals exact ⟨rfl, h⟩

theorem render_leaf_ne_combine {text : String} (h : SelfContained text) (l r : Condition)
    (op : Connective) : (leaf text).render ≠ (combine l op r).render := by
  intro same
  have chars := congrArg String.toList same
  rw [toList_render_combine] at chars
  exact h.not_open (by rw [show text.toList = _ from chars]; rfl)

/-- Conditions of texts that are balanced and do not begin with a parenthesis are told apart by
their printed texts, however they are nested. -/
theorem render_injective_of_selfContained {a b : Condition}
    (ha : ∀ t ∈ a.leaves, SelfContained t) (hb : ∀ t ∈ b.leaves, SelfContained t)
    (same : a.render = b.render) : a = b := by
  induction a generalizing b with
  | leaf text =>
    cases b with
    | leaf text' => exact congrArg leaf same
    | combine l op r => exact (render_leaf_ne_combine (ha text (by simp [leaves])) l r op same).elim
  | combine l op r ihl ihr =>
    cases b with
    | leaf text =>
      exact (render_leaf_ne_combine (hb text (by simp [leaves])) l r op same.symm).elim
    | combine l' op' r' =>
      have left : ∀ t ∈ l.leaves, SelfContained t := fun t ht => ha t (by simp [leaves, ht])
      have left' : ∀ t ∈ l'.leaves, SelfContained t := fun t ht => hb t (by simp [leaves, ht])
      have chars := congrArg String.toList same
      rw [toList_render_combine, toList_render_combine] at chars
      obtain ⟨sameLeft, rest⟩ := Balanced.eq_of_append_close
        (balanced_render fun t ht => (left t ht).balanced)
        (balanced_render fun t ht => (left' t ht).balanced) (List.cons.inj chars).2
      obtain ⟨sameOp, sameRight⟩ := connective_of_rest rest
      have hl : l = l' := ihl left left' (String.toList_inj.1 sameLeft)
      have hr : r = r' := ihr (fun t ht => ha t (by simp [leaves, ht]))
        (fun t ht => hb t (by simp [leaves, ht])) (String.toList_inj.1 sameRight)
      rw [hl, sameOp, hr]

theorem render_injective_right_nested :
    let c := combine (leaf "x OR y") .and (combine (leaf "id IN (:AP0:, :AP1:)") .or (leaf ""))
    let d := combine (leaf "x OR y") .and (extend (some (leaf "id IN (:AP0:, :AP1:)")) .or "")
    (∀ t ∈ c.leaves, SelfContained t) ∧ (∀ t ∈ d.leaves, SelfContained t) ∧
      c.render = "(x OR y) AND ((id IN (:AP0:, :AP1:)) OR ())" ∧ c.render = d.render ∧ c = d :=
  ⟨by decide, by decide, by decide, by decide,
    render_injective_of_selfContained (by decide) (by decide) (by decide)⟩

/-- A text that begins with a parenthesis can pass for a nested condition. -/
example : (leaf "(x) OR (y)").render = (combine (leaf "x") .or (leaf "y")).render := by decide

end Condition
end QueryBuilder
