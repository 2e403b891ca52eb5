import QueryBuilder.Json.Tree

/-! Trees without faults. The tokens of such a tree, in any open containers and before any rest, are
taken up as this tree.
-/
namespace QueryBuilder.Json

namespace Tree

mutual
/-- The tokens of a tree whose containers are closed. -/
def tokens : Tree → List Token
  | .leaf l => [.leaf l]
  | .array items _ => .openArray :: [.comma].intercalate (itemTokens items) ++ [.closeArray]
  | .object members _ =>
    .openObject :: [.comma].intercalate (memberTokens members) ++ [.closeObject]

def itemTokens : List Tree → List (List Token)
  | [] => []
  | t :: rest => t.tokens :: itemTokens rest

def memberTokens : List (Literal × Tree) → List (List Token)
  | [] => []
  | (key, t) :: rest => (.leaf (.text key) :: .colon :: t.tokens) :: memberTokens rest
end

theorem itemTokens_eq_map (items : List Tree) : itemTokens items = items.map tokens := by
  induction items with
  | nil => rfl
  | cons t rest ih => rw [itemTokens, ih, List.map_cons]

def memberToken (m : Literal × Tree) : List Token := .leaf (.text m.1) :: .colon :: m.2.tokens

theorem memberTokens_eq_map (members : List (Literal × Tree)) :
    memberTokens members = members.map memberToken := by
  induction members with
  | nil => rfl
  | cons m rest ih => rw [memberTokens, ih, List.map_cons, memberToken]

inductive Closed : Tree → Prop
  | leaf (l : Leaf) : Closed (.leaf l)
  | array {items : List Tree} (h : ∀ t ∈ items, t.Closed) : Closed (.array items none)
  | object {members : List (Literal × Tree)} (h : ∀ m ∈ members, m.2.Closed) :
    Closed (.object members .closed)

end Tree

namespace Document

/-- The tokens of a tree are taken up as the tree, wherever they stand. -/
def TakenUp (t : Tree) : Prop :=
  ∀ frames ts, ofValue frames (t.tokens ++ ts) = afterValue frames t ts

theorem exists_intercalate_cons (sep x : List Token) (rest : List (List Token)) :
    ∃ more, sep.intercalate (x :: rest) = x ++ more := by
  cases rest with
  | nil => exact ⟨[], by rw [List.intercalate_singleton, List.append_nil]⟩
  | cons y rest => exact ⟨_, by rw [List.intercalate_cons_cons, List.append_assoc]⟩

theorem ofValue_openArray (frames : List Frame) (t : Tree) (rest : List Tree) (ts : List Token) :
    ofValue frames (.openArray :: ([.comma].intercalate ((t :: rest).map Tree.tokens) ++ ts)) =
      ofValue (.array [] :: frames) ([.comma].intercalate ((t :: rest).map Tree.tokens) ++ ts) := by
  obtain ⟨more, split⟩ := exists_intercalate_cons [.comma] t.tokens (rest.map Tree.tokens)
  rw [List.map_cons, split]
  -- No tree starts with the bracket that would close the array.
  cases t <;> rfl

theorem ofValue_openObject (frames : List Frame) (m : Literal × Tree)
    (rest : List (Literal × Tree)) (ts : List Token) :
    ofValue frames
        (.openObject :: ([.comma].intercalate ((m :: rest).map Tree.memberToken) ++ ts)) =
      ofKey frames [] ([.comma].intercalate ((m :: rest).map Tree.memberToken) ++ ts) := by
  obtain ⟨more, split⟩ :=
    exists_intercalate_cons [.comma] (Tree.memberToken m) (rest.map Tree.memberToken)
  rw [List.map_cons, split]
  rfl

theorem ofValue_items {t : Tree} {rest : List Tree} (h : ∀ u ∈ t :: rest, TakenUp u)
    (before : List Tree) (outer : List Frame) (ts : List Token) :
    ofValue (.array before :: outer)
        ([.comma].intercalate ((t :: rest).map Tree.tokens) ++ .closeArray :: ts) =
      afterValue outer (.array (before.reverse ++ t :: rest) none) ts := by
  induction rest generalizing t before with
  | nil =>
    have first := h t List.mem_cons_self
    rw [List.map_singleton, List.intercalate_singleton, first, afterValue, List.reverse_cons]
  | cons u rest ih =>
    have first := h t List.mem_cons_self
    have others := ih (fun v mem => h v (List.mem_cons_of_mem t mem)) (t :: before)
    rw [List.map_cons, List.map_cons, List.intercalate_cons_cons, List.append_assoc,
      List.append_assoc, first]
    rw [List.map_cons, List.reverse_cons, List.append_assoc] at others
    exact others

theorem ofKey_members {m : Literal × Tree} {rest : List (Literal × Tree)}
    (h : ∀ n ∈ m :: rest, TakenUp n.2) (before : List (Literal × Tree)) (outer : List Frame)
    (ts : List Token) :
    ofKey outer before
        ([.comma].intercalate ((m :: rest).map Tree.memberToken) ++ .closeObject :: ts) =
      afterValue outer (.object (before.reverse ++ m :: rest) .closed) ts := by
  induction rest generalizing m before with
  | nil =>
    have first := h m List.mem_cons_self
    rw [List.map_singleton, List.intercalate_singleton, Tree.memberToken, List.cons_append,
      List.cons_append, ofKey, first, afterValue, List.reverse_cons]
  | cons n rest ih =>
    have first := h m List.mem_cons_self
    have others := ih (fun k mem => h k (List.mem_cons_of_mem m mem)) (m :: before)
    rw [List.map_cons, List.map_cons, List.intercalate_cons_cons, List.append_assoc,
      List.append_assoc, Tree.memberToken, List.cons_append, List.cons_append, ofKey, first]
    rw [List.map_cons, List.reverse_cons, List.append_assoc] at others
    exact others

theorem takenUp_of_closed {t : Tree} (h : t.Closed) : TakenUp t := by
  induction h with
  | leaf l => exact fun frames ts => rfl
  | @array items _ ih =>
    intro frames ts
    rw [Tree.tokens, Tree.itemTokens_eq_map, List.cons_append, List.cons_append, List.append_assoc]
    cases items with
    | nil => rfl
    | cons t rest => exact (ofValue_openArray frames t rest _).trans (ofValue_items ih [] frames ts)
  | @object members _ ih =>
    intro frames ts
    rw [Tree.tokens, Tree.memberTokens_eq_map, List.cons_append, List.cons_append,
      List.append_assoc]
    cases members with
    | nil => rfl
    | cons m rest =>
      exact (ofValue_openObject frames m rest _).trans (ofKey_members ih [] frames ts)

end Document
end QueryBuilder.Json
