import QueryBuilder.Json.Writer
import QueryBuilder.Proofs.Json.Spelled

/-! Texts that were written. The compact text of a value spells one tree, so a reader that is run on
the text is run on that tree.
-/
namespace QueryBuilder

/-- What a written number is cut as. -/
def Number.leaf (n : Number) : Json.Leaf :=
  match Json.Numeral.scan n.chars with
  | .ok r => .number r.1
  | .error f => .brokenNumber f

namespace Json

/-- Values whose numbers are integers of 64 bits, nested at most so deep. -/
inductive Plain : Nat → Json → Prop
  | null {n : Nat} : Plain n .null
  | bool {n : Nat} (b : Bool) : Plain n (.bool b)
  | int {n : Nat} {i : Int} (h : Numeral.Fits i) : Plain n (.number (.int i))
  | text {n : Nat} (s : String) : Plain n (.text s)
  | array {n : Nat} {items : List Json} (h : ∀ j ∈ items, Plain n j) : Plain (n + 1) (.array items)
  | object {n : Nat} {members : List (String × Json)} (h : ∀ m ∈ members, Plain n m.2) :
    Plain (n + 1) (.object members)

mutual
/-- The tree of the text that is written for a value. -/
def tree : Json → Tree
  | .null => .leaf .null
  | .bool b => .leaf (.bool b)
  | .number n => .leaf n.leaf
  | .text s => .leaf (.text (.ofText s))
  | .array items => .array (itemTrees items) none
  | .object members => .object (memberTrees members) .closed

def itemTrees : List Json → List Tree
  | [] => []
  | j :: rest => j.tree :: itemTrees rest

def memberTrees : List (String × Json) → List (Literal × Tree)
  | [] => []
  | (k, j) :: rest => (.ofText k, j.tree) :: memberTrees rest
end

theorem itemTrees_eq_map (items : List Json) : itemTrees items = items.map tree := by
  induction items with
  | nil => rfl
  | cons j rest ih => rw [itemTrees, ih, List.map_cons]

theorem memberTrees_eq_map (members : List (String × Json)) :
    memberTrees members = members.map fun m => (.ofText m.1, m.2.tree) := by
  induction members with
  | nil => rfl
  | cons m rest ih => rw [memberTrees, ih, List.map_cons]

theorem leaf_int (i : Int) : (Number.int i).leaf = .number (.ofInt i) := by
  have scanned := Numeral.scan_append (Numeral.spelled_int i) Numeral.stops_nil
  rw [List.append_nil] at scanned
  rw [Number.leaf, scanned]

/-- The compact text of a value is one of the texts of its tree. -/
theorem Plain.spelled {n : Nat} {j : Json} (h : Plain n j) : Spelled j.chars j.tree := by
  induction h with
  | null => exact .null
  | bool b =>
    cases b with
    | true => exact .yes
    | false => exact .no
  | @int _ i _ =>
    rw [chars, tree, leaf_int]
    exact .number (Numeral.spelled_int i)
  | text s => exact .text (Literal.spelled_text s.toList)
  | @array _ items _ ih =>
    let text (j : Json) : List Char × Tree := (j.chars, j.tree)
    have spelled := @Spelled.array (items.map text) (List.forall_mem_map.mpr ih)
    rw [List.map_map, List.map_map] at spelled
    rw [chars, itemTexts_eq_map, tree, itemTrees_eq_map]
    exact spelled
  | @object _ members _ ih =>
    let text (m : String × Json) : MemberText := .written m.1 m.2.chars m.2.tree
    have named : ∀ m ∈ members, (text m).Named := fun m _ => MemberText.named_written ..
    have spelled := Spelled.object (List.forall_mem_map.mpr named) (List.forall_mem_map.mpr ih)
    have texts : (MemberText.chars ∘ text) = fun m => textChars m.1 ++ ':' :: chars m.2 := by
      funext m
      simp [text, MemberText.written, MemberText.chars, textChars]
    rw [List.map_map, List.map_map, texts] at spelled
    rw [chars, memberTexts_eq_map, tree, memberTrees_eq_map]
    exact spelled

theorem Plain.run_compact {α : Type} {n : Nat} {j : Json} (h : Plain n j) (r : Reader α) :
    r.run j.compact = r depthLimit j.tree := by
  have spelled : Spelled j.compact.toList j.tree := by
    rw [compact, String.toList_ofList]
    exact h.spelled
  exact spelled.run r

end Json
end QueryBuilder
