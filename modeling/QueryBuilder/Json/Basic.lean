import QueryBuilder.Decimal.Basic

/-!
JSON values. A value that was read has the keys of each object in rising order, each once; a
value that is only written may list members in any order, also with a key twice.
-/
namespace QueryBuilder

/-- An integer, or a decimal that stands for the binary number whose shortest text it is. -/
inductive Number
  | int (n : Int)
  | decimal (x : Decimal)
deriving DecidableEq, Repr

inductive Json
  | null
  | bool (b : Bool)
  | number (n : Number)
  | text (s : String)
  | array (items : List Json)
  | object (members : List (String × Json))
deriving Inhabited

namespace Json

mutual
private def decEq : (i j : Json) → Decidable (i = j)
  | .null, .null => isTrue rfl
  | .bool a, .bool b => decidable_of_iff (a = b) (by simp)
  | .number a, .number b => decidable_of_iff (a = b) (by simp)
  | .text a, .text b => decidable_of_iff (a = b) (by simp)
  | .array a, .array b => have := decEqItems a b; decidable_of_iff (a = b) (by simp)
  | .object a, .object b => have := decEqMembers a b; decidable_of_iff (a = b) (by simp)
  | .null, .bool _ | .null, .number _ | .null, .text _ | .null, .array _ | .null, .object _
  | .bool _, .null | .bool _, .number _ | .bool _, .text _ | .bool _, .array _
  | .bool _, .object _ | .number _, .null | .number _, .bool _ | .number _, .text _
  | .number _, .array _ | .number _, .object _ | .text _, .null | .text _, .bool _
  | .text _, .number _ | .text _, .array _ | .text _, .object _ | .array _, .null
  | .array _, .bool _ | .array _, .number _ | .array _, .text _ | .array _, .object _
  | .object _, .null | .object _, .bool _ | .object _, .number _ | .object _, .text _
  | .object _, .array _ => isFalse (by simp)

private def decEqItems : (i j : List Json) → Decidable (i = j)
  | [], [] => isTrue rfl
  | a :: i, b :: j =>
    have := decEq a b
    have := decEqItems i j
    decidable_of_iff (a = b ∧ i = j) (by simp)
  | [], _ :: _ | _ :: _, [] => isFalse (by simp)

private def decEqMembers : (i j : List (String × Json)) → Decidable (i = j)
  | [], [] => isTrue rfl
  | (k, a) :: i, (l, b) :: j =>
    have := decEq a b
    have := decEqMembers i j
    decidable_of_iff ((k = l ∧ a = b) ∧ i = j) (by simp)
  | [], _ :: _ | _ :: _, [] => isFalse (by simp)
end

instance : DecidableEq Json := decEq

/-- Whether a key stands before another: by code points, a shorter key before its extensions. -/
def keyBefore : List Char → List Char → Bool
  | _, [] => false
  | [], _ :: _ => true
  | a :: s, b :: t => if a = b then keyBefore s t else decide (a.toNat < b.toNat)

/-- Put a member in its place among members in rising order; an equal key takes the value. -/
def putMember (k : String) (v : Json) : List (String × Json) → List (String × Json)
  | [] => [(k, v)]
  | m :: rest =>
    if m.1 = k then (k, v) :: rest
    else if keyBefore k.toList m.1.toList then (k, v) :: m :: rest
    else m :: putMember k v rest

/-- The object of a list of members: keys in rising order, of equal keys the last value. -/
def ofMembers (members : List (String × Json)) : Json :=
  .object (members.foldl (fun acc m => putMember m.1 m.2 acc) [])

def get? (key : String) : Json → Option Json
  | .object members => (members.find? fun m => m.1 = key).map Prod.snd
  | _ => none

end Json
end QueryBuilder
