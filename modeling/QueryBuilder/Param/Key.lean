import QueryBuilder.Json.Writer

/-!
Keys of parameters: names, written `:name:` in a query, and positions, written `?n`.
-/
namespace QueryBuilder.Param

inductive Key
  | named (name : String)
  | positional (n : Nat)
deriving DecidableEq, Repr

namespace Key

/-- The number that decimal digits denote. -/
def numberOf (digits : List Char) : Nat := digits.foldl (fun n c => 10 * n + (c.toNat - 48)) 0

/-- The first number that is no position. -/
def positionLimit : Nat := 18446744073709551616

/-- The position that a text denotes: decimal digits, after a plus sign or without one. -/
def position? (text : String) : Option Nat :=
  let digits := match text.toList with
    | '+' :: cs => cs
    | cs => cs
  if digits ≠ [] ∧ digits.all Char.isDigit then
    let n := numberOf digits
    if n < positionLimit then some n else none
  else none

/-- The key that a text denotes: a position if it can, and otherwise the name it is. -/
def ofText (text : String) : Key :=
  match position? text with
  | some n => .positional n
  | none => .named text

example : ofText "07" = .positional 7 := by decide
example : ofText "+7" = .positional 7 := by decide
example : ofText "-7" = .named "-7" := by decide
example : ofText "18446744073709551616" = .named "18446744073709551616" := by decide

/-- The key as it stands in a query. -/
def placeholder : Key → String
  | .named name => ":" ++ name ++ ":"
  | .positional n => "?" ++ toString n

/-- The key alone, as a text. -/
def text : Key → String
  | .named name => name
  | .positional n => toString n

def toJson : Key → Json
  | .named name => .text name
  | .positional n => .number (.int n)

end Key
end QueryBuilder.Param
