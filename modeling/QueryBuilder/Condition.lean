import QueryBuilder.Error

/-!
Conditions: texts joined by connectives. Both sides of every connective are printed in
parentheses, so the printed text does not depend on precedence.
-/
namespace QueryBuilder

inductive Connective
  | and
  | or
deriving DecidableEq, Repr, Inhabited

namespace Connective

def token : Connective → String
  | .and => "and"
  | .or => "or"

def keyword : Connective → String
  | .and => "AND"
  | .or => "OR"

/-- The connective of a token; only the two lower-case tokens are known. -/
def ofToken (token : String) : Except QueryError Connective :=
  if token = "and" then .ok .and
  else if token = "or" then .ok .or
  else .error (.unknownConnective token)

end Connective

inductive Condition
  | leaf (text : String)
  | combine (left : Condition) (op : Connective) (right : Condition)
deriving DecidableEq, Repr

namespace Condition

def leafCount : Condition → Nat
  | .leaf _ => 1
  | .combine l _ r => l.leafCount + r.leafCount

def render : Condition → String
  | .leaf text => text
  | .combine l op r => "(" ++ l.render ++ ") " ++ op.keyword ++ " (" ++ r.render ++ ")"

/-- Join a text to the right of a condition; where there is none yet, the text is the condition
and the connective is not used. -/
def extend (c : Option Condition) (op : Connective) (text : String) : Condition :=
  match c with
  | none => .leaf text
  | some c => .combine c op (.leaf text)

example : render (.combine (.combine (.leaf "a") .or (.leaf "b")) .and (.leaf "c")) =
    "((a) OR (b)) AND (c)" := by decide

end Condition
end QueryBuilder
