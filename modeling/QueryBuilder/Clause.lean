import QueryBuilder.Text.Blank
import QueryBuilder.Json.Reader

/-!
Clauses that are one text or a list of items: columns, GROUP BY and ORDER BY.
-/
namespace QueryBuilder

inductive Clause
  | text (s : String)
  | items (xs : List String)
deriving DecidableEq, Repr

namespace Clause

/-- Whether there is nothing to print: the text is blank, or every item is. -/
def isEmpty : Clause → Bool
  | .text s => Text.isBlank s
  | .items xs => xs.all Text.isBlank

/-- The text as it is, or the items that are not blank with a comma between them. -/
def render : Clause → String
  | .text s => s
  | .items xs => ", ".intercalate (xs.filter fun s => !Text.isBlank s)

def toJson : Clause → Json
  | .text s => .text s
  | .items xs => .array (xs.map .text)

def reader : Json.Reader Clause :=
  .shapes "ClauseList"
    [fun room t => .text <$> Json.Reader.text room t,
      fun room t => .items <$> Json.Reader.list Json.Reader.text room t]

/-- What is printed for a clause that may be unset: nothing if there is nothing to print. -/
def printed? (c : Option Clause) : Option String := (c.filter fun c => !c.isEmpty).map render

end Clause
end QueryBuilder
