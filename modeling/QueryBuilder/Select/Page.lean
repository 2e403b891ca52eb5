import QueryBuilder.Error

/-!
How many results a query gives, and how many it passes over.
-/
namespace QueryBuilder

structure Page where
  limit : Option Nat
  offset : Option Nat
deriving DecidableEq, Repr

namespace Page

def empty : Page := ⟨none, none⟩

/-- A number of a page; a negative one is refused. -/
def natural (part : PagePart) (n : Int) : Except QueryError Nat :=
  if n < 0 then .error (.negativePage part n) else .ok n.toNat

/-- Set both numbers; the limit is checked first, and no offset clears the offset. -/
def set (limit : Int) (offset : Option Int) : Except QueryError Page := do
  let l ← natural .limit limit
  match offset with
  | none => return ⟨some l, none⟩
  | some o => return ⟨some l, some (← natural .offset o)⟩

def setOffset (offset : Int) (p : Page) : Except QueryError Page := do
  return { p with offset := some (← natural .offset offset) }

/-- What is printed: an offset only after a limit. -/
def printed? (p : Page) : Option String :=
  match p.limit, p.offset with
  | some l, some o => some ("LIMIT " ++ toString l ++ " OFFSET " ++ toString o)
  | some l, none => some ("LIMIT " ++ toString l)
  | none, _ => none

end Page
end QueryBuilder
