/-!
White space, as the Unicode property White_Space has it, and texts that consist of it alone.
-/
namespace QueryBuilder.Text

/-- The ranges of the property White_Space, ends included. -/
def spaceRanges : List (Nat × Nat) :=
  [(0x09, 0x0D), (0x20, 0x20), (0x85, 0x85), (0xA0, 0xA0), (0x1680, 0x1680), (0x2000, 0x200A),
    (0x2028, 0x2029), (0x202F, 0x202F), (0x205F, 0x205F), (0x3000, 0x3000)]

def isSpace (c : Char) : Bool :=
  spaceRanges.any fun r => r.1 ≤ c.toNat && c.toNat ≤ r.2

/-- Nothing but white space; the empty text is blank. -/
def isBlank (s : String) : Bool := s.toList.all isSpace

@[simp] theorem isBlank_append (s t : String) : isBlank (s ++ t) = (isBlank s && isBlank t) := by
  simp [isBlank]

end QueryBuilder.Text
