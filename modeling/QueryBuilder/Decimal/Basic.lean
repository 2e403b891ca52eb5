/-!
Decimal numbers `± digits · 10 ^ exponent` and their two written forms: positional, and with an
exponent. The exponent of the first digit decides between them.
-/
namespace QueryBuilder

/-- The number `digits · 10 ^ exponent`, negated if `negative`; zero keeps its sign. -/
@[ext]
structure Decimal where
  negative : Bool
  digits : Nat
  exponent : Int
deriving DecidableEq, Repr, Inhabited

namespace Decimal

/-- Divide by ten, at most `n` times, while the last digit is zero. -/
def dropZeros : Nat → Nat → Int → Nat × Int
  | 0, d, e => (d, e)
  | n + 1, d, e => if d % 10 = 0 then dropZeros n (d / 10) (e + 1) else (d, e)

/-- The same number with no zero at the end of its digits; zero itself has exponent 0. -/
def normal (x : Decimal) : Decimal :=
  if x.digits = 0 then ⟨x.negative, 0, 0⟩
  else
    let r := dropZeros (toString x.digits).length x.digits x.exponent
    ⟨x.negative, r.1, r.2⟩

/-- Whether a number whose first digit stands at `10 ^ first` is written positionally. -/
def isPositional (first : Int) : Bool := -5 ≤ first && first ≤ 15

def zeros (n : Nat) : List Char := List.replicate n '0'

/-- Positional text with at least one place after the point. -/
def positional (digits : List Char) (exponent : Int) : List Char :=
  let point : Int := digits.length + exponent
  if 0 ≤ exponent then digits ++ zeros exponent.toNat ++ ['.', '0']
  else if 0 < point then digits.take point.toNat ++ '.' :: digits.drop point.toNat
  else '0' :: '.' :: zeros (-point).toNat ++ digits

/-- One digit before the point, the other digits after it, and a signed exponent. -/
def scientific (digits : List Char) (exponent : Int) : List Char :=
  let first : Int := digits.length + exponent - 1
  let sign := if first < 0 then '-' else '+'
  digits.take 1 ++ (if digits.length ≤ 1 then [] else '.' :: digits.drop 1) ++
    'e' :: sign :: (toString first.natAbs).toList

/-- The text of a number in normal form. -/
def text (x : Decimal) : List Char :=
  let digits := (toString x.digits).toList
  let first : Int := digits.length + x.exponent - 1
  (if x.negative then ['-'] else []) ++
    if isPositional first then positional digits x.exponent else scientific digits x.exponent

example : text ⟨true, 105, -1⟩ = "-10.5".toList := by decide
example : text ⟨false, 1, 15⟩ = "1000000000000000.0".toList := by decide
example : text ⟨false, 12, 15⟩ = "1.2e+16".toList := by decide
example : text ⟨false, 12, -6⟩ = "0.000012".toList := by decide
example : text ⟨false, 12, -7⟩ = "1.2e-6".toList := by decide
example : normal ⟨true, 1200, -2⟩ = ⟨true, 12, 0⟩ := by decide

end Decimal
end QueryBuilder
