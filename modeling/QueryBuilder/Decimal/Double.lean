import QueryBuilder.Decimal.Basic

/-!
Binary floating-point numbers of 64 bits in exact arithmetic: the nearest one to a fraction, a
tie going to the even significand, and the shortest decimal that reads back as it.
-/
namespace QueryBuilder

/-- The finite non-negative value `significand · 2 ^ exponent`. A non-zero value has either a
significand of 53 bits or the least exponent, -1074. -/
structure Double where
  significand : Nat
  exponent : Int
deriving DecidableEq, Repr

/-- A non-negative quotient of natural numbers. -/
structure Fraction where
  num : Nat
  den : Nat

namespace Fraction

/-- The value `n · base ^ e`. -/
def scaled (n base : Nat) (e : Int) : Fraction :=
  if 0 ≤ e then ⟨n * Nat.pow base e.toNat, 1⟩ else ⟨n, Nat.pow base (-e).toNat⟩

def mul (x y : Fraction) : Fraction := ⟨x.num * y.num, x.den * y.den⟩

def div (x y : Fraction) : Fraction := ⟨x.num * y.den, x.den * y.num⟩

def le (x y : Fraction) : Bool := x.num * y.den ≤ y.num * x.den

def lt (x y : Fraction) : Bool := x.num * y.den < y.num * x.den

/-- The greatest integer that is not above the fraction. -/
def floor (x : Fraction) : Nat := x.num / x.den

/-- The nearest integer; of two at the same distance, the even one. -/
def round (x : Fraction) : Nat :=
  let q := x.num / x.den
  let twice := 2 * (x.num % x.den)
  if twice < x.den then q
  else if x.den < twice then q + 1
  else if q % 2 = 0 then q else q + 1

end Fraction

namespace Double

/-- Two to the 52nd: the least significand of 53 bits. -/
def hidden : Nat := 4503599627370496

def leastExponent : Int := -1074

def greatestExponent : Int := 971

def zero : Double := ⟨0, leastExponent⟩

def value (x : Double) : Fraction := .scaled x.significand 2 x.exponent

/-- The nearest value to a fraction, or nothing if that is past the greatest finite one. -/
def nearest (x : Fraction) : Option Double :=
  if x.num = 0 then some zero
  else
    let guess : Int := (Nat.log2 x.num : Int) - Nat.log2 x.den - 52
    let low := (x.div (.scaled 1 2 guess)).lt ⟨hidden, 1⟩
    let e := max leastExponent (if low then guess - 1 else guess)
    let m := (x.div (.scaled 1 2 e)).round
    let r : Double := if m = 2 * hidden then ⟨hidden, e + 1⟩ else ⟨m, e⟩
    if greatestExponent < r.exponent then none else some r

/-- The nearest value to `10 ^ n`. -/
def powerOfTen (n : Nat) : Option Double := nearest (.scaled 1 10 n)

def mul (x y : Double) : Option Double := nearest (x.value.mul y.value)

def div (x y : Double) : Option Double := nearest (x.value.div y.value)

/-- Whether a fraction rounds to this value: it lies between the midpoints to the two
neighbours, and on one of them only if the significand is even. -/
def readsBack (x : Double) (y : Fraction) : Bool :=
  let above := Fraction.scaled (4 * x.significand + 2) 2 (x.exponent - 2)
  let gapBelow := if x.significand = hidden ∧ x.exponent ≠ leastExponent then 1 else 2
  let below := Fraction.scaled (4 * x.significand - gapBelow) 2 (x.exponent - 2)
  if x.significand % 2 = 0 then below.le y && y.le above else below.lt y && y.lt above

/-- The exponent of the first decimal digit of a value. -/
def firstExponent (x : Double) : Int :=
  let v := x.value
  if v.den ≤ v.num then (toString v.floor).length - 1
  else
    match (List.range 330).find? fun j => Fraction.le ⟨v.den, 1⟩ ⟨v.num * Nat.pow 10 j, 1⟩ with
    | some j => -j
    | none => 0

/-- The point of the grid `10 ^ k` that reads back as `x` and is nearest to it. -/
def onGrid (x : Double) (k : Int) : Option Nat :=
  let low := (x.value.div (.scaled 1 10 k)).floor
  let near := (x.value.div (.scaled 1 10 k)).round
  let far := if near = low then low + 1 else low
  [near, far].find? fun c => x.readsBack (.scaled c 10 k)

/-- The decimal with the fewest digits that reads back as `x`, and of those the nearest. -/
def shortest (negative : Bool) (x : Double) : Decimal :=
  if x.significand = 0 then ⟨negative, 0, 0⟩
  else
    let grids := (List.range 17).map fun (n : Nat) => x.firstExponent - (n : Int)
    match grids.findSome? fun k => (x.onGrid k).map (·, k) with
    | some (c, k) => Decimal.normal ⟨negative, c, k⟩
    | none => ⟨negative, 0, 0⟩

-- A tenth, the least value above zero, and a tie between two neighbours past 2⁵³.
example : (nearest ⟨1, 10⟩).map (shortest false) = some ⟨false, 1, -1⟩ := by decide +kernel
example : (nearest (.scaled 1 2 (-1074))).map (shortest true) = some ⟨true, 5, -324⟩ := by
  decide +kernel
example : nearest ⟨9007199254740993, 1⟩ = nearest ⟨9007199254740992, 1⟩ := by decide +kernel

end Double
end QueryBuilder
