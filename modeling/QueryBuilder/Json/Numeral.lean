import QueryBuilder.Json.Literal
import QueryBuilder.Json.Basic
import QueryBuilder.Decimal.Double

/-!
Number literals of JSON and their values. Integers from -2⁶³ to 2⁶⁴ - 1 stay integers. Every
other number becomes a binary one: at most 64 bits of its digits are taken, and one
multiplication or division by a power of ten places the point.
-/
namespace QueryBuilder.Json

/-- A sign, and the digits before the point, after it, and of a signed exponent. -/
structure Numeral where
  negative : Bool
  whole : List Nat
  fraction : Option (List Nat)
  exponent : Option (Bool × List Nat)
deriving DecidableEq, Repr

namespace Numeral

def digitsAt (cs : List Char) : List Nat :=
  (cs.takeWhile Char.isDigit).map fun c => c.toNat - 48

/-- The fault of a number that lacks a digit before this rest of the text. -/
def digitFault : List Char → Fault
  | [] => .truncated
  | _ :: _ => .malformed

/-- The digits after a decimal point, if there is one, and how many characters both take. -/
def scanFraction : List Char → Except Fault (Option (List Nat) × Nat)
  | '.' :: cs =>
    match digitsAt cs with
    | [] => .error (digitFault cs)
    | ds => .ok (some ds, ds.length + 1)
  | _ => .ok (none, 0)

/-- The sign and digits of an exponent, if there is one, and how many characters it takes. -/
def scanExponent : List Char → Except Fault (Option (Bool × List Nat) × Nat)
  | e :: cs =>
    if e = 'e' || e = 'E' then
      let negative := cs.head? = some '-'
      let signed := negative || cs.head? = some '+'
      let cs := if signed then cs.tail else cs
      match digitsAt cs with
      | [] => .error (digitFault cs)
      | ds => .ok (some (negative, ds), ds.length + if signed then 2 else 1)
    else .ok (none, 0)
  | [] => .ok (none, 0)

/-- The number at the start of a text, and how many characters it takes. A whole part of more
than one digit does not start with zero. -/
def scan (cs : List Char) : Except Fault (Numeral × Nat) := do
  let negative := cs.head? = some '-'
  let cs := if negative then cs.tail else cs
  let whole := digitsAt cs
  let rest := cs.drop whole.length
  if whole = [] then throw (digitFault rest)
  if whole.head? = some 0 ∧ 1 < whole.length then throw .malformed
  let (fraction, m) ← scanFraction rest
  let (exponent, n) ← scanExponent (rest.drop m)
  return (⟨negative, whole, fraction, exponent⟩,
    (if negative then 1 else 0) + whole.length + m + n)

def ofDigits (ds : List Nat) : Nat := ds.foldl (fun n d => 10 * n + d) 0

/-- The first number past 64 bits. -/
def wordLimit : Nat := 18446744073709551616

/-- The greatest exponent that is looked at. -/
def exponentLimit : Nat := 2147483647

/-- Append digits to a number as long as it stays within 64 bits; how many were left out. -/
def fill : Nat → List Nat → Nat × Nat
  | m, [] => (m, 0)
  | m, d :: ds =>
    if m * 10 + d < wordLimit then fill (m * 10 + d) ds else (m, (d :: ds).length)

/-- The value `m · 10 ^ e`, or nothing if it is past the greatest binary number. Below 10⁻³⁰⁸ the
division goes in steps, of which three leave nothing of 64 bits. -/
def place (m : Nat) (e : Int) : Option Double := do
  let start ← Double.nearest ⟨m, 1⟩
  if 308 < e then if m = 0 then pure start else none
  else if 0 ≤ e then start.mul (← Double.powerOfTen e.toNat)
  else
    let steps := (e.natAbs - 1) / 308
    let step ← Double.powerOfTen 308
    let last ← Double.powerOfTen (e.natAbs - 308 * steps)
    let small ← (List.range (min steps 3)).foldlM (fun (x : Double) _ => x.div step) start
    small.div last

/-- The value of a number, or nothing if it is out of range. -/
def value (n : Numeral) : Option Number := do
  let (m, skipped) := fill 0 n.whole
  let fraction := n.fraction.getD []
  let (m, dropped) := if n.fraction.isSome then fill m fraction else (m, 0)
  let point : Int := (skipped : Int) - (fraction.length - dropped : Nat)
  match n.fraction, n.exponent with
  | none, none =>
    if skipped = 0 ∧ !n.negative then return .int m
    if skipped = 0 ∧ 0 < m ∧ 2 * m ≤ wordLimit then return .int (-m)
    return .decimal ((← place m point).shortest n.negative)
  | _, none => return .decimal ((← place m point).shortest n.negative)
  | _, some (down, ds) =>
    let e := ofDigits ds
    if exponentLimit < e then
      if m = 0 ∨ down then return .decimal ⟨n.negative, 0, 0⟩ else none
    else
      return .decimal ((← place m (if down then point - e else point + e)).shortest n.negative)

end Numeral
end QueryBuilder.Json
