import MarketDesk.Text.Digits
import MarketDesk.Word

/-!
# Decimal numerals

A numeral is kept as written until someone asks for its value. `integer?` gives the exact value
of a numeral without point and exponent. `toFloat?` gives a double: the first digits that fit
64 bits are rounded once, and the result is multiplied or divided once by a power of ten. A
value beyond the doubles has no reading; one below them reads as zero.
-/

namespace MarketDesk.Decimal

/-- A numeral as written: the digits before and after the point, and the exponent if one is
given. -/
structure Numeral where
  negative : Bool
  whole : List Nat
  fraction : List Nat
  exponent : Option Int
  deriving DecidableEq, Repr

/-- Appends digits to a number while it stays below 2^64, and counts the digits left over. -/
def absorb : Nat → List Nat → Nat × Nat
  | n, [] => (n, 0)
  | n, d :: ds => if 10 * n + d < Word.size64 then absorb (10 * n + d) ds else (n, ds.length + 1)

/-- The double nearest to a power of ten. -/
def powerOfTen (e : Nat) : Float := Float.ofScientific 1 false e

/-- The largest power of ten among the doubles. -/
def maxPower : Nat := 308

/-- `x` times ten to the `e`, with one operation where a power of ten allows it. -/
def scaleByTen? (x : Float) (e : Int) : Option Float :=
  if e.natAbs ≤ maxPower then
    if 0 ≤ e then
      let y := x * powerOfTen e.natAbs
      if y.isInf then none else some y
    else some (x / powerOfTen e.natAbs)
  else if x == 0.0 then some x
  else if 0 ≤ e then none
  else if e.natAbs ≤ 2 * maxPower then
    some (x / powerOfTen maxPower / powerOfTen (e.natAbs - maxPower))
  else some 0.0

namespace Numeral

/-- The numeral has neither point nor exponent. -/
def isInteger (n : Numeral) : Bool := n.fraction.isEmpty && n.exponent.isNone

/-- The value of a numeral without point and exponent. Minus zero is not an integer: it is the
double with that sign. -/
def integer? (n : Numeral) : Option Int :=
  let value := Text.ofDigits 10 n.whole
  if !n.isInteger then none
  else if n.negative then (if value = 0 then none else some (-(value : Int)))
  else some value

/-- The double that the numeral denotes. -/
def toFloat? (n : Numeral) : Option Float := do
  let (front, skipped) := absorb 0 n.whole
  let (front, cut) := absorb front n.fraction
  let e := (n.exponent.getD 0) + skipped - (n.fraction.length - cut : Nat)
  let x ← scaleByTen? (UInt64.ofNat front).toFloat e
  pure (if n.negative then -x else x)

end Numeral

end MarketDesk.Decimal
