/-!
# Doubles as exact numbers

A finite double is an integer times a power of two. `truncate?` gives its integer part and
`whole?` the integer that it equals, both exactly and for every magnitude.
-/

namespace MarketDesk.Decimal

/-- A finite double as sign, mantissa and exponent of two; infinities and NaN have none. -/
structure Binary where
  negative : Bool
  mantissa : Nat
  exponent : Int
  deriving DecidableEq, Repr

/-- The parts of a finite double. -/
def Binary.ofFloat? (x : Float) : Option Binary :=
  let bits := x.toBits.toNat
  let fraction := bits % 0x10000000000000
  let biased : Nat := bits / 0x10000000000000 % 0x800
  let negative := decide (0x8000000000000000 ≤ bits)
  if biased = 2047 then none
  else if biased = 0 then some ⟨negative, fraction, -1074⟩
  else some ⟨negative, 0x10000000000000 + fraction, (biased : Int) - 1075⟩

/-- The integer part of the magnitude. -/
def Binary.wholePart (b : Binary) : Nat :=
  if 0 ≤ b.exponent then b.mantissa * Nat.pow 2 b.exponent.natAbs
  else b.mantissa / Nat.pow 2 b.exponent.natAbs

/-- The magnitude is an integer. -/
def Binary.isWhole (b : Binary) : Bool :=
  decide (0 ≤ b.exponent) || b.mantissa % Nat.pow 2 b.exponent.natAbs == 0

/-- The integer between a finite double and zero that is nearest to the double. -/
def truncate? (x : Float) : Option Int :=
  (Binary.ofFloat? x).map fun b =>
    if b.negative then -(b.wholePart : Int) else b.wholePart

/-- The integer that a double equals. -/
def whole? (x : Float) : Option Int :=
  match Binary.ofFloat? x with
  | some b => if b.isWhole then truncate? x else none
  | none => none

end MarketDesk.Decimal
