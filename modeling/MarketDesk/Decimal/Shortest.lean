/-!
# The shortest decimal of a double

A double stands for every real that rounds to it. `shortest` finds, on exact natural numbers, the
coarsest decimal grid that has a point in that interval and of its points the one nearest to the
double, with the even one on a tie. On each grid only the two neighbours of the double can be
nearest, so two candidates are tried.
-/

namespace MarketDesk.Decimal

/-- The reals that round to a positive double, as numerators over one denominator. The ends
belong to the interval when `closed` holds. -/
structure Span where
  low : Nat
  value : Nat
  high : Nat
  den : Nat
  closed : Bool
  deriving DecidableEq, Repr

/-- The interval of the positive finite double with the given bits. The gap below a power of two
is half the gap above it. -/
def Span.ofBits (bits : UInt64) : Span :=
  let fraction := bits.toNat % 0x10000000000000
  let biased := bits.toNat / 0x10000000000000 % 0x800
  let mantissa := if biased = 0 then fraction else 0x10000000000000 + fraction
  let exponent := max biased 1
  let below := if fraction = 0 ∧ 1 < biased then 1 else 2
  let scale := Nat.pow 2 (exponent - 1077)
  { low := (4 * mantissa - below) * scale
    value := 4 * mantissa * scale
    high := (4 * mantissa + 2) * scale
    den := Nat.pow 2 (1077 - exponent)
    closed := mantissa % 2 == 0 }

/-- The interval measured so that the grid of step ten to the `k` becomes the multiples of the
denominator. -/
def Span.onGrid (s : Span) (k : Int) : Span :=
  if 0 ≤ k then { s with den := s.den * Nat.pow 10 k.natAbs }
  else
    let m := Nat.pow 10 k.natAbs
    { s with low := s.low * m, value := s.value * m, high := s.high * m }

/-- The `d`-th multiple of the denominator lies in the interval. -/
def Span.holds (s : Span) (d : Nat) : Bool :=
  let point := d * s.den
  if s.closed then decide (s.low ≤ point) && decide (point ≤ s.high)
  else decide (s.low < point) && decide (point < s.high)

/-- Of the two multiples of the denominator around the value, the best one in the interval. -/
def Span.nearest? (s : Span) : Option Nat :=
  let d := s.value / s.den
  let excess := s.value - d * s.den
  let deficit := (d + 1) * s.den - s.value
  match s.holds d, s.holds (d + 1) with
  | true, true => some (if excess < deficit ∨ (excess = deficit ∧ d % 2 = 0) then d else d + 1)
  | true, false => some d
  | false, true => some (d + 1)
  | false, false => none

/-- The exponent of the leading digit of the value, or one more. -/
def Span.magnitude (s : Span) : Int :=
  if s.den ≤ s.value then (Nat.toDigits 10 (s.value / s.den)).length - 1
  else 1 - (Nat.toDigits 10 (s.den / s.value)).length

/-- A positive number `d · 10^k`. -/
structure Digits where
  d : Nat
  k : Int
  deriving DecidableEq, Repr

/-- The shortest decimal in the interval; seventeen digits always suffice. -/
def Span.shortest (s : Span) : Digits :=
  let top := s.magnitude
  let found := (List.range 19).findSome? fun (i : Nat) =>
    ((s.onGrid (top - i)).nearest?).map fun d => Digits.mk d (top - i)
  found.getD ⟨0, 0⟩

end MarketDesk.Decimal
