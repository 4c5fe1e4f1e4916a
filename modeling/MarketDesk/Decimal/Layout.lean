import MarketDesk.Decimal.Shortest
import MarketDesk.Text.Digits

/-!
# How a double is written

A finite double is written with its shortest digits: positionally, always with a fraction, when
the exponent of its first digit lies within the bounds of a `Layout`, and else with an exponent
that carries its sign. Infinities and NaN have no numeral.
-/

namespace MarketDesk.Decimal

/-- The exponents of the first digit that are written positionally. -/
structure Layout where
  least : Int
  most : Int
  deriving DecidableEq, Repr

/-- Numerals in documents are positional from `0.00001` up to sixteen digits before the point. -/
def documentLayout : Layout := ⟨-5, 15⟩

/-- Digits without the zeros at their end. -/
def significant (d : Nat) : List Char :=
  ((Text.natChars d).reverse.dropWhile (· == '0')).reverse

/-- Writes digits whose first one has exponent `e`, without an exponent. -/
def positional (digits : List Char) (e : Int) : List Char :=
  if e < 0 then '0' :: '.' :: List.replicate (e.natAbs - 1) '0' ++ digits
  else
    let width := e.natAbs + 1
    let front := digits.take width ++ List.replicate (width - digits.length) '0'
    let back := digits.drop width
    front ++ '.' :: (if back.isEmpty then ['0'] else back)

/-- Writes digits whose first one has exponent `e`, with that exponent. -/
def scientific (digits : List Char) (e : Int) : List Char :=
  let mantissa :=
    match digits with
    | first :: second :: rest => first :: '.' :: second :: rest
    | short => short
  mantissa ++ 'e' :: (if e < 0 then '-' else '+') :: Text.natChars e.natAbs

/-- Writes `d · 10^k` by a layout. -/
def Layout.write (layout : Layout) (n : Digits) : List Char :=
  let e := n.k + ((Text.natChars n.d).length - 1 : Nat)
  let digits := significant n.d
  if layout.least ≤ e ∧ e ≤ layout.most then positional digits e else scientific digits e

/-- The numeral of a finite double. -/
def numeral? (x : Float) : Option (List Char) :=
  let bits := x.toBits
  let magnitude := bits % 0x8000000000000000
  let sign := if bits = magnitude then [] else ['-']
  if 0x7FF0000000000000 ≤ magnitude then none
  else if magnitude = 0 then some (sign ++ ['0', '.', '0'])
  else some (sign ++ documentLayout.write (Span.ofBits magnitude).shortest)

end MarketDesk.Decimal
