/-!
# Numbers written in digits

Readers for runs of digits over `List Char`. A run denotes the number `ofDigits base ds`, so a
leading zero never changes a value, and no reader here bounds the size of what it reads: the
caller compares the result with the range it needs.
-/

namespace MarketDesk.Text

/-- The value of a decimal digit. -/
def digit? (c : Char) : Option Nat :=
  if '0' ≤ c ∧ c ≤ '9' then some (c.toNat - '0'.toNat) else none

/-- The value of a hexadecimal digit, in either case. -/
def hexDigit? (c : Char) : Option Nat :=
  if '0' ≤ c ∧ c ≤ '9' then some (c.toNat - '0'.toNat)
  else if 'a' ≤ c ∧ c ≤ 'f' then some (c.toNat - 'a'.toNat + 10)
  else if 'A' ≤ c ∧ c ≤ 'F' then some (c.toNat - 'A'.toNat + 10)
  else none

/-- The character is one of `0` to `9`. -/
def isDigit (c : Char) : Bool := (digit? c).isSome

/-- The character is an ASCII letter. -/
def isLetter (c : Char) : Bool :=
  ('a' ≤ c && c ≤ 'z') || ('A' ≤ c && c ≤ 'Z')

/-- The number that a run of digit values denotes, most significant digit first. -/
def ofDigits (base : Nat) (ds : List Nat) : Nat :=
  ds.foldl (fun n d => base * n + d) 0

/-- Reads a nonempty run of decimal digits that fills the whole text. -/
def nat? (cs : List Char) : Option Nat :=
  if cs.isEmpty then none else (cs.mapM digit?).map (ofDigits 10)

/-- Reads a nonempty run of hexadecimal digits that fills the whole text. -/
def hexNat? (cs : List Char) : Option Nat :=
  if cs.isEmpty then none else (cs.mapM hexDigit?).map (ofDigits 16)

/-- Reads decimal digits after at most one plus sign. -/
def unsigned? : List Char → Option Nat
  | '+' :: cs => nat? cs
  | cs => nat? cs

/-- Reads decimal digits after at most one sign. -/
def signed? : List Char → Option Int
  | '-' :: cs => (nat? cs).map fun n => -(n : Int)
  | cs => (unsigned? cs).map Int.ofNat

/-- A number in the given base, zero-filled on the left to `width` digits; higher digits are cut. -/
def fixedDigits (base : Nat) : Nat → Nat → List Char
  | 0, _ => []
  | width + 1, n => fixedDigits base width (n / base) ++ [Nat.digitChar (n % base)]

/-- A number in decimal, without leading zeros. -/
def natChars (n : Nat) : List Char := Nat.toDigits 10 n

/-- A number in decimal with at least `width` digits. -/
def paddedNat (width n : Nat) : List Char :=
  let ds := natChars n
  List.replicate (width - ds.length) '0' ++ ds

/-- An integer in decimal, with a minus sign when it is negative. -/
def intChars (n : Int) : List Char :=
  if n < 0 then '-' :: natChars n.natAbs else natChars n.natAbs

end MarketDesk.Text
