/-!
# UTF-8

A decoder that never stops: `scan` turns bytes into characters and puts `none` where a byte
sequence is broken. One `none` stands for each longest prefix of a character that the input
follows, so a truncated character and each stray byte count once. Strict decoding asks for no
`none`; lossy decoding writes U+FFFD for each.
-/

namespace MarketDesk.Text.Utf8

/-- Where the decoder stands: between characters, or inside one that still needs `left` bytes,
the next of which has to lie between `low` and `high`. -/
inductive State where
  | ready
  | within (left low high value : Nat)
  deriving DecidableEq, Repr

/-- What a byte does between characters. The bounds on a second byte exclude overlong forms,
surrogates and values beyond U+10FFFF. -/
def start (b : Nat) : List (Option Char) × State :=
  if b < 0x80 then ([some (Char.ofNat b)], .ready)
  else if 0xC2 ≤ b ∧ b ≤ 0xDF then ([], .within 1 0x80 0xBF (b % 0x20))
  else if b = 0xE0 then ([], .within 2 0xA0 0xBF 0)
  else if b = 0xED then ([], .within 2 0x80 0x9F 0xD)
  else if 0xE1 ≤ b ∧ b ≤ 0xEF then ([], .within 2 0x80 0xBF (b % 0x10))
  else if b = 0xF0 then ([], .within 3 0x90 0xBF 0)
  else if 0xF1 ≤ b ∧ b ≤ 0xF3 then ([], .within 3 0x80 0xBF (b % 8))
  else if b = 0xF4 then ([], .within 3 0x80 0x8F 4)
  else ([none], .ready)

/-- What a byte does in any state. A byte that cannot continue a character ends it as broken and
is then read afresh. -/
def feed : State → Nat → List (Option Char) × State
  | .ready, b => start b
  | .within left low high value, b =>
    if low ≤ b ∧ b ≤ high then
      let value := 0x40 * value + b % 0x40
      if left ≤ 1 then ([some (Char.ofNat value)], .ready)
      else ([], .within (left - 1) 0x80 0xBF value)
    else
      let (out, state) := start b
      (none :: out, state)

/-- Decodes from a given state. -/
def scanFrom : State → List UInt8 → List (Option Char)
  | .ready, [] => []
  | .within .., [] => [none]
  | state, b :: bs =>
    let (out, state) := feed state b.toNat
    out ++ scanFrom state bs

/-- The characters of a byte sequence, with `none` for each broken piece. -/
def scan (bytes : List UInt8) : List (Option Char) := scanFrom .ready bytes

/-- Decodes bytes that are UTF-8 throughout. -/
def decode? (bytes : List UInt8) : Option (List Char) := (scan bytes).mapM id

/-- Decodes any bytes, with U+FFFD for each broken piece. -/
def decodeLossy (bytes : List UInt8) : List Char := (scan bytes).map (·.getD '\uFFFD')

/-- The bytes of a text. -/
def encode (cs : List Char) : List UInt8 := cs.flatMap String.utf8EncodeChar

end MarketDesk.Text.Utf8
