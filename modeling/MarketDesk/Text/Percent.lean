import MarketDesk.Text.Digits
import MarketDesk.Text.Utf8

/-!
# Percent escapes

`decode` undoes every well-formed escape and keeps every other byte, a percent sign without two
hexadecimal digits included, so it is defined on all texts. `encode` escapes each byte of the
characters that a set does not keep; characters outside ASCII are always escaped.
-/

namespace MarketDesk.Text.Percent

/-- The value of two hexadecimal digits. -/
def hexByte? (high low : UInt8) : Option UInt8 := do
  let h ← hexDigit? (Char.ofNat high.toNat)
  let l ← hexDigit? (Char.ofNat low.toNat)
  pure (UInt8.ofNat (16 * h + l))

/-- Replaces each escape by the byte that it denotes. -/
def decodeBytes : List UInt8 → List UInt8
  | 0x25 :: high :: low :: rest =>
    match hexByte? high low with
    | some b => b :: decodeBytes rest
    | none => 0x25 :: decodeBytes (high :: low :: rest)
  | b :: rest => b :: decodeBytes rest
  | [] => []

/-- The text behind the escapes, if its bytes are UTF-8. -/
def decode? (cs : List Char) : Option (List Char) := Utf8.decode? (decodeBytes (Utf8.encode cs))

/-- The text behind the escapes, with U+FFFD for broken bytes. -/
def decodeLossy (cs : List Char) : List Char := Utf8.decodeLossy (decodeBytes (Utf8.encode cs))

/-- The escape of one byte, with upper-case digits. -/
def escapeByte (b : UInt8) : List Char :=
  '%' :: (fixedDigits 16 2 b.toNat).map Char.toUpper

/-- The ASCII characters that every escaping rule escapes: controls and delete. -/
def isControl (c : Char) : Bool := c.toNat < 0x20 || c.toNat == 0x7F

/-- Writes a character as it is if `keep` allows it and it is ASCII, else as escapes. -/
def encodeChar (keep : Char → Bool) (c : Char) : List Char :=
  if c.toNat < 0x80 && keep c then [c] else (String.utf8EncodeChar c).flatMap escapeByte

/-- Escapes a text. -/
def encode (keep : Char → Bool) (cs : List Char) : List Char := cs.flatMap (encodeChar keep)

end MarketDesk.Text.Percent
