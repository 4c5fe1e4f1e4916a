import MarketDesk.Text.CharIndex

/-!
# Character sets of several bytes

Bytes are read piece by piece: what stands at their front decides how many of them it takes and how
the rest is read. In most sets a piece is one byte or two, and two bytes that stand for nothing are
one broken piece; an ASCII character in it is read again, since it may end what stands around it.
-/

namespace MarketDesk.Text

/-- What stands at the front of bytes, in a state. -/
structure Piece (σ : Type) where
  chars : List Char
  /-- How many bytes it takes besides the first. -/
  more : Nat
  /-- The state in which the rest is read. -/
  next : σ

namespace Piece

/-- A piece that stands for nothing. -/
def broken {σ : Type} (more : Nat) (next : σ) : Piece σ := ⟨['\uFFFD'], more, next⟩

/-- Reads bytes in a state, after as many of them as are passed over. -/
def read {σ : Type} (front : σ → Nat → List Nat → Piece σ) : σ → Nat → List Nat → List Char
  | _, _, [] => []
  | s, n + 1, _ :: rest => read front s n rest
  | s, 0, a :: rest =>
    let piece := front s a rest
    piece.chars ++ read front piece.next piece.more rest

end Piece

/-- A character set in which a piece is one byte or two. -/
structure DoubleByte where
  /-- The character of a byte that is a piece of its own. -/
  single? : Nat → Option Char
  /-- The first byte of two. -/
  isLead : Nat → Bool
  /-- The characters of two bytes. -/
  double? : Nat → Nat → Option (List Char)

namespace DoubleByte

/-- An ASCII character is a piece of its own. -/
def ascii? (a : Nat) : Option Char := if a < 0x80 then some (Char.ofNat a) else none

/-- A broken piece that ends with a byte, which is read again if it is ASCII. -/
def brokenAt (more last : Nat) : Piece Unit := .broken (if last < 0x80 then more - 1 else more) ()

/-- The piece at the front of bytes. -/
def front (set : DoubleByte) (a : Nat) (rest : List Nat) : Piece Unit :=
  match set.single? a, rest with
  | some c, _ => ⟨[c], 0, ()⟩
  | none, [] => .broken 0 ()
  | none, b :: _ =>
    if set.isLead a then
      match set.double? a b with
      | some cs => ⟨cs, 1, ()⟩
      | none => brokenAt 1 b
    else .broken 0 ()

end DoubleByte

end MarketDesk.Text
