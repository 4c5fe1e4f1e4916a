import MarketDesk.Decimal.Numeral
import MarketDesk.Json.Value
import MarketDesk.Word

/-!
# JSON documents as read

`Raw` is a document before anyone decides what to use of it. Numbers keep their digits and strings
their escapes, so a number beyond every range or half a surrogate pair does no harm in a member
that nobody looks at. The readers below fail only when such a piece is asked for its value.
-/

namespace MarketDesk.Json

open MarketDesk.Decimal

/-- A piece of a string as written: a character, a broken byte sequence, or an escaped UTF-16
code unit. -/
inductive Piece where
  | scalar (c : Char)
  | broken
  | unit (code : Nat)
  deriving DecidableEq, Repr

/-- A document as read. -/
inductive Raw where
  | null
  | bool (b : Bool)
  | number (n : Numeral)
  | text (pieces : List Piece)
  | list (items : List Raw)
  | record (members : List (List Piece × Raw))
  deriving Inhabited

/-- The code unit is the first half of a surrogate pair. -/
def isHighSurrogate (u : Nat) : Bool := decide (0xD800 ≤ u) && decide (u < 0xDC00)

/-- The code unit is the second half of a surrogate pair. -/
def isLowSurrogate (u : Nat) : Bool := decide (0xDC00 ≤ u) && decide (u < 0xE000)

/-- The characters of a string. Two escapes that follow each other may form a surrogate pair;
half a pair and broken bytes are no characters. -/
def pieces? : List Piece → Option (List Char)
  | [] => some []
  | .scalar c :: rest => (pieces? rest).map (c :: ·)
  | .broken :: _ => none
  | .unit u :: .unit v :: rest =>
    if isHighSurrogate u then
      if isLowSurrogate v then
        (pieces? rest).map (Char.ofNat (0x10000 + (u - 0xD800) * 0x400 + (v - 0xDC00)) :: ·)
      else none
    else if isLowSurrogate u then none
    else (pieces? (.unit v :: rest)).map (Char.ofNat u :: ·)
  | .unit u :: rest =>
    if isHighSurrogate u || isLowSurrogate u then none
    else (pieces? rest).map (Char.ofNat u :: ·)

/-- The string that pieces denote. -/
def stringOf? (pieces : List Piece) : Option String := (pieces? pieces).map String.ofList

/-- The value of a numeral: an integer if it is written as one and has at most 64 bits, else a
double. -/
def valueOfNumeral? (n : Numeral) : Option Value :=
  match n.integer? with
  | some i =>
    if Word.IsSigned64 i ∨ Word.IsUnsigned64 i then some (.whole i) else n.toFloat?.map .real
  | none => n.toFloat?.map .real

namespace Raw

/-- A string. -/
def string? : Raw → Option String
  | .text pieces => stringOf? pieces
  | _ => none

/-- A number as a double. -/
def float? : Raw → Option Float
  | .number n => (valueOfNumeral? n).bind Value.float?
  | _ => none

/-- An integer of any size; a number with point or exponent is none, whatever its value. -/
def integer? : Raw → Option Int
  | .number n => n.integer?
  | _ => none

/-- An unsigned 64-bit integer. -/
def unsigned64? (r : Raw) : Option UInt64 :=
  (r.integer?.filter fun i => decide (Word.IsUnsigned64 i)).map fun i => UInt64.ofNat i.toNat

/-- A signed 64-bit integer. -/
def signed64? (r : Raw) : Option Int := r.integer?.filter fun i => decide (Word.IsSigned64 i)

/-- `null`, or what `read` accepts. -/
def orNull? {α : Type} (read : Raw → Option α) : Raw → Option (Option α)
  | .null => some none
  | r => (read r).map some

/-- A list whose items are all accepted by `read`. -/
def list? {α : Type} (read : Raw → Option α) : Raw → Option (List α)
  | .list items => items.mapM read
  | _ => none

/-- A record with arbitrary keys; of several members with one key the last counts, and all have to
be accepted by `read`. -/
def map? {α : Type} (read : Raw → Option α) : Raw → Option (Record α)
  | .record members => do
    let pairs ← members.mapM fun (key, r) => do pure (← stringOf? key, ← read r)
    pure (Record.ofPairs pairs)
  | _ => none

/-- A value of any kind that nests at most `room` lists and records. -/
def value? : (room : Nat) → Raw → Option Value
  | _, .null => some .null
  | _, .bool b => some (.bool b)
  | _, .number n => valueOfNumeral? n
  | _, .text pieces => (stringOf? pieces).map .text
  | 0, .list _ => none
  | room + 1, .list items => (items.mapM (value? room)).map .list
  | 0, .record _ => none
  | room + 1, .record members => do
    let pairs ← members.mapM fun (key, r) => do pure (← stringOf? key, ← value? room r)
    pure (.record (Record.ofPairs pairs))

end Raw

end MarketDesk.Json
