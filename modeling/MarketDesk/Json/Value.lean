import MarketDesk.Decimal.Layout
import MarketDesk.Json.Record

/-!
# JSON values and their compact text

A `Value` tells integers from doubles, since only integers have exact text. `chars` writes a
value without spaces: strings escape the quote, the backslash and the controls and nothing else,
and a double without a numeral is written `null`.
-/

namespace MarketDesk.Json

open MarketDesk.Text

/-- A JSON value. -/
inductive Value where
  | null
  | bool (b : Bool)
  | whole (n : Int)
  | real (x : Float)
  | text (s : String)
  | list (items : List Value)
  | record (members : List (String × Value))
  deriving Inhabited

/-- The double nearest to an integer of at most 64 bits. -/
def floatOfInt (n : Int) : Float :=
  let magnitude := (UInt64.ofNat n.natAbs).toFloat
  if n < 0 then -magnitude else magnitude

/-- The escaped form of a character inside a string. -/
def escapeChar (c : Char) : List Char :=
  if c = '"' then ['\\', '"']
  else if c = '\\' then ['\\', '\\']
  else if c = '\x08' then ['\\', 'b']
  else if c = '\t' then ['\\', 't']
  else if c = '\n' then ['\\', 'n']
  else if c = '\x0c' then ['\\', 'f']
  else if c = '\r' then ['\\', 'r']
  else if c.toNat < 0x20 then ['\\', 'u'] ++ fixedDigits 16 4 c.toNat
  else [c]

/-- A string in quotes. -/
def quote (cs : List Char) : List Char := '"' :: cs.flatMap escapeChar ++ ['"']

namespace Value

/-- The member of a record. -/
def get? (v : Value) (key : String) : Option Value :=
  match v with
  | .record members => Record.get? members key
  | _ => none

/-- The element of a list. -/
def at? (v : Value) (index : Nat) : Option Value :=
  match v with
  | .list items => items[index]?
  | _ => none

/-- The string, if the value is one. -/
def text? : Value → Option String
  | .text s => some s
  | _ => none

/-- The number as a double, if the value is a number. -/
def float? : Value → Option Float
  | .whole n => some (floatOfInt n)
  | .real x => some x
  | _ => none

/-- The value is `null`. -/
def isNull : Value → Bool
  | .null => true
  | _ => false

mutual

/-- The compact text of a value. -/
def chars : Value → List Char
  | .null => ['n', 'u', 'l', 'l']
  | .bool true => ['t', 'r', 'u', 'e']
  | .bool false => ['f', 'a', 'l', 's', 'e']
  | .whole n => intChars n
  | .real x => (Decimal.numeral? x).getD ['n', 'u', 'l', 'l']
  | .text s => quote s.toList
  | .list items => '[' :: itemsChars items ++ [']']
  | .record members => '\x7b' :: membersChars members ++ ['\x7d']

/-- The texts of values, separated by commas. -/
def itemsChars : List Value → List Char
  | [] => []
  | [v] => chars v
  | v :: w :: rest => chars v ++ ',' :: itemsChars (w :: rest)

/-- The texts of members, separated by commas. -/
def membersChars : List (String × Value) → List Char
  | [] => []
  | [(k, v)] => quote k.toList ++ ':' :: chars v
  | (k, v) :: m :: rest => quote k.toList ++ ':' :: chars v ++ ',' :: membersChars (m :: rest)

end

/-- The compact text of a value, as a string. -/
def render (v : Value) : String := String.ofList v.chars

/-- The value that stands for a missing one. -/
def ofOption {α : Type} (f : α → Value) : Option α → Value
  | none => .null
  | some a => f a

end Value

end MarketDesk.Json
