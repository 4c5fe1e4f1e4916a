import MarketDesk.Json.Raw
import MarketDesk.Text.Utf8

/-!
# Reading JSON text

A strict reader: four kinds of white space, no byte order mark, no comments, no superfluous zero
before or missing digit after a point, no control character in a string, nothing after the
document. It reads decoded bytes, in which `none` marks a broken sequence; such a mark is
tolerated inside a string and nowhere else. Nesting is not limited.
-/

namespace MarketDesk.Json

open MarketDesk.Text MarketDesk.Decimal

/-- A symbol of the input: a character, or the mark of a broken byte sequence. -/
abbrev Symbols := List (Option Char)

/-- The character is white space between tokens. -/
def isJsonBlank (c : Option Char) : Bool :=
  c == some ' ' || c == some '\n' || c == some '\t' || c == some '\r'

/-- The input from its next token on. -/
def skipBlank (cs : Symbols) : Symbols := cs.dropWhile isJsonBlank

/-- The code unit of four hexadecimal digits. -/
def unitOf? (a b c d : Char) : Option Nat := hexNat? [a, b, c, d]

/-- The character of a short escape. -/
def shortEscape? : Char → Option Char
  | '"' => some '"'
  | '\\' => some '\\'
  | '/' => some '/'
  | 'b' => some '\x08'
  | 'f' => some '\x0c'
  | 'n' => some '\n'
  | 'r' => some '\r'
  | 't' => some '\t'
  | _ => none

/-- Reads a string after its opening quote, up to and with the closing one. -/
def readText? : Symbols → Option (List Piece × Symbols)
  | [] => none
  | none :: cs => (readText? cs).map fun (t, cs) => (.broken :: t, cs)
  | some '"' :: cs => some ([], cs)
  | some '\\' :: some 'u' :: some a :: some b :: some c :: some d :: cs =>
    match unitOf? a b c d with
    | some u => (readText? cs).map fun (t, cs) => (.unit u :: t, cs)
    | none => none
  | some '\\' :: some e :: cs =>
    match shortEscape? e with
    | some c => (readText? cs).map fun (t, cs) => (.scalar c :: t, cs)
    | none => none
  | some c :: cs =>
    if c = '\\' ∨ c.toNat < 0x20 then none
    else (readText? cs).map fun (t, cs) => (.scalar c :: t, cs)

/-- Splits off the digits in front. -/
def takeDigits : Symbols → List Nat × Symbols
  | some c :: cs =>
    match digit? c with
    | some d =>
      let (ds, rest) := takeDigits cs
      (d :: ds, rest)
    | none => ([], some c :: cs)
  | cs => ([], cs)

/-- Reads the digits before a point; only a lone zero begins with zero. -/
def readWhole? (cs : Symbols) : Option (List Nat × Symbols) :=
  match takeDigits cs with
  | ([], _) => none
  | (0 :: _ :: _, _) => none
  | r => some r

/-- Reads a point and the digits after it, if a point follows. -/
def readFraction? : Symbols → Option (List Nat × Symbols)
  | some '.' :: cs =>
    match takeDigits cs with
    | ([], _) => none
    | r => some r
  | cs => some ([], cs)

/-- Reads the digits of an exponent after its sign. -/
def readExponentDigits? (negative : Bool) (cs : Symbols) : Option (Option Int × Symbols) :=
  match takeDigits cs with
  | ([], _) => none
  | (ds, cs) =>
    let e : Int := ofDigits 10 ds
    some (some (if negative then -e else e), cs)

/-- Reads an exponent, if one follows. -/
def readExponent? : Symbols → Option (Option Int × Symbols)
  | some c :: cs =>
    if c = 'e' ∨ c = 'E' then
      match cs with
      | some '+' :: cs => readExponentDigits? false cs
      | some '-' :: cs => readExponentDigits? true cs
      | cs => readExponentDigits? false cs
    else some (none, some c :: cs)
  | cs => some (none, cs)

/-- Reads a number after its sign. -/
def readNumeral? (negative : Bool) (cs : Symbols) : Option (Numeral × Symbols) := do
  let (whole, cs) ← readWhole? cs
  let (fraction, cs) ← readFraction? cs
  let (exponent, cs) ← readExponent? cs
  pure ({ negative, whole, fraction, exponent }, cs)

/-- Reads a literal name or a number. -/
def readScalar? : Symbols → Option (Raw × Symbols)
  | some 'n' :: some 'u' :: some 'l' :: some 'l' :: cs => some (.null, cs)
  | some 't' :: some 'r' :: some 'u' :: some 'e' :: cs => some (.bool true, cs)
  | some 'f' :: some 'a' :: some 'l' :: some 's' :: some 'e' :: cs => some (.bool false, cs)
  | some '-' :: cs => (readNumeral? true cs).map fun (n, cs) => (.number n, cs)
  | cs => (readNumeral? false cs).map fun (n, cs) => (.number n, cs)

mutual

/-- Reads a value. -/
def readValue? : (fuel : Nat) → Symbols → Option (Raw × Symbols)
  | 0, _ => none
  | fuel + 1, cs =>
    match skipBlank cs with
    | some '"' :: cs => (readText? cs).map fun (t, cs) => (.text t, cs)
    | some '[' :: cs =>
      match skipBlank cs with
      | some ']' :: cs => some (.list [], cs)
      | cs => (readItems? fuel cs).map fun (items, cs) => (.list items, cs)
    | some '\x7b' :: cs =>
      match skipBlank cs with
      | some '\x7d' :: cs => some (.record [], cs)
      | cs => (readMembers? fuel cs).map fun (members, cs) => (.record members, cs)
    | cs => readScalar? cs

/-- Reads at least one item and the closing bracket. -/
def readItems? : (fuel : Nat) → Symbols → Option (List Raw × Symbols)
  | 0, _ => none
  | fuel + 1, cs => do
    let (item, cs) ← readValue? fuel cs
    match skipBlank cs with
    | some ']' :: cs => pure ([item], cs)
    | some ',' :: cs =>
      let (items, cs) ← readItems? fuel cs
      pure (item :: items, cs)
    | _ => none

/-- Reads at least one member and the closing brace. -/
def readMembers? : (fuel : Nat) → Symbols → Option (List (List Piece × Raw) × Symbols)
  | 0, _ => none
  | fuel + 1, cs =>
    match skipBlank cs with
    | some '"' :: cs => do
      let (key, cs) ← readText? cs
      match skipBlank cs with
      | some ':' :: cs =>
        let (value, cs) ← readValue? fuel cs
        match skipBlank cs with
        | some '\x7d' :: cs => pure ([(key, value)], cs)
        | some ',' :: cs =>
          let (members, cs) ← readMembers? fuel cs
          pure ((key, value) :: members, cs)
        | _ => none
      | _ => none
    | _ => none

end

namespace Raw

/-- Reads a whole document. Each step of the recursion but every other one consumes a symbol, so
the fuel never runs out first. -/
def parse? (cs : Symbols) : Option Raw := do
  let (r, rest) ← readValue? (2 * cs.length + 2) cs
  if (skipBlank rest).isEmpty then some r else none

/-- Reads a document from a string. -/
def ofText? (s : String) : Option Raw := parse? (s.toList.map some)

/-- Reads a document from bytes. -/
def ofBytes? (bytes : List UInt8) : Option Raw := parse? (Utf8.scan bytes)

end Raw

end MarketDesk.Json
