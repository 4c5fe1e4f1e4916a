import MarketDesk.Text.Blank
import MarketDesk.Text.Digits

/-!
# Tables of code points

Properties of characters are kept as text, with white space between the entries and all numbers in
hexadecimal. `CodeRange.list` reads ranges, `first-last` or a single code point. `CodeMap.ofText`
reads images: `first=image,image` says what the code points from `first` on become, and an image
is a row of code points with plus signs between them. An entry of another form is passed over.
-/

namespace MarketDesk.Text

/-- The code points from `first` to `last`. -/
structure CodeRange where
  first : Nat
  last : Nat
  deriving DecidableEq, Repr

namespace CodeRange

/-- The character is in the range. -/
def contains (r : CodeRange) (c : Char) : Bool :=
  decide (r.first ≤ c.toNat) && decide (c.toNat ≤ r.last)

/-- Reads one range. -/
def ofChars? (cs : List Char) : Option CodeRange :=
  match splitOn '-' cs with
  | [n] => (hexNat? n).map fun n => ⟨n, n⟩
  | [first, last] => do pure ⟨← hexNat? first, ← hexNat? last⟩
  | _ => none

/-- The ranges that a text lists. -/
def list (text : String) : List CodeRange := (words text.toList).filterMap ofChars?

/-- One of the ranges has the character. -/
def covers (rs : List CodeRange) (c : Char) : Bool := rs.any (·.contains c)

theorem covers_iff {rs : List CodeRange} {c : Char} :
    covers rs c = true ↔ ∃ r ∈ rs, r.first ≤ c.toNat ∧ c.toNat ≤ r.last := by
  simp [covers, contains]

end CodeRange

/-- What code points become. -/
abbrev CodeMap := List (Nat × List Char)

namespace CodeMap

/-- Reads an image. -/
def ofImage? (cs : List Char) : Option (List Char) :=
  ((splitOn '+' cs).mapM hexNat?).map (·.map Char.ofNat)

/-- Reads one entry. -/
def entry (cs : List Char) : CodeMap :=
  match splitOn '=' cs with
  | [first, images] =>
    match hexNat? first, (splitOn ',' images).mapM ofImage? with
    | some first, some images => images.zipIdx.map fun (image, i) => (first + i, image)
    | _, _ => []
  | _ => []

/-- The images that a text lists. -/
def ofText (text : String) : CodeMap := (words text.toList).flatMap entry

/-- The image of a character, if it has one. -/
def image? (m : CodeMap) (c : Char) : Option (List Char) := m.lookup c.toNat

end CodeMap

end MarketDesk.Text
