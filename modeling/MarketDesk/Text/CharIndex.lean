import MarketDesk.Text.CodeTable

/-!
# Indices of characters

A character set numbers its characters, with gaps. Such an index is kept as text in rows with white
space between them. `first:chars` lists the characters from the number `first` on, and `a-z` among
them stands for the characters from `a` to `z`; `first=images` is an entry of a `CodeMap`, for what
is white space or more than one character.
-/

namespace MarketDesk.Text

/-- The characters with the numbers of an index. -/
abbrev CharIndex := CodeMap

namespace CharIndex

/-- The characters of a row, with its ranges written out. -/
def spread : List Char → List Char
  | a :: '-' :: b :: cs =>
    (List.range' a.toNat (b.toNat + 1 - a.toNat)).map Char.ofNat ++ spread cs
  | c :: cs => c :: spread cs
  | [] => []

/-- Reads one row. -/
def row (cs : List Char) : CharIndex :=
  match splitOn ':' cs with
  | [first, chars] =>
    match hexNat? first with
    | some first => (spread chars).zipIdx.map fun (c, i) => (first + i, [c])
    | none => []
  | _ => CodeMap.entry cs

/-- The index that a text lists. -/
def ofText (text : String) : CharIndex := (words text.toList).flatMap row

end CharIndex

end MarketDesk.Text
