import MarketDesk.Decimal.Binary
import MarketDesk.Frame.Basic
import MarketDesk.Text.Digits
import MarketDesk.Word

/-!
# Casting cells to integers

A cell of any type is cast to an integer type by its exact value: a number is cut toward zero, a
flag counts as zero or one, a text has to be a plain integer. A value that is no number or lies
outside the type becomes null; a cast never fails.
-/

namespace MarketDesk.Cells

/-- The integers that the cells stand for, read before any range is applied. Texts are read by
`readText`, since a minus sign is allowed only for a signed type. -/
def wholes (readText : List Char → Option Int) : Cells → List (Option Int)
  | .int32 cs => cs.map (·.map Int32.toInt)
  | .int64 cs => cs.map (·.map Int64.toInt)
  | .uint32 cs => cs.map (·.map fun n => (n.toNat : Int))
  | .uint64 cs => cs.map (·.map fun n => (n.toNat : Int))
  | .float32 cs => cs.map (·.bind fun x => Decimal.truncate? x.toFloat)
  | .float64 cs => cs.map (·.bind Decimal.truncate?)
  | .flag cs => cs.map (·.map fun b => if b then 1 else 0)
  | .text cs => cs.map (·.bind fun s => readText s.toList)
  | .date cs => cs.map (·.map Int32.toInt)

/-- The cells as day numbers, which are signed 32-bit integers. -/
def days (cells : Cells) : List (Option Int) :=
  (cells.wholes Text.signed?).map (·.filter fun n => decide (Word.IsSigned32 n))

/-- The cells as volumes, which are unsigned 64-bit integers. -/
def volumes (cells : Cells) : List (Option UInt64) :=
  (cells.wholes fun cs => (Text.unsigned? cs).map Int.ofNat).map fun cell =>
    (cell.filter fun n => decide (Word.IsUnsigned64 n)).map fun n => UInt64.ofNat n.toNat

/-- The cells as doubles, which only a column of that type has. -/
def floats? : Cells → Option (List (Option Float))
  | .float64 cs => some cs
  | _ => none

end MarketDesk.Cells
