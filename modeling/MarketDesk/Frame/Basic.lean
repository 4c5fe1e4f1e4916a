/-!
# Frames

A frame is a table of named columns of one height, each with cells of one type, in which a cell
may be null. Column names are distinct. A date cell holds a day number, counted from 1970-01-01.
-/

namespace MarketDesk

/-- The cells of a column, by type. -/
inductive Cells where
  | int32 (cells : List (Option Int32))
  | int64 (cells : List (Option Int64))
  | uint32 (cells : List (Option UInt32))
  | uint64 (cells : List (Option UInt64))
  | float32 (cells : List (Option Float32))
  | float64 (cells : List (Option Float))
  | flag (cells : List (Option Bool))
  | text (cells : List (Option String))
  | date (cells : List (Option Int32))

namespace Cells

/-- The number of cells. -/
def length : Cells → Nat
  | .int32 cs => cs.length
  | .int64 cs => cs.length
  | .uint32 cs => cs.length
  | .uint64 cs => cs.length
  | .float32 cs => cs.length
  | .float64 cs => cs.length
  | .flag cs => cs.length
  | .text cs => cs.length
  | .date cs => cs.length

/-- The name of the cells' type. -/
def typeName : Cells → String
  | .int32 _ => "i32"
  | .int64 _ => "i64"
  | .uint32 _ => "u32"
  | .uint64 _ => "u64"
  | .float32 _ => "f32"
  | .float64 _ => "f64"
  | .flag _ => "bool"
  | .text _ => "str"
  | .date _ => "date"

end Cells

/-- A named column. -/
structure Column where
  name : String
  cells : Cells

/-- A table of columns with distinct names and one height. -/
structure Frame where
  height : Nat
  columns : List Column
  level : ∀ c ∈ columns, c.cells.length = height
  distinct : (columns.map Column.name).Nodup

namespace Frame

/-- The frame without columns. -/
def empty : Frame := ⟨0, [], by simp, by simp⟩

/-- The frame of the given columns, if they have one height and distinct names. -/
def ofColumns? (columns : List Column) : Option Frame :=
  let height := (columns.head?.map fun c => c.cells.length).getD 0
  if level : ∀ c ∈ columns, c.cells.length = height then
    if distinct : (columns.map Column.name).Nodup then some ⟨height, columns, level, distinct⟩
    else none
  else none

/-- The cells of the column with a name. -/
def cells? (f : Frame) (name : String) : Option Cells :=
  (f.columns.find? fun c => c.name == name).map Column.cells

end Frame

end MarketDesk
