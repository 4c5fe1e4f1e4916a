import MarketDesk.Fault
import MarketDesk.Frame.Cast
import MarketDesk.Quote.Basic

/-!
# Bars and dividends as frames

A price frame has the columns `date`, `open`, `high`, `low`, `close` and `volume`; a dividend
frame has `date` and `amount`. Reading looks the columns up by name, so their order and further
columns do not matter. All dates are read first, from the top; then the other columns are looked
up in the order above; then the rows are read from the top, and the first null in a row is
reported.
-/

namespace MarketDesk

open MarketDesk.Calendar

namespace Frame

/-- The day numbers of dates, as a column. -/
def dateColumn (dates : List Date) : Column :=
  ⟨"date", .date (dates.map fun d => some (Int32.ofInt d.dayNumber))⟩

/-- Doubles as a column. -/
def floatColumn (name : String) (xs : List Float) : Column := ⟨name, .float64 (xs.map some)⟩

/-- The columns of a price frame. -/
def barColumns (bars : List Bar) : List Column :=
  [dateColumn (bars.map Bar.date), floatColumn "open" (bars.map Bar.opening),
    floatColumn "high" (bars.map Bar.high), floatColumn "low" (bars.map Bar.low),
    floatColumn "close" (bars.map Bar.close),
    ⟨"volume", .uint64 (bars.map fun b => some b.volume)⟩]

/-- The price frame of bars. -/
def ofBars (bars : List Bar) : Frame where
  height := bars.length
  columns := barColumns bars
  level := by simp [barColumns, dateColumn, floatColumn, Cells.length]
  distinct := by simp [barColumns, dateColumn, floatColumn]

/-- The columns of a dividend frame. -/
def dividendColumns (dividends : List Dividend) : List Column :=
  [dateColumn (dividends.map Dividend.date),
    floatColumn "amount" (dividends.map Dividend.amount)]

/-- The dividend frame of dividends. -/
def ofDividends (dividends : List Dividend) : Frame where
  height := dividends.length
  columns := dividendColumns dividends
  level := by simp [dividendColumns, dateColumn, floatColumn, Cells.length]
  distinct := by simp [dividendColumns, dateColumn, floatColumn]

/-- The error for a column that is not there. -/
def missingColumn (name : String) : DataError :=
  .frame ("not found: \"" ++ name ++ "\" not found")

/-- The error for a column of another type than doubles. -/
def wrongType (name : String) (cells : Cells) : DataError :=
  .frame ("invalid series dtype: expected `Float64`, got `" ++ cells.typeName ++
    "` for series with name `" ++ name ++ "`")

/-- The error for a null. -/
def nullCell (name : String) (row : Nat) : DataError :=
  .frame ("null " ++ name ++ " at row " ++ toString row)

/-- The cells of a column that has to be there. -/
def column (f : Frame) (name : String) : Except Fault Cells :=
  match f.cells? name with
  | some cells => .ok cells
  | none => .error (.error (missingColumn name))

/-- The cells of a column that has to be there and to hold doubles. -/
def floats (f : Frame) (name : String) : Except Fault (List (Option Float)) := do
  let cells ← f.column name
  match cells.floats? with
  | some xs => pure xs
  | none => throw (.error (wrongType name cells))

/-- The day of a cell in a row. A day number beyond the calendar breaks the reading down. -/
def dateAt (row : Nat) : Option Int → Except Fault Date
  | none => .error (.error (nullCell "date" row))
  | some n =>
    match Date.ofDayNumber? n with
    | some d => .ok d
    | none => .error .abort

/-- The dates of all rows, from the given row on. -/
def datesFrom (row : Nat) : List (Option Int) → Except Fault (List Date)
  | [] => .ok []
  | cell :: cells => do
    let d ← dateAt row cell
    let ds ← datesFrom (row + 1) cells
    pure (d :: ds)

/-- The dates of a frame. -/
def dates (f : Frame) : Except Fault (List Date) := do
  let cells ← f.column "date"
  datesFrom 0 cells.days

/-- The value of a column in a row. -/
def cellAt {α : Type} (name : String) (cells : List (Option α)) (row : Nat) : Except Fault α :=
  match cells[row]? with
  | some (some a) => .ok a
  | _ => .error (.error (nullCell name row))

/-- Reads the bars of a price frame. -/
def bars (f : Frame) : Except Fault (List Bar) := do
  let dates ← f.dates
  let opens ← f.floats "open"
  let highs ← f.floats "high"
  let lows ← f.floats "low"
  let closes ← f.floats "close"
  let volumes := (← f.column "volume").volumes
  dates.zipIdx.mapM fun (date, row) => do
    pure {
      date
      opening := ← cellAt "open" opens row
      high := ← cellAt "high" highs row
      low := ← cellAt "low" lows row
      close := ← cellAt "close" closes row
      volume := ← cellAt "volume" volumes row }

/-- Reads the dividends of a dividend frame. -/
def dividends (f : Frame) : Except Fault (List Dividend) := do
  let dates ← f.dates
  let amounts ← f.floats "amount"
  dates.zipIdx.mapM fun (date, row) => do
    pure { date, amount := ← cellAt "amount" amounts row }

end Frame

end MarketDesk
