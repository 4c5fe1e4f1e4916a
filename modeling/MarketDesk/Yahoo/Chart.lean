import MarketDesk.Desk.Timeline
import MarketDesk.Json.Shape
import MarketDesk.Word

/-!
# Charts

A chart reply holds results or an error. A result has time stamps, columns of prices beside them,
dividend events, and the distance of the exchange from universal time. Bars are the complete rows;
a row needs a day and four prices, and counts no volume as zero. A time stamp stands for the day
that it falls on at the exchange.
-/

namespace MarketDesk.Yahoo

open MarketDesk.Calendar MarketDesk.Json

/-- The error that a reply may hold. -/
structure Payload where
  code : String
  description : String
  deriving DecidableEq, Repr

/-- Columns of prices, which may be of different lengths and have gaps. -/
structure PriceColumns where
  opening : List (Option Float)
  high : List (Option Float)
  low : List (Option Float)
  close : List (Option Float)
  volume : List (Option UInt64)

/-- A dividend event. -/
structure Payment where
  amount : Float
  timestamp : Int

/-- A result of a chart request. -/
structure Chart where
  /-- Seconds to add to universal time for the time at the exchange. -/
  offset : Int
  timestamps : List Int
  quotes : List PriceColumns
  payments : List Payment

/-- A chart reply. -/
structure ChartReply where
  results : Option (List Chart)
  error : Option Payload

/-! ## Reading -/

namespace Payload

/-- Reads the error of a reply. -/
def ofJson? (r : Raw) : Option Payload := do
  let m ← r.members? ["code", "description"]
  pure {
    code := ← m.required? "code" Raw.string?
    description := ← m.required? "description" Raw.string? }

/-- The error as one text. -/
def text (p : Payload) : String := p.code ++ ": " ++ p.description

end Payload

/-- Reads columns of prices; each may be absent. -/
def PriceColumns.ofJson? (r : Raw) : Option PriceColumns := do
  let m ← r.members? ["open", "high", "low", "close", "volume"]
  let prices := Raw.list? (Raw.orNull? Raw.float?)
  pure {
    opening := ← m.defaulted? "open" [] prices
    high := ← m.defaulted? "high" [] prices
    low := ← m.defaulted? "low" [] prices
    close := ← m.defaulted? "close" [] prices
    volume := ← m.defaulted? "volume" [] (Raw.list? (Raw.orNull? Raw.unsigned64?)) }

/-- Reads a dividend event. -/
def Payment.ofJson? (r : Raw) : Option Payment := do
  let m ← r.members? ["amount", "date"]
  pure {
    amount := ← m.required? "amount" Raw.float?
    timestamp := ← m.required? "date" Raw.signed64? }

/-- Reads the quotes of a result. -/
def quotesOf? (r : Raw) : Option (List PriceColumns) := do
  let m ← r.members? ["quote"]
  m.defaulted? "quote" [] (Raw.list? PriceColumns.ofJson?)

/-- Reads the offset from the description of a result. -/
def offsetOf? (r : Raw) : Option (Option Int) := do
  let m ← r.members? ["gmtoffset"]
  m.optional? "gmtoffset" Raw.signed64?

/-- Reads the dividend events of a result. -/
def paymentsOf? (r : Raw) : Option (List Payment) := do
  let m ← r.members? ["dividends"]
  let events ← m.defaulted? "dividends" [] (Raw.map? Payment.ofJson?)
  pure (events.map Prod.snd)

/-- Reads a result. -/
def Chart.ofJson? (r : Raw) : Option Chart := do
  let m ← r.members? ["meta", "timestamp", "indicators", "events"]
  let offset ← m.optional? "meta" offsetOf?
  let timestamps ← m.optional? "timestamp" (Raw.list? Raw.signed64?)
  let quotes ← m.required? "indicators" quotesOf?
  let payments ← m.optional? "events" paymentsOf?
  pure ⟨offset.join.getD 0, timestamps.getD [], quotes, payments.getD []⟩

/-- Reads a chart reply. -/
def ChartReply.ofJson? (r : Raw) : Option ChartReply := do
  let m ← r.members? ["chart"]
  m.required? "chart" fun r => do
    let m ← r.members? ["result", "error"]
    pure {
      results := ← m.optional? "result" (Raw.list? Chart.ofJson?)
      error := ← m.optional? "error" Payload.ofJson? }

/-! ## Bars and dividends -/

/-- The day of a time stamp at the exchange. -/
def localDate? (timestamp offset : Int) : Option Date :=
  let seconds := timestamp + offset
  if Word.IsSigned64 seconds then Date.ofEpochSeconds? seconds else none

/-- The value of a column in a row, if it has one. -/
def valueAt? {α : Type} (column : List (Option α)) (row : Nat) : Option α := column[row]?.join

namespace Chart

/-- The bar of a row, if the row is complete. -/
def barAt? (offset : Int) (q : PriceColumns) (timestamp : Int) (row : Nat) : Option Bar := do
  pure {
    date := ← localDate? timestamp offset
    opening := ← valueAt? q.opening row
    high := ← valueAt? q.high row
    low := ← valueAt? q.low row
    close := ← valueAt? q.close row
    volume := (valueAt? q.volume row).getD 0 }

/-- The complete rows of the first columns, in their order. -/
def completeRows (c : Chart) : List Bar :=
  match c.quotes with
  | [] => []
  | q :: _ => c.timestamps.zipIdx.filterMap fun (timestamp, row) => barAt? c.offset q timestamp row

/-- The bars of a chart, ascending by date. -/
def bars (c : Chart) : List Bar := sortBars c.completeRows

/-- The dividend of an event, if its day is in the calendar. -/
def dividendOf? (offset : Int) (p : Payment) : Option Dividend :=
  (localDate? p.timestamp offset).map fun date => ⟨date, p.amount⟩

/-- The dividends of a chart, ascending by date. -/
def dividends (c : Chart) : List Dividend :=
  sortDividends (c.payments.filterMap (dividendOf? c.offset))

end Chart

end MarketDesk.Yahoo
