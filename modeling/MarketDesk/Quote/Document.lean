import MarketDesk.Calendar.DateText
import MarketDesk.Json.Shape
import MarketDesk.Period
import MarketDesk.Quote.Basic

/-!
# Quotes as JSON

Every kind of quote has a written form, in which the members stand in a fixed order and an absent
one is `null`, and a reader. A day is a string in the form of a date; earnings are a string too,
which counts as a day whenever it can be read as one.
-/

namespace MarketDesk

open MarketDesk.Calendar MarketDesk.Json

namespace Period

/-- A period is written as its text. -/
def toJson (p : Period) : Value := .text p.text

/-- Reads the text of a period, or an object that maps that text to `null`. -/
def ofJson? : Raw → Option Period
  | .record [(key, .null)] => (stringOf? key).bind ofText?
  | r => r.string?.bind ofText?

end Period

namespace Symbol

/-- A symbol is written as a string. -/
def toJson (s : Symbol) : Value := .text s.text

/-- Reads any string. -/
def ofJson? (r : Raw) : Option Symbol := r.string?.map Symbol.mk

end Symbol

/-- A day is written as a string. -/
def Calendar.Date.toJson (d : Date) : Value := .text d.text

/-- Reads a string in the form of a date. -/
def Calendar.Date.ofJson? (r : Raw) : Option Date := r.string?.bind Date.ofText?

namespace Bar

/-- The members of a bar, in order. -/
def members : List String := ["date", "open", "high", "low", "close", "volume"]

/-- The written form of a bar. -/
def toJson (b : Bar) : Value :=
  .record [("date", b.date.toJson), ("open", .real b.opening), ("high", .real b.high),
    ("low", .real b.low), ("close", .real b.close), ("volume", .whole b.volume.toNat)]

/-- Reads a bar. -/
def ofJson? (r : Raw) : Option Bar := do
  let m ← r.members? members
  pure {
    date := ← m.required? "date" Date.ofJson?
    opening := ← m.required? "open" Raw.float?
    high := ← m.required? "high" Raw.float?
    low := ← m.required? "low" Raw.float?
    close := ← m.required? "close" Raw.float?
    volume := ← m.required? "volume" Raw.unsigned64? }

end Bar

namespace TradingDay

/-- The members of a trading day, in order. -/
def members : List String := ["date", "open", "close", "low", "high", "volume", "dividend"]

/-- The written form of a trading day. -/
def toJson (d : TradingDay) : Value :=
  .record [("date", d.date.toJson), ("open", .real d.opening), ("close", .real d.close),
    ("low", .real d.low), ("high", .real d.high), ("volume", .whole d.volume.toNat),
    ("dividend", .real d.dividend)]

/-- Reads a trading day. -/
def ofJson? (r : Raw) : Option TradingDay := do
  let m ← r.members? members
  pure {
    date := ← m.required? "date" Date.ofJson?
    opening := ← m.required? "open" Raw.float?
    close := ← m.required? "close" Raw.float?
    low := ← m.required? "low" Raw.float?
    high := ← m.required? "high" Raw.float?
    volume := ← m.required? "volume" Raw.unsigned64?
    dividend := ← m.required? "dividend" Raw.float? }

end TradingDay

namespace Dividend

/-- The written form of a dividend. -/
def toJson (d : Dividend) : Value :=
  .record [("date", d.date.toJson), ("amount", .real d.amount)]

/-- Reads a dividend. -/
def ofJson? (r : Raw) : Option Dividend := do
  let m ← r.members? ["date", "amount"]
  pure {
    date := ← m.required? "date" Date.ofJson?
    amount := ← m.required? "amount" Raw.float? }

end Dividend

namespace Earnings

/-- Earnings are written as a string, whether they are a day or not. -/
def toJson : Earnings → Value
  | .on d => d.toJson
  | .raw s => .text s

/-- The earnings that a string stands for. -/
def ofText (s : String) : Earnings :=
  match Date.ofText? s with
  | some d => .on d
  | none => .raw s

/-- Reads any string. -/
def ofJson? (r : Raw) : Option Earnings := r.string?.map ofText

end Earnings

namespace Overview

/-- The members of an overview, in order. -/
def members : List String :=
  ["name", "price", "pe_ratio", "pb_ratio", "eps", "roe", "market_cap", "recommendation",
    "analyst_count", "fifty_two_week_high", "fifty_two_week_low", "beta", "sector", "industry",
    "earnings_date", "dividend_rate", "trailing_annual_dividend_rate"]

/-- The written form of an overview; every member is there. -/
def toJson (o : Overview) : Value :=
  let text := Value.ofOption Value.text
  let real := Value.ofOption Value.real
  .record [("name", text o.name), ("price", real o.price), ("pe_ratio", real o.peRatio),
    ("pb_ratio", real o.pbRatio), ("eps", real o.eps), ("roe", real o.roe),
    ("market_cap", real o.marketCap), ("recommendation", text o.recommendation),
    ("analyst_count", Value.ofOption (fun n => .whole n.toNat) o.analystCount),
    ("fifty_two_week_high", real o.fiftyTwoWeekHigh),
    ("fifty_two_week_low", real o.fiftyTwoWeekLow), ("beta", real o.beta),
    ("sector", text o.sector), ("industry", text o.industry),
    ("earnings_date", Value.ofOption Earnings.toJson o.earnings),
    ("dividend_rate", real o.dividendRate),
    ("trailing_annual_dividend_rate", real o.trailingDividendRate)]

/-- Reads an overview. -/
def ofJson? (r : Raw) : Option Overview := do
  let m ← r.members? members
  pure {
    name := ← m.optional? "name" Raw.string?
    price := ← m.optional? "price" Raw.float?
    peRatio := ← m.optional? "pe_ratio" Raw.float?
    pbRatio := ← m.optional? "pb_ratio" Raw.float?
    eps := ← m.optional? "eps" Raw.float?
    roe := ← m.optional? "roe" Raw.float?
    marketCap := ← m.optional? "market_cap" Raw.float?
    recommendation := ← m.optional? "recommendation" Raw.string?
    analystCount := ← m.optional? "analyst_count" Raw.unsigned64?
    fiftyTwoWeekHigh := ← m.optional? "fifty_two_week_high" Raw.float?
    fiftyTwoWeekLow := ← m.optional? "fifty_two_week_low" Raw.float?
    beta := ← m.optional? "beta" Raw.float?
    sector := ← m.optional? "sector" Raw.string?
    industry := ← m.optional? "industry" Raw.string?
    earnings := ← m.optional? "earnings_date" Earnings.ofJson?
    dividendRate := ← m.optional? "dividend_rate" Raw.float?
    trailingDividendRate := ← m.optional? "trailing_annual_dividend_rate" Raw.float? }

end Overview

/-- The kinds of documents that can be read and written again. -/
inductive DocumentKind where
  | period
  | symbol
  | bar
  | tradingDay
  | dividend
  | earnings
  | overview
  deriving DecidableEq, Repr

/-- Reads a document of a kind and gives its written form. -/
def DocumentKind.normalize? (kind : DocumentKind) (text : String) : Option Value := do
  let r ← Raw.ofText? text
  match kind with
  | .period => (Period.ofJson? r).map Period.toJson
  | .symbol => (Symbol.ofJson? r).map Symbol.toJson
  | .bar => (Bar.ofJson? r).map Bar.toJson
  | .tradingDay => (TradingDay.ofJson? r).map TradingDay.toJson
  | .dividend => (Dividend.ofJson? r).map Dividend.toJson
  | .earnings => (Earnings.ofJson? r).map Earnings.toJson
  | .overview => (Overview.ofJson? r).map Overview.toJson

end MarketDesk
