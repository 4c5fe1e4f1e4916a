import MarketDesk.Calendar.Date
import MarketDesk.Json.Value

/-!
# Quotes

The data that the desk deals in: daily bars, trading days with their dividend, dividends, the
overview of a company, and the snapshot of raw fields that the overview is made from.
-/

namespace MarketDesk

open MarketDesk.Calendar

/-- A ticker symbol, kept exactly as given: symbols that differ in case or in spaces differ. -/
structure Symbol where
  text : String
  deriving DecidableEq, Repr, Inhabited

/-- Prices and volume of one day. -/
structure Bar where
  date : Date
  opening : Float
  high : Float
  low : Float
  close : Float
  volume : UInt64

/-- A payment per share on its ex-dividend day. -/
structure Dividend where
  date : Date
  amount : Float

/-- One day of a history: a bar and the dividend of that day, zero if there is none. -/
structure TradingDay where
  date : Date
  opening : Float
  close : Float
  low : Float
  high : Float
  volume : UInt64
  dividend : Float

/-- The day of a bar, with a dividend. -/
def TradingDay.ofBar (bar : Bar) (dividend : Float) : TradingDay :=
  { date := bar.date, opening := bar.opening, close := bar.close, low := bar.low,
    high := bar.high, volume := bar.volume, dividend }

/-- When the next earnings are reported: a day, or the text of a value that is none. -/
inductive Earnings where
  | on (date : Date)
  | raw (text : String)
  deriving DecidableEq, Repr

/-- Raw fields by name, in key order. -/
abbrev Snapshot := Json.Record Json.Value

/-- Quote and fundamentals of a company; a field that is not known is absent. -/
structure Overview where
  name : Option String
  price : Option Float
  peRatio : Option Float
  pbRatio : Option Float
  eps : Option Float
  roe : Option Float
  marketCap : Option Float
  recommendation : Option String
  analystCount : Option UInt64
  fiftyTwoWeekHigh : Option Float
  fiftyTwoWeekLow : Option Float
  beta : Option Float
  sector : Option String
  industry : Option String
  earnings : Option Earnings
  dividendRate : Option Float
  trailingDividendRate : Option Float

end MarketDesk
