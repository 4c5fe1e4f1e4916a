import MarketDesk.Calendar.DateText
import MarketDesk.Decimal.Binary
import MarketDesk.Quote.Basic
import MarketDesk.Word

/-!
# From raw fields to an overview

Each field of an overview has its own key in the snapshot, and the name and the price have a
second one to fall back on. A value of the wrong kind counts as absent, and so does an empty
text. Earnings are given in seconds since the epoch; a value that is no such day is kept as text.
-/

namespace MarketDesk

open MarketDesk.Calendar MarketDesk.Json

namespace Snapshot

/-- The text under a key, unless it is empty. -/
def text? (s : Snapshot) (key : String) : Option String :=
  ((Record.get? s key).bind Value.text?).filter fun t => !t.isEmpty

/-- The number under a key. -/
def number? (s : Snapshot) (key : String) : Option Float :=
  (Record.get? s key).bind Value.float?

/-- The unsigned integer of a value. -/
def countOf? : Value → Option UInt64
  | .whole n => if Word.IsUnsigned64 n then some (UInt64.ofNat n.toNat) else none
  | _ => none

/-- The unsigned integer under a key. -/
def count? (s : Snapshot) (key : String) : Option UInt64 :=
  (Record.get? s key).bind countOf?

/-- A value as whole seconds, if it is a number equal to a 64-bit integer. The least such integer
is accepted as an integer but not as a double. -/
def secondsOf? : Value → Option Int
  | .whole n => if Word.IsSigned64 n then some n else none
  | .real x =>
    match Decimal.whole? x with
    | some n => if Word.IsSigned64 n ∧ Word.IsSigned64 (-n) then some n else none
    | none => none
  | _ => none

/-- The text that stands for a value that is no day. -/
def plainText : Value → String
  | .text s => s
  | v => v.render

/-- Earnings from a value other than `null`. -/
def earningsOf (v : Value) : Earnings :=
  match (secondsOf? v).bind Date.ofEpochSeconds? with
  | some d => .on d
  | none => .raw (plainText v)

/-- Earnings from the snapshot. -/
def earnings? (s : Snapshot) : Option Earnings :=
  ((Record.get? s "earningsTimestamp").filter fun v => !v.isNull).map earningsOf

/-- The overview that a snapshot gives. -/
def overview (s : Snapshot) : Overview where
  name := text? s "longName" <|> text? s "shortName"
  price := number? s "currentPrice" <|> number? s "regularMarketPrice"
  peRatio := number? s "forwardPE"
  pbRatio := number? s "priceToBook"
  eps := number? s "trailingEps"
  roe := number? s "returnOnEquity"
  marketCap := number? s "marketCap"
  recommendation := text? s "recommendationKey"
  analystCount := count? s "numberOfAnalystOpinions"
  fiftyTwoWeekHigh := number? s "fiftyTwoWeekHigh"
  fiftyTwoWeekLow := number? s "fiftyTwoWeekLow"
  beta := number? s "beta"
  sector := text? s "sector"
  industry := text? s "industry"
  earnings := earnings? s
  dividendRate := number? s "dividendRate"
  trailingDividendRate := number? s "trailingAnnualDividendRate"

end Snapshot

end MarketDesk
