/-!
# History periods

The lookback windows that a price history can be asked for, and their texts. A text names a
period only if it is exactly that period's text.
-/

namespace MarketDesk

/-- A lookback window of a daily price history. -/
inductive Period where
  | oneDay
  | fiveDays
  | oneMonth
  | threeMonths
  | sixMonths
  | oneYear
  | twoYears
  | fiveYears
  | tenYears
  | yearToDate
  | max
  deriving DecidableEq, Repr, Inhabited

namespace Period

/-- Every period, shortest first. -/
def all : List Period :=
  [.oneDay, .fiveDays, .oneMonth, .threeMonths, .sixMonths, .oneYear, .twoYears, .fiveYears,
    .tenYears, .yearToDate, .max]

/-- The text of a period. -/
def text : Period → String
  | .oneDay => "1d"
  | .fiveDays => "5d"
  | .oneMonth => "1mo"
  | .threeMonths => "3mo"
  | .sixMonths => "6mo"
  | .oneYear => "1y"
  | .twoYears => "2y"
  | .fiveYears => "5y"
  | .tenYears => "10y"
  | .yearToDate => "ytd"
  | .max => "max"

/-- The period that a text names. -/
def ofText? (s : String) : Option Period := all.find? fun p => p.text == s

theorem mem_all (p : Period) : p ∈ all := by cases p <;> decide

theorem ofText?_text (p : Period) : ofText? p.text = some p := by cases p <;> decide

theorem text_of_ofText? {s : String} {p : Period} (h : ofText? s = some p) : p.text = s := by
  simpa using List.find?_some h

end Period

end MarketDesk
