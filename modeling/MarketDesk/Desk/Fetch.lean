import MarketDesk.Desk.Appraisal
import MarketDesk.Desk.Basic
import MarketDesk.Desk.Timeline
import MarketDesk.Frame.Series

/-!
# Fetching

The three fetches of the desk. Each acquires one handle and asks through it. A history asks for
prices and then for dividends, and only then reads either frame, so that both questions are asked
even if the prices cannot be read.
-/

namespace MarketDesk.Desk

variable {W : Type}

/-- The history of a period. -/
def fetchHistory (p : Provider W) (symbol : Symbol) (period : Period) :
    Query (Desk W) Timeline := do
  let handle ← acquire p symbol
  let prices ← onWorld (p.history handle period)
  let payments ← onWorld (p.dividends handle)
  let bars ← Query.ofExcept prices.bars
  let dividends ← Query.ofExcept payments.dividends
  pure (Timeline.make bars dividends)

/-- The positive amounts of a series, ascending by date. -/
def payouts (dividends : List Dividend) : List Dividend :=
  sortDividends (dividends.filter fun d => decide (d.amount > 0.0))

/-- The dividends of a symbol. -/
def fetchDividends (p : Provider W) (symbol : Symbol) : Query (Desk W) (List Dividend) := do
  let handle ← acquire p symbol
  let payments ← onWorld (p.dividends handle)
  let dividends ← Query.ofExcept payments.dividends
  pure (payouts dividends)

/-- The overview of a symbol. -/
def fetchOverview (p : Provider W) (symbol : Symbol) : Query (Desk W) Overview := do
  let handle ← acquire p symbol
  let snapshot ← onWorld (p.info handle)
  pure (Snapshot.overview snapshot)

end MarketDesk.Desk
