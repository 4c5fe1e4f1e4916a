import MarketDesk.Fault
import MarketDesk.Frame.Basic
import MarketDesk.Period
import MarketDesk.Quote.Basic

/-!
# Providers

A provider opens a handle for a symbol and answers three kinds of questions through it. Opening
is local: it asks nothing of the outside. The world is whatever the provider keeps between
questions; each of them may change it, also when it fails.
-/

namespace MarketDesk

/-- A provider's means of asking about one symbol. Handles with different serial numbers are
different, also when they are for the same symbol. -/
structure Handle where
  serial : Nat
  symbol : Symbol
  deriving DecidableEq, Repr

/-- A source of market data over a world. -/
structure Provider (W : Type) where
  /-- Opens a handle. -/
  create : Symbol → Query W Handle
  /-- The daily prices of a period, as a price frame. -/
  history : Handle → Period → Query W Frame
  /-- The whole dividend series, as a dividend frame. -/
  dividends : Handle → Query W Frame
  /-- The current fields of quote and fundamentals. -/
  info : Handle → Query W Snapshot

end MarketDesk
