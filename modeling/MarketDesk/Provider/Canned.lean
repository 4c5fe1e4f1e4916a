import MarketDesk.Frame.Series
import MarketDesk.Provider

/-!
# Providers with fixed answers

A canned provider decides by the symbol alone whether a handle can be opened and what it answers.
Its world is a tally: the handles opened and the questions asked through them. A failed opening
does not count; a question counts also when its answer is an error.
-/

namespace MarketDesk

/-- What the handles of one symbol answer. -/
structure Script where
  history : Period → Except DataError Frame
  dividends : Except DataError Frame
  info : Except DataError Snapshot

/-- For each symbol, why no handle can be opened or what its handles answer. -/
structure Canned where
  script : Symbol → Except Fault Script

/-- What a canned provider has done. -/
structure Tally where
  created : Nat
  queried : Nat
  deriving DecidableEq, Repr

namespace Script

/-- Serves the same bars for every period. -/
def ofSeries (bars : List Bar) (dividends : List Dividend) (info : Snapshot) : Script where
  history := fun _ => .ok (Frame.ofBars bars)
  dividends := .ok (Frame.ofDividends dividends)
  info := .ok info

/-- Answers every question with an error. -/
def failing (e : DataError) : Script := ⟨fun _ => .error e, .error e, .error e⟩

end Script

namespace Canned

/-- Gives the handles of all symbols one script. -/
def uniform (script : Script) : Canned := ⟨fun _ => .ok script⟩

/-- Opens no handle. -/
def refusing (e : DataError) : Canned := ⟨fun _ => .error (.error e)⟩

/-- Opens a handle and counts it. -/
def create (c : Canned) (symbol : Symbol) : Query Tally Handle := do
  let _ ← Query.ofExcept (c.script symbol)
  let tally ← get
  set { tally with created := tally.created + 1 }
  pure ⟨tally.created, symbol⟩

/-- Counts a question and gives the scripted answer. -/
def answer {α : Type} (c : Canned) (handle : Handle) (part : Script → Except DataError α) :
    Query Tally α := do
  modify fun tally => { tally with queried := tally.queried + 1 }
  let script ← Query.ofExcept (c.script handle.symbol)
  Query.ofExcept ((part script).mapError Fault.error)

/-- The provider with these answers. -/
def provider (c : Canned) : Provider Tally where
  create := c.create
  history := fun handle period => c.answer handle fun s => s.history period
  dividends := fun handle => c.answer handle Script.dividends
  info := fun handle => c.answer handle Script.info

end Canned

end MarketDesk
