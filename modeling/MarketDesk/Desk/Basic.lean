import MarketDesk.Desk.Cache

/-!
# The desk

The desk joins a clock, a cache of handles and the world of a provider. `acquire` is its one way
to a handle: a fresh stored handle is served as it is, and otherwise the provider opens one,
which is stored with the time of the clock. If the provider fails, clock and cache stay as they
are.
-/

namespace MarketDesk

open MarketDesk.Calendar

/-- A clock. Only an adjustable clock moves when it is told to. -/
structure Clock where
  now : Instant
  adjustable : Bool
  deriving DecidableEq, Repr

/-- Clock, cache and world. -/
structure Desk (W : Type) where
  clock : Clock
  cache : Cache
  world : W

namespace Desk

variable {W α : Type}

/-- The time of the clock. -/
def now (d : Desk W) : Instant := d.clock.now

/-- Runs a query of the provider on the world. -/
def onWorld (q : Query W α) : Query (Desk W) α :=
  q.onPart Desk.world fun world d => { d with world }

/-- A fresh handle for a symbol. -/
def acquire (p : Provider W) (symbol : Symbol) : Query (Desk W) Handle := do
  let d ← get
  match d.cache.fresh? d.now symbol with
  | some handle => pure handle
  | none =>
    let handle ← onWorld (p.create symbol)
    modify fun d => { d with cache := d.cache.insert symbol ⟨handle, d.now⟩ }
    pure handle

/-- Removes the expired handles and gives their number. -/
def purge : Query (Desk W) Nat := do
  let d ← get
  let cache := d.cache.purge d.now
  set { d with cache }
  pure (d.cache.size - cache.size)

/-- Removes all handles. -/
def clear : Query (Desk W) Unit := modify fun d => { d with cache := d.cache.clear }

/-- Moves an adjustable clock by a number of nanoseconds. A move beyond the representable times
breaks down and leaves the clock as it is. -/
def advance (nanos : Int) : Query (Desk W) Unit := do
  let d ← get
  if d.clock.adjustable then
    match d.clock.now.add? nanos with
    | some now => set { d with clock := { d.clock with now } }
    | none => Query.abort
  else pure ()

end Desk

end MarketDesk
