import MarketDesk.Calendar.Instant
import MarketDesk.Provider

/-!
# The handle cache

At most one handle is stored for a symbol, with the time at which it was opened. It is fresh while
its age is below the lifetime; at exactly the lifetime it has expired. An expired handle stays
stored until it is replaced or purged. The age may be negative if the clock went back.
-/

namespace MarketDesk

open MarketDesk.Calendar

/-- A stored handle. -/
structure Entry where
  handle : Handle
  created : Instant
  deriving DecidableEq, Repr

/-- The age of an entry is below the lifetime. -/
def Entry.isFresh (e : Entry) (now : Instant) (lifetime : Lifetime) : Bool :=
  decide (now.since e.created < lifetime.nanos)

/-- Stored handles by symbol. -/
structure Cache where
  lifetime : Lifetime
  entries : List (Symbol × Entry)
  deriving Repr

namespace Cache

/-- A cache without entries. -/
def empty (lifetime : Lifetime) : Cache := ⟨lifetime, []⟩

/-- The entry of a symbol. -/
def find? (c : Cache) (symbol : Symbol) : Option Entry :=
  (c.entries.find? fun e => e.1 == symbol).map Prod.snd

/-- The handle of a symbol, if it is fresh. -/
def fresh? (c : Cache) (now : Instant) (symbol : Symbol) : Option Handle :=
  ((c.find? symbol).filter fun e => e.isFresh now c.lifetime).map Entry.handle

/-- Stores an entry in place of an earlier one for its symbol. -/
def insert (c : Cache) (symbol : Symbol) (entry : Entry) : Cache :=
  { c with entries := (symbol, entry) :: c.entries.filter fun e => e.1 != symbol }

/-- The number of entries, expired ones included. -/
def size (c : Cache) : Nat := c.entries.length

/-- Removes the expired entries. -/
def purge (c : Cache) (now : Instant) : Cache :=
  { c with entries := c.entries.filter fun e => e.2.isFresh now c.lifetime }

/-- Removes all entries. -/
def clear (c : Cache) : Cache := { c with entries := [] }

end Cache

end MarketDesk
