import MarketDesk.Calendar.Date

/-!
# Instants and lifetimes

An `Instant` is a time in universal time with nanoseconds, within the years of the calendar;
differences of instants are exact integers. A `Lifetime` is what an unsigned number of seconds and
nanoseconds becomes as a signed duration: one that is too long for that is the longest there is.
-/

namespace MarketDesk.Calendar

/-- The first second of the calendar, counted from the epoch. -/
def minSecond : Int := -8334601228800

/-- The last second of the calendar. -/
def maxSecond : Int := 8210266876799

/-- Nanoseconds in a second. -/
def nanosPerSecond : Int := 1000000000

/-- A time, in nanoseconds since the epoch. -/
structure Instant where
  nanos : Int
  ge_min : minSecond * nanosPerSecond ≤ nanos
  lt_max : nanos < (maxSecond + 1) * nanosPerSecond
  deriving DecidableEq, Repr

namespace Instant

/-- The instant at a number of nanoseconds, if it is representable. -/
def ofNanos? (n : Int) : Option Instant :=
  if h : minSecond * nanosPerSecond ≤ n ∧ n < (maxSecond + 1) * nanosPerSecond then
    some ⟨n, h.1, h.2⟩
  else none

/-- The beginning of 1970. -/
def epoch : Instant := ⟨0, by decide, by decide⟩

/-- The instant at a number of whole seconds. -/
def ofSeconds? (s : Int) : Option Instant := ofNanos? (s * nanosPerSecond)

/-- The instant a number of nanoseconds later. -/
def add? (t : Instant) (nanos : Int) : Option Instant := ofNanos? (t.nanos + nanos)

/-- The nanoseconds from an earlier instant to this one. -/
def since (now earlier : Instant) : Int := now.nanos - earlier.nanos

end Instant

/-- The longest signed duration, in nanoseconds: the largest 64-bit number of milliseconds. -/
def longestNanos : Nat := 0x7FFFFFFFFFFFFFFF * 1000000

/-- How long something stays fresh, in nanoseconds. -/
structure Lifetime where
  nanos : Nat
  le_longest : nanos ≤ longestNanos
  deriving DecidableEq, Repr

namespace Lifetime

/-- The lifetime of that many seconds and nanoseconds, cut at the longest duration. -/
def ofParts (seconds nanos : Nat) : Lifetime :=
  ⟨min (seconds * 1000000000 + nanos) longestNanos, Nat.min_le_right ..⟩

/-- The whole seconds. -/
def seconds (l : Lifetime) : Nat := l.nanos / 1000000000

/-- The nanoseconds beyond the whole seconds. -/
def subsecond (l : Lifetime) : Nat := l.nanos % 1000000000

end Lifetime

end MarketDesk.Calendar
