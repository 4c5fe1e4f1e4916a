import MarketDesk.Proofs.Desk.Acquire
import MarketDesk.Word

/-!
# Ages and lifetimes

The age of an entry may be negative, and a lifetime may be longer than any duration that can be
held, in which case it is cut. `cut_lifetimes_decide_exactly` says that neither matters: an entry is
fresh just if its age is below the lifetime that was asked for, both taken as exact numbers of
nanoseconds, and so caches serve and purge as if nothing had been cut.

Durations are held in two parts, seconds and nanoseconds. A `Span` is such a duration; spans are
subtracted with a borrow and compared by their seconds first, and this comes to what the exact
numbers give.
-/

namespace MarketDesk

namespace Calendar

/-- A signed duration in two parts: whole seconds, rounded down, and the nanoseconds beyond them. -/
structure Span where
  seconds : Int
  subsecond : Nat
  lt_second : subsecond < 1000000000
  deriving DecidableEq, Repr

namespace Span

/-- The whole span in nanoseconds. -/
def nanos (s : Span) : Int := s.seconds * nanosPerSecond + s.subsecond

/-- Seconds are compared first, and nanoseconds within one second. -/
def Shorter (s t : Span) : Prop :=
  s.seconds < t.seconds ∨ s.seconds = t.seconds ∧ s.subsecond < t.subsecond

instance (s t : Span) : Decidable (s.Shorter t) := inferInstanceAs (Decidable (_ ∨ _))

/-- The span lies within the durations that can be held, and its seconds fit 64 bits. -/
def IsHeld (s : Span) : Prop :=
  (-(longestNanos : Int) ≤ s.nanos ∧ s.nanos ≤ longestNanos) ∧ Word.IsSigned64 s.seconds

/-- The difference of two spans. A second is borrowed if the nanoseconds do not suffice. -/
def sub (s t : Span) : Span :=
  if enough : t.subsecond ≤ s.subsecond then
    ⟨s.seconds - t.seconds, s.subsecond - t.subsecond, by have := s.lt_second; omega⟩
  else
    ⟨s.seconds - t.seconds - 1, s.subsecond + 1000000000 - t.subsecond, by omega⟩

theorem nanos_sub (s t : Span) : (s.sub t).nanos = s.nanos - t.nanos := by
  have small := t.lt_second
  unfold sub nanos nanosPerSecond
  split
  next => dsimp only; omega
  next => dsimp only; omega

/-- Comparing by parts is comparing the whole. -/
theorem shorter_iff {s t : Span} : s.Shorter t ↔ s.nanos < t.nanos := by
  have small := s.lt_second
  have small' := t.lt_second
  unfold Shorter nanos nanosPerSecond
  omega

end Span

/-- The time since the epoch in two parts. -/
def Instant.span (t : Instant) : Span where
  seconds := t.nanos / nanosPerSecond
  subsecond := (t.nanos % nanosPerSecond).toNat
  lt_second := by
    have small : t.nanos % 1000000000 < 1000000000 := Int.emod_lt_of_pos _ (by decide)
    show (t.nanos % 1000000000).toNat < 1000000000
    omega

/-- A lifetime in two parts. -/
def Lifetime.span (l : Lifetime) : Span where
  seconds := l.seconds
  subsecond := l.subsecond
  lt_second := Nat.mod_lt _ (by decide)

theorem Instant.nanos_span (t : Instant) : t.span.nanos = t.nanos := by
  unfold span Span.nanos nanosPerSecond
  dsimp only
  omega

theorem Lifetime.nanos_span (l : Lifetime) : l.span.nanos = l.nanos := by
  unfold span Span.nanos Lifetime.seconds subsecond nanosPerSecond
  dsimp only
  omega

/-- The age of what was made at an instant, subtracted in parts. -/
def Instant.age (now earlier : Instant) : Span := now.span.sub earlier.span

theorem Instant.nanos_age (now earlier : Instant) : (now.age earlier).nanos = now.since earlier := by
  rw [age, Span.nanos_sub, nanos_span, nanos_span, since]

/-- Any two instants are so near to each other that their distance can be held. -/
theorem Instant.age_isHeld (now earlier : Instant) : (now.age earlier).IsHeld := by
  have forth := now.since_lt_longest earlier
  have back := earlier.since_lt_longest now
  have whole := nanos_age now earlier
  have small := (now.age earlier).lt_second
  unfold Span.IsHeld Word.IsSigned64
  unfold since at forth back whole
  refine ⟨⟨by omega, by omega⟩, ?_⟩
  unfold Span.nanos nanosPerSecond at whole
  unfold longestNanos at forth back
  omega

end Calendar

open Calendar

/-- Whether the entry is fresh is decided by its age and the exact lifetime, in nanoseconds, though
the lifetime that is held may be a shorter one. -/
structure DecidesExactly (e : Entry) (now : Instant) (total : Nat) (held : Lifetime) : Prop where
  fresh : e.isFresh now held = true ↔ now.since e.created < total
  /-- At exactly the lifetime it has expired. -/
  expired : e.isFresh now held = false ↔ (total : Int) ≤ now.since e.created
  /-- The age can be held, and nothing is lost in it. -/
  age : (now.age e.created).IsHeld ∧ (now.age e.created).nanos = now.since e.created
  /-- Seconds and nanoseconds decide in that order. -/
  parts : e.isFresh now held = true ↔ (now.age e.created).Shorter held.span

theorem Entry.isFresh_iff_shorter (e : Entry) (now : Instant) (l : Lifetime) :
    e.isFresh now l = true ↔ (now.age e.created).Shorter l.span := by
  rw [isFresh_iff, Span.shorter_iff, Instant.nanos_age, Lifetime.nanos_span]

theorem Entry.isFresh_ofParts_iff (e : Entry) (now : Instant) (seconds nanos : Nat) :
    e.isFresh now (.ofParts seconds nanos) = true ↔
      now.since e.created < (seconds * 1000000000 + nanos : Nat) := by
  rw [isFresh_iff]
  exact Lifetime.since_lt_ofParts_iff now e.created seconds nanos

theorem Entry.decidesExactly (e : Entry) (now : Instant) (seconds nanos : Nat) :
    DecidesExactly e now (seconds * 1000000000 + nanos) (.ofParts seconds nanos) where
  fresh := e.isFresh_ofParts_iff now seconds nanos
  expired := by rw [← Bool.not_eq_true, e.isFresh_ofParts_iff, Int.not_lt]
  age := ⟨now.age_isHeld e.created, now.nanos_age e.created⟩
  parts := e.isFresh_iff_shorter now _

/-- The entry is younger than a number of nanoseconds. -/
def Entry.isYounger (e : Entry) (now : Instant) (nanos : Nat) : Bool :=
  decide (now.since e.created < nanos)

/-- **Cutting a lifetime changes no decision.** Whatever the lifetime and whichever of two instants
is the later one, an entry is fresh just if its age is below the exact lifetime. With no lifetime
only entries from the future are fresh. A cache serves just the handles and keeps just the entries
that the exact lifetime leaves fresh. -/
theorem cut_lifetimes_decide_exactly (seconds nanos : Nat) (now : Instant) :
    (∀ e : Entry, DecidesExactly e now (seconds * 1000000000 + nanos) (.ofParts seconds nanos) ∧
      (e.isFresh now (.ofParts 0 0) = true ↔ now.nanos < e.created.nanos)) ∧
    ∀ entries : List (Symbol × Entry),
      let cache : Cache := ⟨.ofParts seconds nanos, entries⟩
      (∀ s, cache.fresh? now s = ((cache.find? s).filter fun e =>
        e.isYounger now (seconds * 1000000000 + nanos)).map Entry.handle) ∧
      cache.purge now = ⟨.ofParts seconds nanos, entries.filter fun e =>
        e.2.isYounger now (seconds * 1000000000 + nanos)⟩ := by
  have same : ∀ e : Entry, e.isFresh now (.ofParts seconds nanos) =
      e.isYounger now (seconds * 1000000000 + nanos) := by
    intro e
    rw [Bool.eq_iff_iff, e.isFresh_ofParts_iff, Entry.isYounger, decide_eq_true_eq]
  refine ⟨fun e => ⟨e.decidesExactly now seconds nanos, ?_⟩, fun entries => ⟨fun s => ?_, ?_⟩⟩
  · rw [e.isFresh_ofParts_iff, Instant.since]
    omega
  · simp only [Cache.fresh?, same]
  · simp only [Cache.purge, same]

/-- The longest time that can be asked for is cut, and decides as before. -/
example : (Lifetime.ofParts 0xFFFFFFFFFFFFFFFF 999999999).nanos = longestNanos := by decide

end MarketDesk
