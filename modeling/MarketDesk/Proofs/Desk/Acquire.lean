import MarketDesk.Desk.Basic
import MarketDesk.Proofs.Query
import Mathlib.Data.List.Nodup

/-!
# Entries and acquiring

The cache seen as a relation between symbols and entries: `insert`, `purge` and `clear` each say
which entries there are afterwards, and keep at most one entry for a symbol. `acquire` is then one
of two things, a look-up that changes nothing or one opening by the provider.
-/

namespace MarketDesk

open MarketDesk.Calendar

namespace Calendar

/-- No two instants are further apart than the longest lifetime. -/
theorem Instant.since_lt_longest (now earlier : Instant) : now.since earlier < longestNanos := by
  have upper := now.lt_max
  have lower := earlier.ge_min
  simp only [Instant.since, longestNanos, minSecond, maxSecond, nanosPerSecond] at *
  omega

/-- Cutting a lifetime at the longest one decides no comparison with an age differently. -/
theorem Lifetime.since_lt_ofParts_iff (now earlier : Instant) (seconds nanos : Nat) :
    now.since earlier < (Lifetime.ofParts seconds nanos).nanos ↔
      now.since earlier < (seconds * 1000000000 + nanos : Nat) := by
  have bound := now.since_lt_longest earlier
  simp only [Lifetime.ofParts]
  omega

/-- A longer time is not a shorter lifetime. -/
theorem Lifetime.ofParts_le {seconds nanos seconds' nanos' : Nat}
    (le : seconds * 1000000000 + nanos ≤ seconds' * 1000000000 + nanos') :
    (Lifetime.ofParts seconds nanos).nanos ≤ (Lifetime.ofParts seconds' nanos').nanos := by
  simp only [Lifetime.ofParts]
  omega

end Calendar

theorem Entry.isFresh_iff {e : Entry} {now : Instant} {lifetime : Lifetime} :
    e.isFresh now lifetime = true ↔ now.since e.created < lifetime.nanos := by
  simp [Entry.isFresh]

namespace Cache

/-- No symbol has two entries. -/
def Keyed (c : Cache) : Prop := (c.entries.map Prod.fst).Nodup

theorem keyed_empty (lifetime : Lifetime) : (empty lifetime).Keyed := List.nodup_nil

theorem Keyed.eq_of_mem {c : Cache} (keyed : c.Keyed) {s : Symbol} {e e' : Entry}
    (h : (s, e) ∈ c.entries) (h' : (s, e') ∈ c.entries) : e = e' := by
  have same := List.inj_on_of_nodup_map keyed h h' rfl
  exact (Prod.mk.inj same).2

theorem mem_of_find? {c : Cache} {s : Symbol} {e : Entry} (h : c.find? s = some e) :
    (s, e) ∈ c.entries := by
  obtain ⟨⟨s', e'⟩, found, rfl⟩ := Option.map_eq_some_iff.1 h
  have hs : s' = s := by simpa using List.find?_some found
  exact hs ▸ List.mem_of_find?_eq_some found

theorem find?_eq_some_iff {c : Cache} (keyed : c.Keyed) {s : Symbol} {e : Entry} :
    c.find? s = some e ↔ (s, e) ∈ c.entries := by
  constructor
  · exact mem_of_find?
  · intro h
    unfold find?
    cases found : c.entries.find? (fun e => e.1 == s) with
    | none => simpa using List.find?_eq_none.1 found _ h
    | some pair =>
      obtain ⟨s', e'⟩ := pair
      have hs : s' = s := by simpa using List.find?_some found
      subst hs
      rw [keyed.eq_of_mem h (List.mem_of_find?_eq_some found)]
      rfl

/-- A handle is served just if it is stored and its age is below the lifetime. -/
theorem fresh?_eq_some_iff {c : Cache} (keyed : c.Keyed) {now : Instant} {s : Symbol}
    {h : Handle} :
    c.fresh? now s = some h ↔
      ∃ t, (s, ⟨h, t⟩) ∈ c.entries ∧ now.since t < c.lifetime.nanos := by
  unfold fresh?
  simp only [Option.map_eq_some_iff, Option.filter_eq_some_iff, Entry.isFresh_iff,
    find?_eq_some_iff keyed]
  constructor
  · rintro ⟨⟨h', t⟩, ⟨stored, fresh⟩, rfl⟩
    exact ⟨t, stored, fresh⟩
  · rintro ⟨t, stored, fresh⟩
    exact ⟨⟨h, t⟩, ⟨stored, fresh⟩, rfl⟩

theorem mem_insert_iff {c : Cache} {s k : Symbol} {e x : Entry} :
    (k, x) ∈ (c.insert s e).entries ↔ (k = s ∧ x = e) ∨ (k ≠ s ∧ (k, x) ∈ c.entries) := by
  simp only [insert, List.mem_cons, Prod.mk.injEq, List.mem_filter, bne_iff_ne, ne_eq]
  exact or_congr_right And.comm

theorem Keyed.insert {c : Cache} (keyed : c.Keyed) (s : Symbol) (e : Entry) :
    (c.insert s e).Keyed := by
  have kept := List.Nodup.sublist
    ((List.filter_sublist (p := fun e => e.1 != s) (l := c.entries)).map Prod.fst) keyed
  refine List.nodup_cons.2 ⟨?_, kept⟩
  simp

theorem mem_purge_iff {c : Cache} {now : Instant} {k : Symbol} {x : Entry} :
    (k, x) ∈ (c.purge now).entries ↔
      (k, x) ∈ c.entries ∧ now.since x.created < c.lifetime.nanos := by
  simp [purge, Entry.isFresh_iff]

theorem Keyed.purge {c : Cache} (keyed : c.Keyed) (now : Instant) : (c.purge now).Keyed :=
  List.Nodup.sublist (List.filter_sublist.map Prod.fst) keyed

theorem keyed_clear (c : Cache) : c.clear.Keyed := List.nodup_nil

theorem find?_insert (c : Cache) (s k : Symbol) (e : Entry) :
    (c.insert s e).find? k = if k = s then some e else c.find? k := by
  simp only [find?, insert]
  by_cases same : k = s
  · simp [same]
  · have other : ∀ x : Symbol × Entry, decide ((x.1 != s) = true ∧ (x.1 == k) = true) =
        (x.1 == k) := by
      intro x
      by_cases hx : x.1 = k <;> simp [hx, same]
    rw [if_neg same, List.find?_cons_of_neg (by simpa using Ne.symm same), List.find?_filter]
    simp only [other]

/-- A new entry serves its own symbol, and no other symbol is touched. -/
theorem fresh?_insert (c : Cache) (now : Instant) (s k : Symbol) (e : Entry) :
    (c.insert s e).fresh? now k =
      if k = s then (if e.isFresh now c.lifetime then some e.handle else none)
      else c.fresh? now k := by
  unfold fresh?
  rw [find?_insert]
  split
  · cases fresh : e.isFresh now c.lifetime <;> simp [insert, Option.filter, fresh]
  · rfl

theorem find?_purge {c : Cache} (keyed : c.Keyed) (now : Instant) (s : Symbol) :
    (c.purge now).find? s = (c.find? s).filter fun e => e.isFresh now c.lifetime := by
  apply Option.ext
  intro e
  rw [find?_eq_some_iff (keyed.purge now), mem_purge_iff, Option.filter_eq_some_iff,
    find?_eq_some_iff keyed, Entry.isFresh_iff]

/-- A purge takes nothing that would be served then or later. -/
theorem fresh?_purge {c : Cache} (keyed : c.Keyed) {now later : Instant}
    (after : now.nanos ≤ later.nanos) (s : Symbol) :
    (c.purge now).fresh? later s = c.fresh? later s := by
  apply Option.ext
  intro h
  rw [fresh?_eq_some_iff (keyed.purge now), fresh?_eq_some_iff keyed]
  constructor
  · rintro ⟨t, stored, young⟩
    exact ⟨t, (mem_purge_iff.1 stored).1, young⟩
  · rintro ⟨t, stored, young⟩
    refine ⟨t, mem_purge_iff.2 ⟨stored, ?_⟩, young⟩
    have young' : later.nanos - t.nanos < c.lifetime.nanos := young
    show now.nanos - t.nanos < c.lifetime.nanos
    omega

end Cache

namespace Desk

variable {W α : Type} {p : Provider W} {d : Desk W} {s : Symbol}

@[simp] theorem outcome_onWorld (q : Query W α) (d : Desk W) :
    (onWorld q).outcome d = ((q.outcome d.world).1, { d with world := (q.outcome d.world).2 }) :=
  rfl

/-- The desk after an opening: a new handle is stored at the present time, a fault stores
nothing. -/
def opened (d : Desk W) (s : Symbol) (r : Except Fault Handle × W) : Desk W :=
  match r.1 with
  | .ok h => { d with world := r.2, cache := d.cache.insert s ⟨h, d.now⟩ }
  | .error _ => { d with world := r.2 }

/-- A fresh handle is served as it is. -/
theorem acquire_of_fresh {h : Handle} (fresh : d.cache.fresh? d.now s = some h) :
    (acquire p s).outcome d = (.ok h, d) := by
  rw [acquire, Query.outcome_bind_ok (Query.outcome_get d), fresh]
  rfl

/-- Without a fresh handle, the outcome is that of one opening. -/
theorem acquire_of_not_fresh (stale : d.cache.fresh? d.now s = none) :
    (acquire p s).outcome d =
      (((p.create s).outcome d.world).1, d.opened s ((p.create s).outcome d.world)) := by
  rw [acquire, Query.outcome_bind_ok (Query.outcome_get d), stale]
  simp only [Query.outcome_bind, outcome_onWorld]
  cases h : (p.create s).outcome d.world with
  | mk r world => cases r <;> rfl

/-- A move of the clock sets a representable time, or breaks down. -/
theorem outcome_advance (n : Int) (d : Desk W) :
    (advance n).outcome d =
      if d.clock.adjustable then
        match d.clock.now.add? n with
        | some now => (.ok (), { d with clock := { d.clock with now } })
        | none => (.error .abort, d)
      else (.ok (), d) := by
  rw [advance, Query.outcome_bind_ok (Query.outcome_get d)]
  split
  · cases d.clock.now.add? n <;> rfl
  · rfl

end Desk

end MarketDesk
