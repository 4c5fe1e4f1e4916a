import Mathlib.Data.List.Forall2
import MarketDesk.Proofs.Session.Deeds
import MarketDesk.Provider.Canned

/-!
# A longer lifetime opens no more handles

Two runs of the same steps, with a shorter and a longer lifetime. Their openings do not happen at
the same times, and a handle may expire with the longer lifetime while a younger one is still fresh
with the shorter. So the numbers of openings are compared together with the times of the stored
handles: where the numbers are equal, the longer lifetime has the younger handle. `Stock.Lags` says
so for one symbol, whose part of a desk is its `Stock`; every step turns stocks by itself.
-/

namespace MarketDesk

open MarketDesk.Calendar

variable {W α : Type}

/-! ## What a desk has of a symbol -/

/-- The handles opened for a symbol: how many, and when the stored one was. -/
structure Stock where
  opened : Nat
  since : Option Instant

namespace Stock

/-- A stored handle is fresh. -/
def isFresh (x : Stock) (lifetime : Lifetime) (now : Instant) : Bool :=
  x.since.any fun t => decide (now.since t < lifetime.nanos)

/-- A fresh handle is served as it is, and otherwise one is opened. -/
def ask (x : Stock) (lifetime : Lifetime) (now : Instant) : Stock :=
  if x.isFresh lifetime now then x else ⟨x.opened + 1, some now⟩

/-- An expired handle is removed. -/
def purge (x : Stock) (lifetime : Lifetime) (now : Instant) : Stock :=
  if x.isFresh lifetime now then x else ⟨x.opened, none⟩

/-- A stored handle is removed. -/
def clear (x : Stock) : Stock := ⟨x.opened, none⟩

/-- What the upkeep of the cache leaves of a stock. -/
def upkeep (x : Stock) (lifetime : Lifetime) (now : Instant) : Step → Stock
  | .purge => x.purge lifetime now
  | .clear => x.clear
  | _ => x

/-- What a step makes of the stock of a symbol, if openings for the symbol work or if they do
not. -/
def turn (x : Stock) (works : Bool) (symbol : Symbol) (lifetime : Lifetime) (now : Instant)
    (step : Step) : Stock :=
  if step.symbol? = some symbol ∧ works = true then x.ask lifetime now
  else x.upkeep lifetime now step

/-- The second stock has no more openings than the first, and if it has as many, then its handle is
not older than one that is fresh in the first. -/
structure Lags (lifetime : Lifetime) (now : Instant) (x x' : Stock) : Prop where
  fewer : x'.opened ≤ x.opened
  younger : x'.opened = x.opened → ∀ t, x.since = some t → now.since t < lifetime.nanos →
    ∃ t', x'.since = some t' ∧ t.nanos ≤ t'.nanos

variable {x x' : Stock} {shorter longer : Lifetime} {now soon : Instant}

theorem isFresh_iff {lifetime : Lifetime} :
    x.isFresh lifetime now = true ↔
      ∃ t, x.since = some t ∧ now.since t < lifetime.nanos := by
  simp [isFresh, Option.any_eq_true]

theorem purge_opened (x : Stock) (lifetime : Lifetime) (now : Instant) :
    (x.purge lifetime now).opened = x.opened := by
  rw [purge]
  split <;> rfl

/-- A handle that is stored after a step was stored before it, or was opened by it. -/
theorem since_turn {works : Bool} {symbol : Symbol} {lifetime : Lifetime} {step : Step}
    {t : Instant} (stored : (x.turn works symbol lifetime now step).since = some t) :
    x.since = some t ∨ t = now := by
  rw [turn] at stored
  split at stored
  · rw [ask] at stored
    split at stored
    · exact Or.inl stored
    · cases stored
      exact Or.inr rfl
  · cases step with
    | purge =>
      simp only [upkeep, purge] at stored
      split at stored
      · exact Or.inl stored
      · cases stored
    | clear => cases stored
    | _ => exact Or.inl stored

namespace Lags

theorem refl (lifetime : Lifetime) (now : Instant) (x : Stock) : x.Lags lifetime now x :=
  ⟨Nat.le_refl _, fun _ t stored _ => ⟨t, stored, Int.le_refl _⟩⟩

/-- A handle that is fresh with the shorter lifetime is fresh with the longer one, unless there
were fewer openings. -/
theorem isFresh (lags : x.Lags shorter now x') (le : shorter.nanos ≤ longer.nanos)
    (same : x'.opened = x.opened) (fresh : x.isFresh shorter now = true) :
    x'.isFresh longer now = true := by
  obtain ⟨t, stored, young⟩ := isFresh_iff.1 fresh
  obtain ⟨t', stored', after⟩ := lags.younger same t stored young
  refine isFresh_iff.2 ⟨t', stored', ?_⟩
  simp only [Instant.since] at young ⊢
  omega

theorem later (lags : x.Lags shorter now x') (forward : now.nanos ≤ soon.nanos) :
    x.Lags shorter soon x' where
  fewer := lags.fewer
  younger same t stored young := by
    apply lags.younger same t stored
    simp only [Instant.since] at young ⊢
    omega

/-- An opening at the present time is the youngest there can be. -/
theorem of_opened (fewer : x'.opened ≤ x.opened) (opened : x'.since = some now)
    (past : ∀ t, x.since = some t → t.nanos ≤ now.nanos) : x.Lags shorter now x' :=
  ⟨fewer, fun _ t stored _ => ⟨now, opened, past t stored⟩⟩

theorem ask (lags : x.Lags shorter now x') (le : shorter.nanos ≤ longer.nanos)
    (past : ∀ t, x.since = some t → t.nanos ≤ now.nanos) :
    (x.ask shorter now).Lags shorter now (x'.ask longer now) := by
  have fewer := lags.fewer
  unfold Stock.ask
  split
  next fresh =>
    split
    next => exact lags
    next stale =>
      -- The longer lifetime catches up by one opening, which must have been left to it.
      have behind : x'.opened ≠ x.opened := fun same => stale (lags.isFresh le same fresh)
      have caught : x'.opened + 1 ≤ x.opened := by omega
      exact of_opened caught rfl past
  next =>
    split
    next =>
      refine ⟨Nat.le_succ_of_le fewer, fun same => ?_⟩
      have equal : x'.opened = x.opened + 1 := same
      omega
    next =>
      refine of_opened (Nat.succ_le_succ fewer) rfl fun t stored => ?_
      cases stored
      exact Int.le_refl _

theorem purge (lags : x.Lags shorter now x') (le : shorter.nanos ≤ longer.nanos) :
    (x.purge shorter now).Lags shorter now (x'.purge longer now) := by
  refine ⟨?_, fun same t stored young => ?_⟩
  · rw [purge_opened, purge_opened]
    exact lags.fewer
  rw [purge_opened, purge_opened] at same
  rw [Stock.purge] at stored
  split at stored
  next fresh =>
    rw [Stock.purge, if_pos (lags.isFresh le same fresh)]
    exact lags.younger same t stored young
  next => cases stored

theorem clear (lags : x.Lags shorter now x') : x.clear.Lags shorter now x'.clear :=
  ⟨lags.fewer, fun _ _ stored => by cases stored⟩

theorem turn (lags : x.Lags shorter now x') (le : shorter.nanos ≤ longer.nanos)
    (past : ∀ t, x.since = some t → t.nanos ≤ now.nanos) (works : Bool) (symbol : Symbol)
    (step : Step) :
    (x.turn works symbol shorter now step).Lags shorter now
      (x'.turn works symbol longer now step) := by
  unfold Stock.turn
  split
  · exact lags.ask le past
  · cases step with
    | purge => exact lags.purge le
    | clear => exact lags.clear
    | _ => exact lags

end Lags

end Stock

/-! ## The stock of a desk -/

/-- The number of handles that were opened for a symbol. -/
def CacheLog.Recorded.opened (r : CacheLog.Recorded W) (s : Symbol) : Nat :=
  r.openings.countP fun o => o.1 == s && o.2.isOk

/-- What a desk has of a symbol. -/
def Desk.stock (d : Desk (CacheLog.Recorded W)) (s : Symbol) : Stock :=
  ⟨d.world.opened s, (d.cache.find? s).map Entry.created⟩

/-- Opening a handle for a symbol always succeeds, or always fails. -/
def Provider.Steady (p : Provider W) : Prop :=
  ∀ s, (∀ w, ((p.create s).outcome w).1.isOk = true) ∨
    (∀ w, ((p.create s).outcome w).1.isOk = false)

theorem Provider.Steady.works {p : Provider W} (steady : p.Steady) (s : Symbol) :
    ∃ works, ∀ w, ((p.create s).outcome w).1.isOk = works := by
  rcases steady s with always | never
  · exact ⟨true, always⟩
  · exact ⟨false, never⟩

namespace Desk

variable {p : Provider W} {d : Desk (CacheLog.Recorded W)} {s k : Symbol}

theorem isFresh_stock (d : Desk (CacheLog.Recorded W)) (s : Symbol) :
    (d.stock s).isFresh d.cache.lifetime d.now = (d.cache.fresh? d.now s).isSome := by
  rw [Cache.fresh?, stock, Stock.isFresh]
  cases d.cache.find? s with
  | none => rfl
  | some e => cases fresh : e.isFresh d.now d.cache.lifetime <;> simp_all [Entry.isFresh]

/-- An opening adds to the stock of its symbol, if it succeeds. -/
theorem stock_opened (d : Desk (CacheLog.Recorded W)) (k s : Symbol) (result : Except Fault Handle)
    (world : W) :
    (d.opened k (result, ⟨world, d.world.openings ++ [(k, result)]⟩)).stock s =
      if k = s ∧ result.isOk = true then ⟨(d.stock s).opened + 1, some d.now⟩ else d.stock s := by
  cases result with
  | error f => simp [opened, stock, CacheLog.Recorded.opened, Except.isOk, Except.toBool]
  | ok h =>
    by_cases same : k = s
    · subst same
      simp [opened, stock, CacheLog.Recorded.opened, Except.isOk, Except.toBool,
        Cache.find?_insert]
    · have other : s ≠ k := Ne.symm same
      simp [opened, stock, CacheLog.Recorded.opened, Except.isOk, Except.toBool,
        Cache.find?_insert, same, other]

/-- Acquiring asks the stock of its symbol, if openings for the symbol work. -/
theorem stock_acquire {works : Bool} (steady : ∀ w, ((p.create s).outcome w).1.isOk = works)
    (d : Desk (CacheLog.Recorded W)) (k : Symbol) :
    ((acquire (CacheLog.recorded p) k).outcome d).2.stock s =
      if k = s ∧ works = true then (d.stock s).ask d.cache.lifetime d.now else d.stock s := by
  have served := d.isFresh_stock s
  cases fresh : d.cache.fresh? d.now k with
  | some h =>
    rw [acquire_of_fresh fresh]
    split
    next asked =>
      rw [asked.1] at fresh
      rw [fresh, Option.isSome_some] at served
      rw [Stock.ask, if_pos served]
    next => rfl
  | none =>
    rw [acquire_of_not_fresh fresh, CacheLog.recorded_create, stock_opened]
    by_cases same : k = s
    · subst same
      rw [fresh] at served
      rw [steady, Stock.ask, served]
      rfl
    · rw [if_neg fun h => same h.1, if_neg fun h => same h.1]

/-- An inquiry leaves the stocks that acquiring leaves. -/
theorem stock_inquiry {q : Query (Desk (CacheLog.Recorded W)) α}
    (inquiry : Inquiry (CacheLog.recorded p) k q) (d : Desk (CacheLog.Recorded W)) (s : Symbol) :
    (q.outcome d).2.stock s = ((acquire (CacheLog.recorded p) k).outcome d).2.stock s := by
  rw [stock, stock, CacheLog.Recorded.opened, CacheLog.Recorded.opened, inquiry.openings d,
    (inquiry.clock_cache d).2]

end Desk

namespace Session

variable {p : Provider W} {s : Symbol}

theorem stock_upkeep {d : Desk (CacheLog.Recorded W)} (keyed : d.cache.Keyed) (step : Step) :
    (step.upkeep d).stock s = (d.stock s).upkeep d.cache.lifetime d.now step := by
  cases step with
  | purge =>
    show Stock.mk _ (((d.cache.purge d.now).find? s).map Entry.created) = (d.stock s).purge _ _
    rw [Cache.find?_purge keyed, Stock.purge, Desk.stock, Stock.isFresh]
    cases d.cache.find? s with
    | none => rfl
    | some e =>
      rw [Option.filter_some, Entry.isFresh, Option.map_some, Option.any_some]
      split <;> rfl
  | _ => rfl

/-- Every step turns the stock of a symbol. -/
theorem stock_after {works : Bool} (steady : ∀ w, ((p.create s).outcome w).1.isOk = works)
    {d : Desk (CacheLog.Recorded W)} (keyed : d.cache.Keyed) (step : Step) :
    (momentOf (CacheLog.recorded p) step d).after.stock s =
      (d.stock s).turn works s d.cache.lifetime d.now step := by
  cases asked : step.symbol? with
  | none =>
    have after : (momentOf (CacheLog.recorded p) step d).after = step.upkeep d :=
      after_of_no_symbol _ asked d
    rw [after, stock_upkeep keyed, Stock.turn, asked, if_neg (by simp)]
  | some k =>
    obtain ⟨α, q, report, inquiry, outcome⟩ := outcome_of_symbol? (CacheLog.recorded p) asked
    have after : (momentOf (CacheLog.recorded p) step d).after = (q.outcome d).2 :=
      congrArg Prod.snd (outcome d)
    have idle : (d.stock s).upkeep d.cache.lifetime d.now step = d.stock s := by
      rw [← stock_upkeep keyed, upkeep_of_symbol? asked]
    rw [after, Desk.stock_inquiry inquiry, Desk.stock_acquire steady, Stock.turn, asked, idle]
    simp only [Option.some.injEq]

/-- The desks have one clock, and each stock of the second one lags behind that of the first. -/
structure Behind (d d' : Desk (CacheLog.Recorded W)) : Prop where
  clock : d'.clock = d.clock
  lifetime : d.cache.lifetime.nanos ≤ d'.cache.lifetime.nanos
  keyed : d.cache.Keyed
  keyed' : d'.cache.Keyed
  past : ∀ s t, (d.stock s).since = some t → t.nanos ≤ d.now.nanos
  lags : ∀ s, (d.stock s).Lags d.cache.lifetime d.now (d'.stock s)

theorem Behind.step {d d' : Desk (CacheLog.Recorded W)} (behind : Behind d d')
    (steady : p.Steady) (step : Step)
    (forward : d.now.nanos ≤ (momentOf (CacheLog.recorded p) step d).after.now.nanos) :
    Behind (momentOf (CacheLog.recorded p) step d).after
      (momentOf (CacheLog.recorded p) step d').after where
  clock := by
    rw [clock_after, clock_after]
    exact step.upkeep_clock behind.clock
  lifetime := by
    rw [lifetime_after, lifetime_after]
    exact behind.lifetime
  keyed := keyed_after _ step behind.keyed
  keyed' := keyed_after _ step behind.keyed'
  past s t stored := by
    obtain ⟨works, certain⟩ := steady.works s
    rw [stock_after certain behind.keyed] at stored
    rcases Stock.since_turn stored with before | rfl
    · exact Int.le_trans (behind.past s t before) forward
    · exact forward
  lags s := by
    obtain ⟨works, certain⟩ := steady.works s
    have now : d'.now = d.now := congrArg Clock.now behind.clock
    have turned := (behind.lags s).turn behind.lifetime (behind.past s) works s step
    rw [stock_after certain behind.keyed, stock_after certain behind.keyed', lifetime_after, now]
    exact turned.later forward

theorem Behind.fresh (clock : Clock) (world : W) {shorter longer : Lifetime}
    (le : shorter.nanos ≤ longer.nanos) :
    Behind (Session.fresh clock shorter ⟨world, []⟩) (Session.fresh clock longer ⟨world, []⟩) where
  clock := rfl
  lifetime := le
  keyed := Cache.keyed_empty shorter
  keyed' := Cache.keyed_empty longer
  past s t stored := by cases stored
  lags s := .refl shorter clock.now ⟨0, none⟩

/-- From a desk behind which the other is, a run goes on so. -/
theorem Behind.moments {p : Provider W} (steady : p.Steady) (steps : List Step) :
    ∀ {d d' : Desk (CacheLog.Recorded W)}, Behind d d' →
      Forward (moments (CacheLog.recorded p) steps d) →
      List.Forall₂ (fun m m' => ∀ s, m'.after.world.opened s ≤ m.after.world.opened s)
        (Session.moments (CacheLog.recorded p) steps d)
        (Session.moments (CacheLog.recorded p) steps d') := by
  induction steps with
  | nil => exact fun _ _ => .nil
  | cons step steps ih =>
    intro d d' behind forward
    rw [moments_cons, forward_cons] at forward
    have next := behind.step steady step forward.1
    rw [moments_cons, moments_cons]
    exact .cons (fun s => (next.lags s).fewer) (ih next forward.2)

/-- **A longer lifetime opens no more handles.** When openings for a symbol always succeed or always
fail, and the clock never moves backward, then after every step of a run from an empty cache, for
each symbol, no more handles were opened with a longer lifetime than with a shorter one. -/
theorem longer_lifetime_opens_no_more (p : Provider W) (steady : p.Steady) (clock : Clock)
    (world : W) (steps : List Step) {seconds nanos seconds' nanos' : Nat}
    (longer : seconds * 1000000000 + nanos ≤ seconds' * 1000000000 + nanos')
    (forward : Forward (moments (CacheLog.recorded p) steps
      (fresh clock (.ofParts seconds nanos) ⟨world, []⟩))) :
    List.Forall₂ (fun m m' => ∀ s, m'.after.world.opened s ≤ m.after.world.opened s)
      (moments (CacheLog.recorded p) steps (fresh clock (.ofParts seconds nanos) ⟨world, []⟩))
      (moments (CacheLog.recorded p) steps (fresh clock (.ofParts seconds' nanos') ⟨world, []⟩)) := by
  apply Behind.moments steady steps _ forward
  exact Behind.fresh clock world (Lifetime.ofParts_le longer)

/-- A provider of handles for `A` alone, whose answers are all errors. -/
def onlyA : Provider Tally :=
  (Canned.mk fun s =>
    if s = ⟨"A"⟩ then .ok (.failing (.other "down")) else .error .abort).provider

/-- The longer lifetime, which has opened fewer handles, opens one when the younger handle of the
shorter lifetime is still fresh. -/
theorem longer_lifetime_opens_no_more_catching_up :
    onlyA.Steady ∧
      List.Forall₂ (fun m m' => ∀ s, m'.after.world.opened s ≤ m.after.world.opened s)
        (moments (CacheLog.recorded onlyA)
          [.acquire ⟨"A"⟩, .advance 2000000000, .info ⟨"A"⟩, .dividends ⟨"B"⟩,
            .advance 1000000000, .acquire ⟨"A"⟩]
          (fresh ⟨.epoch, true⟩ (.ofParts 2 0) ⟨⟨0, 0⟩, []⟩))
        (moments (CacheLog.recorded onlyA)
          [.acquire ⟨"A"⟩, .advance 2000000000, .info ⟨"A"⟩, .dividends ⟨"B"⟩,
            .advance 1000000000, .acquire ⟨"A"⟩]
          (fresh ⟨.epoch, true⟩ (.ofParts 3 0) ⟨⟨0, 0⟩, []⟩)) := by
  have steady : onlyA.Steady := by
    intro s
    by_cases known : s = ⟨"A"⟩
    · subst known
      exact Or.inl fun _ => rfl
    · refine Or.inr fun w => ?_
      simp only [onlyA, Canned.provider, Canned.create, if_neg known, Query.outcome_bind,
        Query.outcome_ofExcept]
      rfl
  exact ⟨steady, longer_lifetime_opens_no_more onlyA steady ⟨.epoch, true⟩ ⟨0, 0⟩ _ (by decide)
    (by decide)⟩

end Session

end MarketDesk
