import MarketDesk.Desk.Fetch
import MarketDesk.Proofs.Desk.Acquire

/-!
# Inquiries

Whatever is asked of a desk about a symbol is asked in one way: one handle is acquired, and then
questions are put through that handle, which touch the world and neither clock nor cache. `Asking`
says what a query through a handle is made of, and `Inquiry` that a query of the desk has this
form; each fetch is one. What an inquiry does to clock and cache is then what acquiring does.

The fetches do not look at their handle, and only ask through it. `Questioning` and `Survey` say so:
a survey has one result for any two handles that answer alike.
-/

namespace MarketDesk

/-- The query puts questions through one handle, and makes its result from the answers. -/
inductive Asking {W : Type} (p : Provider W) (h : Handle) : {α : Type} → Query W α → Prop where
  | ofExcept {α : Type} (r : Except Fault α) : Asking p h (Query.ofExcept r)
  | bind {α β : Type} {q : Query W α} {k : α → Query W β} : Asking p h q →
      (∀ a, Asking p h (k a)) → Asking p h (q >>= k)
  | history (period : Period) : Asking p h (p.history h period)
  | dividends : Asking p h (p.dividends h)
  | info : Asking p h (p.info h)

/-- The query acquires a handle for the symbol and asks through it. -/
def Inquiry {W α : Type} (p : Provider W) (s : Symbol) (q : Query (Desk W) α) : Prop :=
  ∃ ask : Handle → Query W α, (∀ h, Asking p h (ask h)) ∧
    q = Desk.acquire p s >>= fun h => Desk.onWorld (ask h)

/-- The same questions are put through any handle, and the result is made from the answers. -/
inductive Questioning {W : Type} (p : Provider W) : {α : Type} → (Handle → Query W α) → Prop where
  | ofExcept {α : Type} (r : Except Fault α) : Questioning p fun _ => Query.ofExcept r
  | bind {α β : Type} {ask : Handle → Query W α} {next : α → Handle → Query W β} :
      Questioning p ask → (∀ a, Questioning p (next a)) →
      Questioning p fun h => ask h >>= fun a => next a h
  | history (period : Period) : Questioning p fun h => p.history h period
  | dividends : Questioning p fun h => p.dividends h
  | info : Questioning p fun h => p.info h

/-- The query acquires a handle for the symbol, and puts the same questions through any handle. -/
def Survey {W α : Type} (p : Provider W) (s : Symbol) (q : Query (Desk W) α) : Prop :=
  ∃ ask : Handle → Query W α, Questioning p ask ∧
    q = Desk.acquire p s >>= fun h => Desk.onWorld (ask h)

variable {W α β : Type} {p : Provider W} {s : Symbol} {h : Handle} {d d' : Desk W}

/-- A query is known by its outcomes. -/
theorem Query.ext {σ : Type} {q q' : Query σ α} (h : ∀ t, q.outcome t = q'.outcome t) : q = q' :=
  funext h

theorem Asking.pure (a : α) : Asking p h (Pure.pure a : Query W α) := .ofExcept (.ok a)

/-- Questions leave a part of the world as it is. -/
structure Provider.Leaves (p : Provider W) (part : W → β) : Prop where
  history : ∀ h period w, part ((p.history h period).outcome w).2 = part w
  dividends : ∀ h w, part ((p.dividends h).outcome w).2 = part w
  info : ∀ h w, part ((p.info h).outcome w).2 = part w

theorem Asking.keeps {part : W → β} (leaves : p.Leaves part) {q : Query W α}
    (asking : Asking p h q) (w : W) : part (q.outcome w).2 = part w := by
  induction asking generalizing w with
  | ofExcept r => rw [Query.outcome_ofExcept]
  | bind _ _ ih ihk =>
    have first := ih w
    rw [Query.outcome_bind]
    split
    next a t asked =>
      rw [asked] at first
      rw [ihk a t, first]
    next f t asked =>
      rw [asked] at first
      exact first
  | history period => exact leaves.history h period w
  | dividends => exact leaves.dividends h w
  | info => exact leaves.info h w

theorem Questioning.pure (a : α) : Questioning p fun _ => (Pure.pure a : Query W α) :=
  .ofExcept (.ok a)

theorem Questioning.asking {ask : Handle → Query W α} (questioning : Questioning p ask)
    (h : Handle) : Asking p h (ask h) := by
  induction questioning with
  | ofExcept r => exact .ofExcept r
  | bind _ _ ih ihnext => exact ih.bind ihnext
  | history period => exact .history period
  | dividends => exact .dividends
  | info => exact .info

/-- A survey is an inquiry. -/
theorem Survey.inquiry {q : Query (Desk W) α} (survey : Survey p s q) : Inquiry p s q := by
  obtain ⟨ask, questioning, rfl⟩ := survey
  exact ⟨ask, questioning.asking, rfl⟩

namespace Desk

theorem onWorld_bind (q : Query W α) (k : α → Query W β) :
    (onWorld q >>= fun a => onWorld (k a)) = onWorld (q >>= k) := by
  apply Query.ext
  intro d
  rw [Query.outcome_bind, outcome_onWorld, outcome_onWorld, Query.outcome_bind]
  cases q.outcome d.world with
  | mk r w => cases r <;> rfl

theorem onWorld_ofExcept (r : Except Fault α) :
    (onWorld (Query.ofExcept r : Query W α)) = Query.ofExcept r := by
  cases r <;> rfl

theorem onWorld_pure (a : α) : onWorld (pure a : Query W α) = pure a := rfl

/-- Acquiring takes no time. -/
theorem acquire_clock (p : Provider W) (s : Symbol) (d : Desk W) :
    ((acquire p s).outcome d).2.clock = d.clock := by
  cases fresh : d.cache.fresh? d.now s with
  | some h => rw [acquire_of_fresh fresh]
  | none =>
    rw [acquire_of_not_fresh fresh, opened]
    cases ((p.create s).outcome d.world).1 <;> rfl

theorem acquire_lifetime (p : Provider W) (s : Symbol) (d : Desk W) :
    ((acquire p s).outcome d).2.cache.lifetime = d.cache.lifetime := by
  cases fresh : d.cache.fresh? d.now s with
  | some h => rw [acquire_of_fresh fresh]
  | none =>
    rw [acquire_of_not_fresh fresh, opened]
    cases ((p.create s).outcome d.world).1 <;> rfl

theorem acquire_keyed (p : Provider W) (s : Symbol) (keyed : d.cache.Keyed) :
    ((acquire p s).outcome d).2.cache.Keyed := by
  cases fresh : d.cache.fresh? d.now s with
  | some h =>
    rw [acquire_of_fresh fresh]
    exact keyed
  | none =>
    rw [acquire_of_not_fresh fresh, opened]
    cases ((p.create s).outcome d.world).1 with
    | error f => exact keyed
    | ok h => exact keyed.insert s _

end Desk

namespace Inquiry

variable {q : Query (Desk W) α}

/-- Acquiring alone asks nothing. -/
theorem acquire (p : Provider W) (s : Symbol) : Inquiry p s (Desk.acquire p s) :=
  ⟨fun h => Pure.pure h, fun h => .pure h, by simp only [Desk.onWorld_pure, bind_pure]⟩

theorem map (f : α → β) (inquiry : Inquiry p s q) : Inquiry p s (f <$> q) := by
  obtain ⟨ask, asking, rfl⟩ := inquiry
  refine ⟨fun h => ask h >>= fun a => Pure.pure (f a), fun h => (asking h).bind fun a => .pure _, ?_⟩
  simp only [← Desk.onWorld_bind, Desk.onWorld_pure, map_eq_pure_bind, bind_assoc]

/-- An inquiry fails as acquiring does, or asks through the handle that was acquired. -/
theorem outcome_cases (inquiry : Inquiry p s q) (d : Desk W) :
    (∃ f d', (Desk.acquire p s).outcome d = (.error f, d') ∧ q.outcome d = (.error f, d')) ∨
      ∃ (h : Handle) (d' : Desk W) (ask : Query W α),
        (Desk.acquire p s).outcome d = (.ok h, d') ∧ Asking p h ask ∧
        q.outcome d = ((ask.outcome d'.world).1,
          { d' with world := (ask.outcome d'.world).2 }) := by
  obtain ⟨ask, asking, rfl⟩ := inquiry
  cases acquired : (Desk.acquire p s).outcome d with
  | mk r d' =>
    cases r with
    | error f => exact Or.inl ⟨f, d', rfl, Query.outcome_bind_error acquired _⟩
    | ok h =>
      refine Or.inr ⟨h, d', ask h, rfl, asking h, ?_⟩
      rw [Query.outcome_bind_ok acquired, Desk.outcome_onWorld]

/-- An inquiry leaves the clock and the cache that acquiring leaves. -/
theorem clock_cache (inquiry : Inquiry p s q) (d : Desk W) :
    (q.outcome d).2.clock = ((Desk.acquire p s).outcome d).2.clock ∧
      (q.outcome d).2.cache = ((Desk.acquire p s).outcome d).2.cache := by
  rcases inquiry.outcome_cases d with ⟨f, d', acquired, outcome⟩ | ⟨h, d', ask, acquired, -, outcome⟩
  · rw [acquired, outcome]
    exact ⟨rfl, rfl⟩
  · rw [acquired, outcome]
    exact ⟨rfl, rfl⟩

/-- An inquiry leaves what acquiring leaves of a part that questions do not change. -/
theorem keeps {part : W → β} (leaves : p.Leaves part) (inquiry : Inquiry p s q) (d : Desk W) :
    part (q.outcome d).2.world = part ((Desk.acquire p s).outcome d).2.world := by
  rcases inquiry.outcome_cases d with ⟨f, d', acquired, outcome⟩ |
    ⟨h, d', ask, acquired, asking, outcome⟩
  · rw [acquired, outcome]
  · rw [acquired, outcome]
    exact asking.keeps leaves d'.world

end Inquiry

theorem Survey.map {q : Query (Desk W) α} (f : α → β) (survey : Survey p s q) :
    Survey p s (f <$> q) := by
  obtain ⟨ask, questioning, rfl⟩ := survey
  refine ⟨fun h => ask h >>= fun a => Pure.pure (f a), questioning.bind fun a => .pure _, ?_⟩
  simp only [← Desk.onWorld_bind, Desk.onWorld_pure, map_eq_pure_bind, bind_assoc]

namespace Desk

theorem fetchHistory_survey (p : Provider W) (s : Symbol) (period : Period) :
    Survey p s (fetchHistory p s period) := by
  refine ⟨fun h => do
    let prices ← p.history h period
    let payments ← p.dividends h
    let bars ← Query.ofExcept prices.bars
    let dividends ← Query.ofExcept payments.dividends
    pure (Timeline.make bars dividends), ?_, ?_⟩
  · exact (Questioning.history period).bind fun prices => Questioning.dividends.bind
      fun payments => (Questioning.ofExcept _).bind fun bars => (Questioning.ofExcept _).bind
        fun dividends => .pure _
  · simp only [fetchHistory, ← onWorld_bind, onWorld_ofExcept, onWorld_pure]

theorem fetchDividends_survey (p : Provider W) (s : Symbol) :
    Survey p s (fetchDividends p s) := by
  refine ⟨fun h => do
    let payments ← p.dividends h
    let dividends ← Query.ofExcept payments.dividends
    pure (payouts dividends), ?_, ?_⟩
  · exact Questioning.dividends.bind fun payments => (Questioning.ofExcept _).bind
      fun dividends => .pure _
  · simp only [fetchDividends, ← onWorld_bind, onWorld_ofExcept, onWorld_pure]

theorem fetchOverview_survey (p : Provider W) (s : Symbol) :
    Survey p s (fetchOverview p s) := by
  refine ⟨fun h => do
    let snapshot ← p.info h
    pure (Snapshot.overview snapshot), ?_, ?_⟩
  · exact Questioning.info.bind fun snapshot => .pure _
  · simp only [fetchOverview, ← onWorld_bind, onWorld_pure]

end Desk

/-! ## Fetches -/

/-- Something to fetch from a desk. -/
inductive Fetch where
  | history (symbol : Symbol) (period : Period)
  | dividends (symbol : Symbol)
  | overview (symbol : Symbol)
  deriving DecidableEq, Repr

/-- What was fetched. -/
inductive Fetched where
  | history (t : Timeline)
  | dividends (ds : List Dividend)
  | overview (o : Overview)

namespace Fetch

/-- The symbol that is asked about. -/
def symbol : Fetch → Symbol
  | .history s _ => s
  | .dividends s => s
  | .overview s => s

/-- Fetches from a desk. -/
def perform (p : Provider W) : Fetch → Query (Desk W) Fetched
  | .history s period => .history <$> Desk.fetchHistory p s period
  | .dividends s => .dividends <$> Desk.fetchDividends p s
  | .overview s => .overview <$> Desk.fetchOverview p s

theorem perform_survey (p : Provider W) (f : Fetch) : Survey p f.symbol (f.perform p) := by
  cases f with
  | history s period => exact (Desk.fetchHistory_survey p s period).map _
  | dividends s => exact (Desk.fetchDividends_survey p s).map _
  | overview s => exact (Desk.fetchOverview_survey p s).map _

theorem perform_inquiry (p : Provider W) (f : Fetch) : Inquiry p f.symbol (f.perform p) :=
  (f.perform_survey p).inquiry

end Fetch

/-! ## Acquiring again -/

namespace Desk

/-- A handle that was acquired is stored: nothing changed and its entry was fresh, or it is a new
entry of the present time. -/
theorem entry_of_acquire (acquired : (acquire p s).outcome d = (.ok h, d')) :
    ∃ e, d'.cache.find? s = some e ∧ e.handle = h ∧
      ((d' = d ∧ e.isFresh d.now d.cache.lifetime = true) ∨ e.created = d.now) := by
  cases fresh : d.cache.fresh? d.now s with
  | some h' =>
    rw [acquire_of_fresh fresh] at acquired
    cases acquired
    obtain ⟨e, young, rfl⟩ := Option.map_eq_some_iff.1 fresh
    obtain ⟨stored, young⟩ := Option.filter_eq_some_iff.1 young
    exact ⟨e, stored, rfl, Or.inl ⟨rfl, young⟩⟩
  | none =>
    rw [acquire_of_not_fresh fresh] at acquired
    cases opening : (p.create s).outcome d.world with
    | mk r w =>
      rw [opening] at acquired
      cases r with
      | error f => cases acquired
      | ok h' =>
        cases acquired
        refine ⟨⟨h, d.now⟩, ?_, rfl, Or.inr rfl⟩
        show (d.cache.insert s ⟨h, d.now⟩).find? s = _
        rw [Cache.find?_insert, if_pos rfl]

/-- An entry is served while it is fresh. -/
theorem acquire_of_entry {e : Entry} (stored : d.cache.find? s = some e)
    (young : e.isFresh d.now d.cache.lifetime = true) :
    (acquire p s).outcome d = (.ok e.handle, d) := by
  apply acquire_of_fresh
  rw [Cache.fresh?, stored, Option.filter_some, if_pos young]
  rfl

/-- After an inquiry, the handle through which it asked is acquired again. -/
theorem acquire_again {q : Query (Desk W) α} (inquiry : Inquiry p s q)
    (acquired : (acquire p s).outcome d = (.ok h, d')) (lasting : 0 < d.cache.lifetime.nanos) :
    (acquire p s).outcome (q.outcome d).2 = (.ok h, (q.outcome d).2) := by
  obtain ⟨clock, cache⟩ := inquiry.clock_cache d
  have still := acquire_clock p s d
  have lifetime := acquire_lifetime p s d
  rw [acquired] at clock cache still lifetime
  obtain ⟨e, stored, rfl, age⟩ := entry_of_acquire acquired
  apply acquire_of_entry
  · rw [cache, stored]
  · rw [now, clock, cache, still, lifetime]
    rcases age with ⟨-, young⟩ | created
    · exact young
    · rw [Entry.isFresh_iff, created]
      show d.now.nanos - d.now.nanos < d.cache.lifetime.nanos
      omega

end Desk

end MarketDesk
