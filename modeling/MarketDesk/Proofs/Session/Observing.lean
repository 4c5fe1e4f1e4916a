import MarketDesk.Proofs.Session.Moments

/-!
# Observers

A provider that writes down what it is asked answers as it would without. `Provider.Mirrors` says
of two providers that the first one does on a part of its world what the second one does on its
own; then every run of a session with the first is a run with the second, seen through that part.
The record of openings is an observer in this sense, so what is said about runs with the record is
said about the runs without it.
-/

namespace MarketDesk

variable {σ τ V W α β : Type}

/-! ## Queries -/

/-- The query does on a part of its state what the other one does on its own. -/
def Query.Mirrors (part : σ → τ) (q : Query σ α) (q' : Query τ α) : Prop :=
  ∀ s, (q'.outcome (part s)) = ((q.outcome s).1, part (q.outcome s).2)

namespace Query.Mirrors

variable {part : σ → τ} {q : Query σ α} {q' : Query τ α}

theorem ofExcept (part : σ → τ) (r : Except Fault α) :
    Mirrors part (Query.ofExcept r) (Query.ofExcept r) := by
  intro s
  rw [outcome_ofExcept, outcome_ofExcept]

theorem pure (part : σ → τ) (a : α) : Mirrors part (Pure.pure a) (Pure.pure a) := fun _ => rfl

theorem bind (first : Mirrors part q q') {k : α → Query σ β} {k' : α → Query τ β}
    (rest : ∀ a, Mirrors part (k a) (k' a)) : Mirrors part (q >>= k) (q' >>= k') := by
  intro s
  have step := first s
  cases run : q.outcome s with
  | mk r t =>
    rw [run] at step
    cases r with
    | ok a => rw [outcome_bind_ok run, outcome_bind_ok step, rest a t]
    | error f => rw [outcome_bind_error run, outcome_bind_error step]

theorem map (f : α → β) (mirrors : Mirrors part q q') : Mirrors part (f <$> q) (f <$> q') := by
  rw [map_eq_pure_bind, map_eq_pure_bind]
  exact mirrors.bind fun a => pure part (f a)

end Query.Mirrors

/-! ## Providers -/

/-- The provider does on a part of its world what the other one does on its own. -/
structure Provider.Mirrors (part : V → W) (p : Provider V) (p' : Provider W) : Prop where
  create : ∀ s, (p.create s).Mirrors part (p'.create s)
  history : ∀ h period, (p.history h period).Mirrors part (p'.history h period)
  dividends : ∀ h, (p.dividends h).Mirrors part (p'.dividends h)
  info : ∀ h, (p.info h).Mirrors part (p'.info h)

/-- A record of openings changes nothing. -/
theorem CacheLog.recorded_mirrors (p : Provider W) : (recorded p).Mirrors Recorded.world p where
  create _ _ := rfl
  history _ _ _ := rfl
  dividends _ _ := rfl
  info _ _ := rfl

/-- The desk in front of a part of the world. -/
def Desk.seen (part : V → W) (d : Desk V) : Desk W := ⟨d.clock, d.cache, part d.world⟩

section Desks

variable {part : V → W} {p : Provider V} {p' : Provider W} {s : Symbol}

theorem Query.Mirrors.onWorld {q : Query V α} {q' : Query W α} (mirrors : q.Mirrors part q') :
    (Desk.onWorld q).Mirrors (Desk.seen part) (Desk.onWorld q') := by
  intro d
  rw [Desk.outcome_onWorld, Desk.outcome_onWorld]
  have step : q'.outcome (d.seen part).world = _ := mirrors d.world
  rw [step]
  rfl

namespace Provider.Mirrors

theorem acquire (mirrors : p.Mirrors part p') (s : Symbol) :
    (Desk.acquire p s).Mirrors (Desk.seen part) (Desk.acquire p' s) := by
  intro d
  have same : (d.seen part).cache.fresh? (d.seen part).now s = d.cache.fresh? d.now s := rfl
  cases fresh : d.cache.fresh? d.now s with
  | some h =>
    rw [fresh] at same
    rw [Desk.acquire_of_fresh fresh, Desk.acquire_of_fresh same]
  | none =>
    rw [fresh] at same
    have opening : (p'.create s).outcome (d.seen part).world = _ := mirrors.create s d.world
    rw [Desk.acquire_of_not_fresh fresh, Desk.acquire_of_not_fresh same, opening]
    cases (p.create s).outcome d.world with
    | mk r w => cases r <;> rfl

theorem fetchHistory (mirrors : p.Mirrors part p') (s : Symbol) (period : Period) :
    (Desk.fetchHistory p s period).Mirrors (Desk.seen part) (Desk.fetchHistory p' s period) :=
  (mirrors.acquire s).bind fun h => (mirrors.history h period).onWorld.bind fun _ =>
    (mirrors.dividends h).onWorld.bind fun _ => (Query.Mirrors.ofExcept _ _).bind
      fun _ => (Query.Mirrors.ofExcept _ _).bind fun _ => .pure _ _

theorem fetchDividends (mirrors : p.Mirrors part p') (s : Symbol) :
    (Desk.fetchDividends p s).Mirrors (Desk.seen part) (Desk.fetchDividends p' s) :=
  (mirrors.acquire s).bind fun h => (mirrors.dividends h).onWorld.bind fun _ =>
    (Query.Mirrors.ofExcept _ _).bind fun _ => .pure _ _

theorem fetchOverview (mirrors : p.Mirrors part p') (s : Symbol) :
    (Desk.fetchOverview p s).Mirrors (Desk.seen part) (Desk.fetchOverview p' s) :=
  (mirrors.acquire s).bind fun h => (mirrors.info h).onWorld.bind fun _ => .pure _ _

theorem perform (mirrors : p.Mirrors part p') (f : Fetch) :
    (f.perform p).Mirrors (Desk.seen part) (f.perform p') := by
  cases f with
  | history s period => exact (mirrors.fetchHistory s period).map _
  | dividends s => exact (mirrors.fetchDividends s).map _
  | overview s => exact (mirrors.fetchOverview s).map _

end Provider.Mirrors

/-! ## Sessions -/

namespace Session

theorem period_mirrors (part : V → W) (text : String) :
    Query.Mirrors (Desk.seen part) (period text) (period text) := by
  rw [period_eq_onWorld, period_eq_onWorld]
  exact (Query.Mirrors.ofExcept part (namedPeriod text)).onWorld

/-- A step does in front of a part of the world what it does in front of the world. -/
theorem step_mirrors (mirrors : p.Mirrors part p') (s : Step) :
    (step p s).Mirrors (Desk.seen part) (step p' s) := by
  cases s with
  | acquire s => exact (mirrors.acquire s).map _
  | advance nanos =>
    intro d
    rw [outcome_step_advance, outcome_step_advance]
    rfl
  | purge => exact fun _ => rfl
  | clear => exact fun _ => rfl
  | isEmpty => exact fun _ => rfl
  | lifetime => exact fun _ => rfl
  | history s text =>
    exact (period_mirrors part text).bind fun period => (mirrors.fetchHistory s period).map _
  | dividends s => exact (mirrors.fetchDividends s).map _
  | info s => exact (mirrors.fetchOverview s).map _
  | rawHistory s text =>
    exact (mirrors.acquire s).bind fun h => (period_mirrors part text).bind fun period =>
      (mirrors.history h period).onWorld.bind fun _ => (Query.Mirrors.ofExcept _ _).bind
        fun _ => .pure _ _
  | rawDividends s =>
    exact (mirrors.acquire s).bind fun h => (mirrors.dividends h).onWorld.bind fun _ =>
      (Query.Mirrors.ofExcept _ _).bind fun _ => .pure _ _
  | rawInfo s =>
    exact (mirrors.acquire s).bind fun h => (mirrors.info h).onWorld.bind fun _ => .pure _ _
  | http method target =>
    cases requested : requested? method target with
    | some f =>
      obtain ⟨report, outcome⟩ := outcome_of_requested? requested
      intro d
      rw [outcome p d, outcome p' (d.seen part), mirrors.perform f d]
    | none =>
      rcases outcome_of_not_requested requested with ⟨a, same⟩ | ⟨-, -, report⟩
      · intro d
        rw [same p d, same p' (d.seen part)]
      · intro d
        rw [report p d, report p' (d.seen part)]
        rfl

/-- A moment, seen through a part of the world. -/
def Moment.seen (part : V → W) (m : Moment V) : Moment W :=
  ⟨m.step, m.before.seen part, m.outcome, m.after.seen part⟩

/-- **Observers change nothing.** A run in front of a world is, seen through a part of it, a run in
front of the part. -/
theorem moments_mirror (mirrors : p.Mirrors part p') (steps : List Step) (d : Desk V) :
    moments p' steps (d.seen part) = (moments p steps d).map (Moment.seen part) := by
  induction steps generalizing d with
  | nil => rfl
  | cons s steps ih =>
    have outcome : (step p' s).outcome (d.seen part) = _ := step_mirrors mirrors s d
    have here : momentOf p' s (d.seen part) = (momentOf p s d).seen part := by
      rw [momentOf, outcome]
      rfl
    rw [moments_cons, moments_cons, List.map_cons, here, ← ih]
    rfl

end Session

end Desks

end MarketDesk
