import MarketDesk.Proofs.Desk.EventLog
import MarketDesk.Proofs.Http.Fetches

/-!
# The moments of a session

A run of a session as the list of its moments, each a step with its outcome and the desk before
and after it. A step asks about at most one symbol, `Step.symbol?`, and which one is decided
before the desk is looked at: then it is an inquiry, whose outcome it reports, and otherwise it is
upkeep of clock and cache, which the world does not notice. `outcome_of_symbol?` and
`after_of_no_symbol` say so, and a proof about runs needs no other case analysis.
-/

namespace MarketDesk

open MarketDesk.Calendar

variable {W : Type}

namespace Session

/-- A step of a run, with the desk before and after it. -/
structure Moment (W : Type) where
  step : Step
  before : Desk W
  outcome : Except Fault Answer
  after : Desk W

/-- The moments of a run. -/
def moments (p : Provider W) : List Step → Desk W → List (Moment W)
  | [], _ => []
  | s :: steps, d =>
    let r := (step p s).outcome d
    ⟨s, d, r.1, r.2⟩ :: moments p steps r.2

/-- The moments are those of the run. -/
theorem map_moments (p : Provider W) (steps : List Step) (d : Desk W) :
    (moments p steps d).map (fun m => (m.outcome, m.after)) = run p steps d := by
  induction steps generalizing d with
  | nil => rfl
  | cons s steps ih =>
    rw [moments, List.map_cons, ih]
    rfl

/-- The clock never moves backward. -/
def Forward (ms : List (Moment W)) : Prop := ∀ m ∈ ms, m.before.now.nanos ≤ m.after.now.nanos

instance (ms : List (Moment W)) : Decidable (Forward ms) :=
  inferInstanceAs (Decidable (∀ m ∈ ms, m.before.now.nanos ≤ m.after.now.nanos))

/-- The moment in which a step is carried out on a desk. -/
def momentOf (p : Provider W) (s : Step) (d : Desk W) : Moment W :=
  ⟨s, d, ((step p s).outcome d).1, ((step p s).outcome d).2⟩

theorem moments_cons (p : Provider W) (s : Step) (steps : List Step) (d : Desk W) :
    moments p (s :: steps) d = momentOf p s d :: moments p steps (momentOf p s d).after := rfl

theorem forward_cons {m : Moment W} {ms : List (Moment W)} :
    Forward (m :: ms) ↔ m.before.now.nanos ≤ m.after.now.nanos ∧ Forward ms :=
  List.forall_mem_cons

/-- The openings that the provider was asked for in a moment. -/
def Moment.openings (m : Moment (CacheLog.Recorded W)) : List (Symbol × Except Fault Handle) :=
  m.after.world.openings.drop m.before.world.openings.length

/-- The fetch that a request asks for, if it does. -/
def requested? (method target : String) : Option Fetch :=
  match Http.Method.ofText? method, Http.Target.path? target.toList with
  | some method, some path => if method.reads then (Http.Route.ofPath path).fetch? else none
  | _, _ => none

/-- A request asks for the fetch of its route if it is valid and reads. -/
theorem requested?_eq_some_iff {method target : String} {f : Fetch} :
    requested? method target = some f ↔
      ∃ m path, Http.Method.ofText? method = some m ∧ m.reads = true ∧
        Http.Target.path? target.toList = some path ∧ (Http.Route.ofPath path).fetch? = some f := by
  constructor
  · intro requested
    unfold requested? at requested
    split at requested
    next m path known valid =>
      split at requested
      next reads => exact ⟨m, path, known, reads, valid, requested⟩
      next => cases requested
    next => cases requested
  · rintro ⟨m, path, known, reads, valid, asked⟩
    rw [requested?, known, valid]
    exact (if_pos reads).trans asked

end Session

/-- The symbol that a step asks about, if it does. -/
def Step.symbol? : Step → Option Symbol
  | .acquire s => some s
  | .history s text => (Period.ofText? text).map fun _ => s
  | .dividends s => some s
  | .info s => some s
  | .rawHistory s _ => some s
  | .rawDividends s => some s
  | .rawInfo s => some s
  | .http method target => (Session.requested? method target).map Fetch.symbol
  | .advance _ => none
  | .purge => none
  | .clear => none
  | .isEmpty => none
  | .lifetime => none

/-- A clock that was told to move by a number of nanoseconds. -/
def Clock.moved (c : Clock) (nanos : Int) : Clock :=
  if c.adjustable then
    match c.now.add? nanos with
    | some now => { c with now }
    | none => c
  else c

/-- What is left of a desk by a step that asks about no symbol. -/
def Step.upkeep (s : Step) (d : Desk W) : Desk W :=
  match s with
  | .advance nanos => { d with clock := d.clock.moved nanos }
  | .purge => { d with cache := d.cache.purge d.now }
  | .clear => { d with cache := d.cache.clear }
  | _ => d

@[simp] theorem Step.upkeep_world (s : Step) (d : Desk W) : (s.upkeep d).world = d.world := by
  cases s <;> rfl

@[simp] theorem Step.upkeep_lifetime (s : Step) (d : Desk W) :
    (s.upkeep d).cache.lifetime = d.cache.lifetime := by
  cases s <;> rfl

/-- Upkeep stores nothing new. -/
theorem Step.mem_of_mem_upkeep {s : Step} {d : Desk W} {x : Symbol × Entry}
    (stored : x ∈ (s.upkeep d).cache.entries) : x ∈ d.cache.entries := by
  cases s with
  | purge => exact (List.mem_filter.1 stored).1
  | clear => cases stored
  | _ => exact stored

theorem Step.upkeep_keyed (s : Step) {d : Desk W} (keyed : d.cache.Keyed) :
    (s.upkeep d).cache.Keyed := by
  cases s with
  | purge => exact keyed.purge d.now
  | clear => exact Cache.keyed_clear d.cache
  | _ => exact keyed

/-- Upkeep moves the clock by what the clock says alone. -/
theorem Step.upkeep_clock (s : Step) {d d' : Desk W} (same : d'.clock = d.clock) :
    (s.upkeep d').clock = (s.upkeep d).clock := by
  cases s with
  | advance nanos => exact congrArg (Clock.moved · nanos) same
  | _ => exact same

namespace Session

/-- What the server answers about its health, with the number of entries. -/
def healthReport (entries : Nat) : Http.Response :=
  ⟨200, some 60, some "application/json", none,
    (Json.Value.record [("status", .text "ok"), ("version", .text Http.version),
      ("cached_handles", .whole entries)]).render⟩

section Steps

variable {p : Provider W} {s : Step} {symbol : Symbol}

/-! ## Steps that ask -/

/-- The period that a text names. -/
def namedPeriod (text : String) : Except Fault Period :=
  (Period.ofText? text).elim (.error (.error (.invalidPeriod text))) .ok

/-- Finding the period of a text asks nothing of the world. -/
theorem period_eq_onWorld (text : String) :
    (period text : Query (Desk W) Period) = Desk.onWorld (Query.ofExcept (namedPeriod text)) := by
  rw [Desk.onWorld_ofExcept, period, namedPeriod]
  cases Period.ofText? text <;> rfl

theorem rawHistory_survey (p : Provider W) (symbol : Symbol) (text : String) :
    Survey p symbol (rawHistory p symbol text) := by
  refine ⟨fun h => do
    let period ← Query.ofExcept (namedPeriod text)
    let frame ← p.history h period
    let bars ← Query.ofExcept frame.bars
    pure (.priceFrame frame bars), ?_, ?_⟩
  · exact (Questioning.ofExcept _).bind fun period => (Questioning.history period).bind
      fun frame => (Questioning.ofExcept _).bind fun bars => .pure _
  · simp only [rawHistory, period_eq_onWorld, ← Desk.onWorld_bind, Desk.onWorld_ofExcept,
      Desk.onWorld_pure]

theorem rawDividends_survey (p : Provider W) (symbol : Symbol) :
    Survey p symbol (rawDividends p symbol) := by
  refine ⟨fun h => do
    let frame ← p.dividends h
    let dividends ← Query.ofExcept frame.dividends
    pure (.dividendFrame frame dividends), ?_, ?_⟩
  · exact Questioning.dividends.bind fun frame => (Questioning.ofExcept _).bind
      fun dividends => .pure _
  · simp only [rawDividends, ← Desk.onWorld_bind, Desk.onWorld_ofExcept, Desk.onWorld_pure]

theorem rawInfo_survey (p : Provider W) (symbol : Symbol) :
    Survey p symbol (rawInfo p symbol) := by
  refine ⟨fun h => do
    let snapshot ← p.info h
    pure (.snapshot snapshot), ?_, ?_⟩
  · exact Questioning.info.bind fun snapshot => .pure _
  · simp only [rawInfo, ← Desk.onWorld_bind, Desk.onWorld_pure]

/-- A request that asks for a fetch reports its outcome. -/
theorem outcome_of_requested? {method target : String} {f : Fetch}
    (requested : requested? method target = some f) :
    ∃ report : Except Fault Fetched → Except Fault Answer,
      ∀ {W : Type} (p : Provider W) (d : Desk W), (step p (.http method target)).outcome d =
        (report ((f.perform p).outcome d).1, ((f.perform p).outcome d).2) := by
  obtain ⟨m, path, known, reads, valid, asked⟩ := requested?_eq_some_iff.1 requested
  cases m with
  | get =>
    refine ⟨fun r => .ok (.response (f.response r)), fun p d => ?_⟩
    rw [Http.request_of_path .get known valid, Http.respond_get_of_fetch? asked]
  | head =>
    refine ⟨fun r => .ok (.response (f.response r).withoutBody), fun p d => ?_⟩
    rw [Http.request_of_path .head known valid, Http.respond_head_of_fetch? asked]
  | other name => cases reads

/-- A step that asks about a symbol acquires a handle and shows it, or reports the outcome of a
survey. -/
theorem survey_of_symbol? (p : Provider W) (asks : s.symbol? = some symbol) :
    s = .acquire symbol ∨
      ∃ (α : Type) (q : Query (Desk W) α) (report : Except Fault α → Except Fault Answer),
        Survey p symbol q ∧ ∀ d, (step p s).outcome d = (report (q.outcome d).1, (q.outcome d).2) := by
  have plain : ∀ q : Query (Desk W) Answer, Survey p symbol q → step p s = q →
      ∃ (α : Type) (q : Query (Desk W) α) (report : Except Fault α → Except Fault Answer),
        Survey p symbol q ∧
          ∀ d, (step p s).outcome d = (report (q.outcome d).1, (q.outcome d).2) := by
    intro q survey same
    exact ⟨Answer, q, id, survey, fun d => by rw [same]; rfl⟩
  cases s with
  | acquire s =>
    cases asks
    exact Or.inl rfl
  | history s text =>
    obtain ⟨period, known, rfl⟩ := Option.map_eq_some_iff.1 asks
    refine Or.inr (plain _ ((Desk.fetchHistory_survey p s period).map Answer.timeline) ?_)
    show Session.period text >>= _ = _
    rw [Session.period, known]
    rfl
  | dividends s =>
    cases asks
    exact Or.inr (plain _ ((Desk.fetchDividends_survey p symbol).map Answer.dividends) rfl)
  | info s =>
    cases asks
    exact Or.inr (plain _ ((Desk.fetchOverview_survey p symbol).map Answer.overview) rfl)
  | rawHistory s text =>
    cases asks
    exact Or.inr (plain _ (rawHistory_survey p symbol text) rfl)
  | rawDividends s =>
    cases asks
    exact Or.inr (plain _ (rawDividends_survey p symbol) rfl)
  | rawInfo s =>
    cases asks
    exact Or.inr (plain _ (rawInfo_survey p symbol) rfl)
  | http method target =>
    obtain ⟨f, requested, rfl⟩ := Option.map_eq_some_iff.1 asks
    obtain ⟨report, reported⟩ := outcome_of_requested? requested
    exact Or.inr ⟨Fetched, f.perform p, report, f.perform_survey p, reported p⟩
  | advance nanos => cases asks
  | purge => cases asks
  | clear => cases asks
  | isEmpty => cases asks
  | lifetime => cases asks

/-- A step that asks about a symbol is an inquiry, or reports the outcome of one. -/
theorem outcome_of_symbol? (p : Provider W) (asks : s.symbol? = some symbol) :
    ∃ (α : Type) (q : Query (Desk W) α) (report : Except Fault α → Except Fault Answer),
      Inquiry p symbol q ∧ ∀ d, (step p s).outcome d = (report (q.outcome d).1, (q.outcome d).2) := by
  rcases survey_of_symbol? p asks with rfl | ⟨α, q, report, survey, reported⟩
  · exact ⟨Answer, _, id, (Inquiry.acquire p symbol).map Answer.handle, fun _ => rfl⟩
  · exact ⟨α, q, report, survey.inquiry, reported⟩

/-! ## Steps that ask nothing -/

/-- The server reports the number of entries. -/
theorem outcome_health {method target : String} (get : Http.Method.ofText? method = some .get)
    (health : Http.Target.path? target.toList = some "/health".toList) (p : Provider W)
    (d : Desk W) :
    (step p (.http method target)).outcome d =
      (.ok (.response (healthReport d.cache.size)), d) := by
  rw [Http.request_of_path .get get health]
  rfl

/-- A request that asks for no fetch has one answer on every desk, or reports its health. -/
theorem outcome_of_not_requested {method target : String}
    (none : requested? method target = none) :
    (∃ a, ∀ {W : Type} (p : Provider W) (d : Desk W),
      (step p (.http method target)).outcome d = (.ok a, d)) ∨
      (Http.Method.ofText? method = some .get ∧
        Http.Target.path? target.toList = some "/health".toList ∧
        ∀ {W : Type} (p : Provider W) (d : Desk W), (step p (.http method target)).outcome d =
          (.ok (.response (healthReport d.cache.size)), d)) := by
  unfold requested? at none
  split at none
  next method' path known valid =>
    cases reads : method'.reads with
    | false =>
      refine Or.inl ⟨.response (Http.refusal method' path), fun p d => ?_⟩
      rw [Http.request_of_path method' known valid, Http.respond_of_not_reads reads]
    | true =>
      rw [reads, if_pos rfl] at none
      rcases Http.health_or_refused_of_fetch? path none with health | ⟨e, refused⟩
      · obtain rfl : path = "/health".toList := by
          have matched := Http.matches_of_ofPath health (by nofun)
          cases matched
          rfl
        cases method' with
        | get =>
          exact Or.inr ⟨known, valid, fun p d => outcome_health known valid p d⟩
        | head =>
          refine Or.inl ⟨.response (healthReport 0).withoutBody, fun p d => ?_⟩
          rw [Http.request_of_path .head known valid]
          rfl
        | other name => cases reads
      · refine Or.inl ⟨.response (Http.refusal method' path), fun p d => ?_⟩
        rw [Http.request_of_path method' known valid, Http.respond_of_refused refused reads]
  next unreadable =>
    refine Or.inl ⟨.malformedRequest, fun p d => ?_⟩
    show (request p method target).outcome d = _
    rw [request]
    split
    next method' path known valid => exact (unreadable method' path known valid).elim
    next => rfl

/-- A move of the clock goes through or breaks down, by the clock alone. -/
theorem outcome_step_advance (p : Provider W) (nanos : Int) (d : Desk W) :
    (step p (.advance nanos)).outcome d =
      (if d.clock.adjustable ∧ d.clock.now.add? nanos = none then .error .abort else .ok .moved,
        { d with clock := d.clock.moved nanos }) := by
  have run := Desk.outcome_advance nanos d
  show (Desk.advance nanos >>= fun _ => pure Answer.moved).outcome d = _
  rw [Clock.moved]
  by_cases adjustable : d.clock.adjustable = true
  · rw [if_pos adjustable] at run ⊢
    cases moved : d.clock.now.add? nanos with
    | none =>
      rw [moved] at run
      rw [Query.outcome_bind_error run, if_pos ⟨adjustable, rfl⟩]
    | some now =>
      rw [moved] at run
      rw [Query.outcome_bind_ok run, if_neg (by simp)]
      rfl
  · rw [if_neg adjustable] at run ⊢
    rw [Query.outcome_bind_ok run, if_neg fun moves => adjustable moves.1]
    rfl

/-- A step that asks about no symbol does upkeep. -/
theorem after_of_no_symbol (p : Provider W) (none : s.symbol? = none) (d : Desk W) :
    ((step p s).outcome d).2 = s.upkeep d := by
  cases s with
  | advance nanos => rw [outcome_step_advance, Step.upkeep]
  | purge => rfl
  | clear => rfl
  | isEmpty => rfl
  | lifetime => rfl
  | history s text =>
    have unknown : Period.ofText? text = Option.none := Option.map_eq_none_iff.1 none
    show ((Session.period text >>= _).outcome d).2 = d
    rw [Session.period, unknown]
    rfl
  | http method target =>
    rcases outcome_of_not_requested (Option.map_eq_none_iff.1 none) with ⟨a, same⟩ | ⟨-, -, report⟩
    · rw [same]
      rfl
    · rw [report]
      rfl
  | acquire s => cases none
  | dividends s => cases none
  | info s => cases none
  | rawHistory s text => cases none
  | rawDividends s => cases none
  | rawInfo s => cases none

/-! ## Clock and cache after a step -/

theorem upkeep_of_symbol? (asks : s.symbol? = some symbol) (d : Desk W) : s.upkeep d = d := by
  cases s <;> first | rfl | cases asks

/-- A step that asks about a symbol leaves the clock and the cache that acquiring a handle for the
symbol leaves. -/
theorem clock_cache_of_symbol? (p : Provider W) (asks : s.symbol? = some symbol) (d : Desk W) :
    (momentOf p s d).after.clock = ((Desk.acquire p symbol).outcome d).2.clock ∧
      (momentOf p s d).after.cache = ((Desk.acquire p symbol).outcome d).2.cache := by
  obtain ⟨α, q, report, inquiry, outcome⟩ := outcome_of_symbol? p asks
  have after : (momentOf p s d).after = (q.outcome d).2 := congrArg Prod.snd (outcome d)
  rw [after]
  exact inquiry.clock_cache d

/-- Only upkeep moves the clock. -/
theorem clock_after (p : Provider W) (s : Step) (d : Desk W) :
    (momentOf p s d).after.clock = (s.upkeep d).clock := by
  cases asked : s.symbol? with
  | none => exact congrArg Desk.clock (after_of_no_symbol p asked d)
  | some symbol =>
    rw [(clock_cache_of_symbol? p asked d).1, upkeep_of_symbol? asked, Desk.acquire_clock]

theorem lifetime_after (p : Provider W) (s : Step) (d : Desk W) :
    (momentOf p s d).after.cache.lifetime = d.cache.lifetime := by
  cases asked : s.symbol? with
  | none =>
    have after : (momentOf p s d).after = s.upkeep d := after_of_no_symbol p asked d
    rw [after, Step.upkeep_lifetime]
  | some symbol =>
    rw [(clock_cache_of_symbol? p asked d).2, Desk.acquire_lifetime]

/-- No step gives a symbol a second entry. -/
theorem keyed_after (p : Provider W) (s : Step) {d : Desk W} (keyed : d.cache.Keyed) :
    (momentOf p s d).after.cache.Keyed := by
  cases asked : s.symbol? with
  | none =>
    have after : (momentOf p s d).after = s.upkeep d := after_of_no_symbol p asked d
    rw [after]
    exact Step.upkeep_keyed s keyed
  | some symbol =>
    rw [(clock_cache_of_symbol? p asked d).2]
    exact Desk.acquire_keyed p symbol keyed

end Steps

end Session

end MarketDesk
