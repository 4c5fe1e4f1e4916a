import MarketDesk.Proofs.Desk.Fetching
import MarketDesk.Proofs.Session.Moments

/-!
# Errors of the provider

A request for data can meet an error of the provider at four places: when a handle is opened, and
in each kind of question through a handle. Its response then depends on the error and not on the
place. Every error but one kind is answered with the one generic failure; an error that says that a
period is invalid is taken for a refusal of the request, although the period was found valid
before the provider was asked. Without errors of that kind nothing of an error reaches a client:
sessions of two providers that differ in their errors alone cannot be told apart.
-/

namespace MarketDesk

open MarketDesk.Http

variable {σ W α β : Type}

/-! ## Where a fetch meets an error -/

/-- A fetch asks the provider for something, and gets an error for it. -/
inductive Fetch.MeetsError (p : Provider W) (d : Desk W) (e : DataError) : Fetch → Prop where
  | opening {f : Fetch} {w : W} : d.cache.fresh? d.now f.symbol = none →
      (p.create f.symbol).outcome d.world = (.error (.error e), w) → MeetsError p d e f
  | prices {s : Symbol} {period : Period} {h : Handle} {d' : Desk W} {w : W} :
      (Desk.acquire p s).outcome d = (.ok h, d') →
      (p.history h period).outcome d'.world = (.error (.error e), w) →
      MeetsError p d e (.history s period)
  /-- The dividends of a history are asked for after its prices. -/
  | payments {s : Symbol} {period : Period} {h : Handle} {d' : Desk W} {prices : Frame} {w w' : W} :
      (Desk.acquire p s).outcome d = (.ok h, d') →
      (p.history h period).outcome d'.world = (.ok prices, w) →
      (p.dividends h).outcome w = (.error (.error e), w') →
      MeetsError p d e (.history s period)
  | dividends {s : Symbol} {h : Handle} {d' : Desk W} {w : W} :
      (Desk.acquire p s).outcome d = (.ok h, d') →
      (p.dividends h).outcome d'.world = (.error (.error e), w) →
      MeetsError p d e (.dividends s)
  | fields {s : Symbol} {h : Handle} {d' : Desk W} {w : W} :
      (Desk.acquire p s).outcome d = (.ok h, d') →
      (p.info h).outcome d'.world = (.error (.error e), w) →
      MeetsError p d e (.overview s)

/-- A fetch that meets an error ends with it. -/
theorem Fetch.MeetsError.outcome {p : Provider W} {d : Desk W} {e : DataError} {f : Fetch}
    (meets : f.MeetsError p d e) : ((f.perform p).outcome d).1 = .error (.error e) := by
  cases meets with
  | opening stale failed =>
    have refused := Desk.acquire_of_not_fresh (p := p) stale
    rw [failed] at refused
    rw [(f.perform_inquiry p).outcome_of_acquire_error refused]
  | prices acquired failed =>
    rw [Fetch.perform, Query.outcome_map, Desk.fetchHistory_of_prices_error acquired failed]
    rfl
  | payments acquired answered failed =>
    rw [Fetch.perform, Query.outcome_map,
      Desk.fetchHistory_of_payments_error acquired answered failed]
    rfl
  | dividends acquired failed =>
    rw [Fetch.perform, Query.outcome_map, Desk.fetchDividends_of_error acquired failed]
    rfl
  | fields acquired failed =>
    rw [Fetch.perform, Query.outcome_map, Desk.fetchOverview_of_error acquired failed]
    rfl

/-! ## The response to an error -/

/-- The response says that something failed, and not what. -/
structure Http.Response.IsGeneric (r : Response) : Prop where
  status : r.status = 500
  body : r.body = "\x7b\"error\":\"An internal error occurred\"\x7d"
  uncached : r.cacheControl = none

theorem Http.internal_isGeneric : Response.internal.IsGeneric := ⟨rfl, internal_body, rfl⟩

/-- The response to an error is generic unless the error is an invalid period. -/
theorem Http.isGeneric_response_iff (e : DataError) :
    (ApiError.data e).response.IsGeneric ↔ ∀ text, e ≠ .invalidPeriod text := by
  cases e with
  | invalidPeriod text =>
    constructor
    · intro generic
      cases generic.status
    · intro other
      exact absurd rfl (other text)
  | _ => exact ⟨fun _ _ => nofun, fun _ => internal_isGeneric⟩

/-! ## Providers that differ in their errors -/

/-- The queries do the same, except that they may fail with different faults, none of which blames
the caller. -/
def Query.SameButFaults (q q' : Query σ α) : Prop :=
  ∀ s, q.outcome s = q'.outcome s ∨ ∃ (f f' : Fault) (t : σ), f.IsBlameless ∧ f'.IsBlameless ∧
    q.outcome s = (.error f, t) ∧ q'.outcome s = (.error f', t)

namespace Query.SameButFaults

variable {q q' : Query σ α}

theorem refl (q : Query σ α) : q.SameButFaults q := fun _ => Or.inl rfl

/-- After a fault on both sides nothing more is done; after one answer, the rest is compared. -/
theorem bind (first : q.SameButFaults q') {k k' : α → Query σ β}
    (rest : ∀ a, (k a).SameButFaults (k' a)) : (q >>= k).SameButFaults (q' >>= k') := by
  intro s
  rcases first s with same | ⟨f, f', t, blameless, blameless', failed, failed'⟩
  · rw [outcome_bind, outcome_bind, same]
    cases q'.outcome s with
    | mk r t =>
      cases r with
      | error f => exact Or.inl rfl
      | ok a => exact rest a t
  · rw [outcome_bind_error failed, outcome_bind_error failed']
    exact Or.inr ⟨f, f', t, blameless, blameless', rfl, rfl⟩

theorem map (g : α → β) (same : q.SameButFaults q') : (g <$> q).SameButFaults (g <$> q') := by
  rw [map_eq_pure_bind, map_eq_pure_bind]
  exact same.bind fun a => refl _

theorem onWorld {q q' : Query W α} (same : q.SameButFaults q') :
    (Desk.onWorld q).SameButFaults (Desk.onWorld q') := by
  intro d
  rcases same d.world with same | ⟨f, f', w, blameless, blameless', failed, failed'⟩
  · rw [Desk.outcome_onWorld, Desk.outcome_onWorld, same]
    exact Or.inl rfl
  · rw [Desk.onWorld_of_outcome failed, Desk.onWorld_of_outcome failed']
    exact Or.inr ⟨f, f', _, blameless, blameless', rfl, rfl⟩

end Query.SameButFaults

/-- The providers answer alike and do the same, but may fail with different faults, none of which
blames the caller. -/
structure Provider.SameButFaults (p p' : Provider W) : Prop where
  create : ∀ s, (p.create s).SameButFaults (p'.create s)
  history : ∀ h period, (p.history h period).SameButFaults (p'.history h period)
  dividends : ∀ h, (p.dividends h).SameButFaults (p'.dividends h)
  info : ∀ h, (p.info h).SameButFaults (p'.info h)

namespace Provider.SameButFaults

variable {p p' : Provider W}

theorem acquire (same : p.SameButFaults p') (s : Symbol) :
    (Desk.acquire p s).SameButFaults (Desk.acquire p' s) := by
  refine (Query.SameButFaults.refl get).bind fun d => ?_
  cases d.cache.fresh? d.now s with
  | some h => exact .refl _
  | none => exact (same.create s).onWorld.bind fun h => .refl _

theorem perform (same : p.SameButFaults p') (f : Fetch) :
    (f.perform p).SameButFaults (f.perform p') := by
  cases f with
  | history s period =>
    exact .map _ ((same.acquire s).bind fun h => (same.history h period).onWorld.bind fun _ =>
      (same.dividends h).onWorld.bind fun _ => .refl _)
  | dividends s =>
    exact .map _ ((same.acquire s).bind fun h => (same.dividends h).onWorld.bind fun _ => .refl _)
  | overview s =>
    exact .map _ ((same.acquire s).bind fun h => (same.info h).onWorld.bind fun _ => .refl _)

/-- A fetch is answered alike, and leaves the same desk. -/
theorem response (same : p.SameButFaults p') (f : Fetch) (d : Desk W) :
    f.response ((f.perform p).outcome d).1 = f.response ((f.perform p').outcome d).1 ∧
      ((f.perform p).outcome d).2 = ((f.perform p').outcome d).2 := by
  rcases same.perform f d with same | ⟨e, e', d', blameless, blameless', failed, failed'⟩
  · rw [same]
    exact ⟨rfl, rfl⟩
  · rw [failed, failed', response_error, response_error, ofFault_of_isBlameless blameless,
      ofFault_of_isBlameless blameless']
    exact ⟨rfl, rfl⟩

/-- Every request is answered alike, and leaves the same desk. -/
theorem request (same : p.SameButFaults p') (method target : String) (d : Desk W) :
    (Session.step p (.http method target)).outcome d =
      (Session.step p' (.http method target)).outcome d := by
  cases requested : Session.requested? method target with
  | none =>
    rcases Session.outcome_of_not_requested requested with ⟨a, answered⟩ | ⟨-, -, answered⟩
    · rw [answered, answered]
    · rw [answered, answered]
  | some f =>
    obtain ⟨answer, after⟩ := same.response f d
    obtain ⟨m, path, known, reads, valid, asked⟩ := Session.requested?_eq_some_iff.1 requested
    rw [request_of_path m known valid, request_of_path m known valid]
    cases m with
    | get => rw [respond_get_of_fetch? asked, respond_get_of_fetch? asked, answer, after]
    | head => rw [respond_head_of_fetch? asked, respond_head_of_fetch? asked, answer, after]
    | other name => cases reads

end Provider.SameButFaults

/-- What a client of the server can do, or the passing of time, or upkeep. -/
def Step.isServed : Step → Bool
  | .http _ _ | .advance _ | .purge | .clear | .isEmpty | .lifetime => true
  | _ => false

theorem Provider.SameButFaults.run {p p' : Provider W} (same : p.SameButFaults p')
    {steps : List Step} (served : ∀ s ∈ steps, s.isServed = true) (d : Desk W) :
    Session.run p steps d = Session.run p' steps d := by
  induction steps generalizing d with
  | nil => rfl
  | cons s steps ih =>
    have step : (Session.step p s).outcome d = (Session.step p' s).outcome d := by
      have first := served s List.mem_cons_self
      cases s with
      | http method target => exact same.request method target d
      | advance _ | purge | clear | isEmpty | lifetime => rfl
      | _ => cases first
    rw [Session.run, Session.run, step, ih fun s mem => served s (List.mem_cons_of_mem _ mem)]

/-- **Errors of the provider are generic failures, invalid periods apart.** A `GET` that meets an
error of the provider gets the generic failure just if the error is no invalid period, and
otherwise it is refused with the text of the error. A provider that differs in other errors alone
cannot be told apart by any sequence of requests. -/
theorem provider_errors_are_generic_iff {W : Type} (p : Provider W) :
    (∀ (d : Desk W) (target : String) (path : List Char) (f : Fetch) (e : DataError),
      Target.path? target.toList = some path → Asks path f → f.MeetsError p d e →
      ∃ r d', (Session.step p (.http "GET" target)).outcome d = (.ok (.response r), d') ∧
        (r.IsGeneric ↔ ∀ text, e ≠ .invalidPeriod text) ∧
        ∀ text, e = .invalidPeriod text → r = .failure 400 ("Invalid period: " ++ text)) ∧
    ∀ p' : Provider W, p.SameButFaults p' → ∀ steps : List Step,
      (∀ s ∈ steps, s.isServed = true) → ∀ d : Desk W,
        Session.run p steps d = Session.run p' steps d := by
  refine ⟨?_, fun p' same steps served d => same.run served d⟩
  intro d target path f e valid asks meets
  have served := (serves_of_fetch? (p := p) (d := d) valid asks.fetch?_eq).get
  rw [meets.outcome, response_error] at served
  refine ⟨_, _, served, isGeneric_response_iff e, ?_⟩
  rintro text rfl
  rfl

/-- Providers that open no handle differ in their errors alone. -/
theorem Canned.refusing_sameButFaults {e e' : DataError} (blameless : e.IsBlameless)
    (blameless' : e'.IsBlameless) :
    (refusing e).provider.SameButFaults (refusing e').provider where
  create _ t := Or.inr ⟨.error e, .error e', t, blameless, blameless', rfl, rfl⟩
  history _ _ _ := Or.inr ⟨.error e, .error e', _, blameless, blameless', rfl, rfl⟩
  dividends _ _ := Or.inr ⟨.error e, .error e', _, blameless, blameless', rfl, rfl⟩
  info _ _ := Or.inr ⟨.error e, .error e', _, blameless, blameless', rfl, rfl⟩

/-- A provider that has prices but gets no dividends in time. -/
def latePayments : Provider Tally :=
  (Canned.uniform ⟨fun _ => .ok (Frame.ofBars []), .error (.timeout "late"), .ok []⟩).provider

/-- Two requests, and a pause between them. -/
def twoRequests : List Step :=
  [.http "GET" "/info/AAPL", .advance 5, .http "HEAD" "/history/AAPL/1d"]

/-- A history whose dividends fail, and two providers that refuse every handle. -/
theorem provider_errors_are_generic_iff_late :
    (∃ r d', (Session.step latePayments (.http "GET" "/history/AAPL/1d")).outcome
        Canned.freshDesk = (.ok (.response r), d') ∧ r.IsGeneric) ∧
      Session.run (Canned.refusing (.network "down")).provider twoRequests Canned.freshDesk =
        Session.run (Canned.refusing (.other "lost")).provider twoRequests Canned.freshDesk := by
  constructor
  · have asks : Asks "/history/AAPL/1d".toList (.history ⟨"AAPL"⟩ .oneDay) :=
      .history (x := "AAPL".toList) (y := "1d".toList) (by decide) (by decide) (by decide)
        (by decide)
    have meets : Fetch.MeetsError latePayments Canned.freshDesk (.timeout "late")
        (.history ⟨"AAPL"⟩ .oneDay) := .payments rfl rfl rfl
    obtain ⟨r, d', served, generic, -⟩ := (provider_errors_are_generic_iff latePayments).1
      Canned.freshDesk "/history/AAPL/1d" "/history/AAPL/1d".toList _ _ (by decide) asks meets
    exact ⟨r, d', served, generic.2 nofun⟩
  · have same : (Canned.refusing (.network "down")).provider.SameButFaults
        (Canned.refusing (.other "lost")).provider := Canned.refusing_sameButFaults rfl rfl
    exact (provider_errors_are_generic_iff _).2 _ same _ (by decide) _

/-- An error that names an invalid period reaches a client that asked for no period. -/
theorem invalid_period_reaches_client :
    Fetch.MeetsError (Canned.refusing (.invalidPeriod "secret")).provider Canned.freshDesk
        (.invalidPeriod "secret") (.overview ⟨"AAPL"⟩) ∧
      ∃ r d', (Session.step (Canned.refusing (.invalidPeriod "secret")).provider
          (.http "GET" "/info/AAPL")).outcome Canned.freshDesk = (.ok (.response r), d') ∧
        r.status = 400 ∧ r.body = "\x7b\"error\":\"Invalid period: secret\"\x7d" ∧
        ¬ r.IsGeneric := by
  refine ⟨.opening rfl rfl, _, _, rfl, rfl, by decide +kernel, ?_⟩
  intro generic
  cases generic.status

end MarketDesk
