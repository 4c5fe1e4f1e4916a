import MarketDesk.Proofs.Desk.Fetching
import MarketDesk.Proofs.Session.Deeds
import MarketDesk.Proofs.Session.Observing

/-!
# What a fetch leaves behind

A fetch can end in many places: with its data, with an error of one of its questions, with a frame
that cannot be read, or with a breakdown while a frame is read. In each case clock and cache are
those after one handle has been acquired, because nothing after that touches them. `AsAcquire` says
this, and what follows: the handle stays stored with its time, and is acquired again while it is
fresh; and a fetch that gets no handle asks nothing.

Questions are observed from outside, as openings are: `questioned` writes down each handle that is
asked through.
-/

namespace MarketDesk

open MarketDesk.Calendar
open MarketDesk.CacheLog (Recorded recorded)

variable {W α : Type}

/-- A world with the handles that were asked through, in order. -/
structure Questioned (W : Type) where
  world : W
  questions : List Handle

/-- Asks through a handle and writes that down. -/
def Questioned.ask (h : Handle) (q : Query W α) : Query (Questioned W) α := fun r =>
  let o := q.outcome r.world
  (o.1, ⟨o.2, r.questions ++ [h]⟩)

/-- The provider with a record of the handles that are asked through. -/
def questioned (p : Provider W) : Provider (Questioned W) where
  create s := (p.create s).onPart Questioned.world fun world r => { r with world }
  history h period := Questioned.ask h (p.history h period)
  dividends h := Questioned.ask h (p.dividends h)
  info h := Questioned.ask h (p.info h)

/-- A record of questions changes nothing. -/
theorem questioned_mirrors (p : Provider W) : (questioned p).Mirrors Questioned.world p where
  create _ _ := rfl
  history _ _ _ := rfl
  dividends _ _ := rfl
  info _ _ := rfl

/-- An opening that fails leaves the world as it is. -/
def Provider.FailsCleanly (p : Provider W) : Prop :=
  ∀ s w f, ((p.create s).outcome w).1 = .error f → ((p.create s).outcome w).2 = w

theorem Canned.provider_failsCleanly (c : Canned) : c.provider.FailsCleanly := by
  intro s w f failed
  cases known : c.script s with
  | error f' => rw [create_of_error known]
  | ok script =>
    rw [create_of_ok known] at failed
    cases failed

theorem Yahoo.provider_failsCleanly (e : Endpoints) : (provider e).FailsCleanly := by
  intro s w f failed
  cases failed

/-- What is left of a desk is what one acquiring of a handle for the symbol leaves. -/
structure AsAcquire (p : Provider W) (s : Symbol) (d after : Desk (Recorded (Questioned W))) :
    Prop where
  clock : after.clock = d.clock
  cache : after.cache = ((Desk.acquire (recorded (questioned p)) s).outcome d).2.cache
  openings : after.world.openings =
    ((Desk.acquire (recorded (questioned p)) s).outcome d).2.world.openings
  /-- The handle is stored with the time that it had, or the present time if it is new, and is
  acquired again whatever time it is, while it is fresh. -/
  kept : ∀ h d', (Desk.acquire (recorded (questioned p)) s).outcome d = (.ok h, d') →
    ∃ e, after.cache.find? s = some e ∧ e.handle = h ∧
      (d.cache.find? s = some e ∨ e.created = d.now) ∧
      ∀ clock : Clock, clock.now.since e.created < d.cache.lifetime.nanos →
        (Desk.acquire (recorded (questioned p)) s).outcome { after with clock } =
          (.ok h, { after with clock })
  /-- Without a handle nothing is asked, and there is only what the failed opening left. -/
  unasked : ∀ f d', (Desk.acquire (recorded (questioned p)) s).outcome d = (.error f, d') →
    after.cache = d.cache ∧ after.world.openings = d.world.openings ++ [(s, .error f)] ∧
      after.world.world.questions = d.world.world.questions ∧
      after.world.world.world = ((p.create s).outcome d.world.world.world).2 ∧
      (p.FailsCleanly → after.world.world.world = d.world.world.world)

section Desks

variable {p : Provider W} {s : Symbol} {d : Desk (Recorded (Questioned W))}

/-- An inquiry leaves what acquiring leaves, however it ends. -/
theorem Inquiry.asAcquire {q : Query (Desk (Recorded (Questioned W))) α}
    (inquiry : Inquiry (recorded (questioned p)) s q)
    (d : Desk (Recorded (Questioned W))) : AsAcquire p s d (q.outcome d).2 where
  clock := by rw [(inquiry.clock_cache d).1, Desk.acquire_clock]
  cache := (inquiry.clock_cache d).2
  openings := inquiry.openings d
  kept h d' acquired := by
    have cache := (inquiry.clock_cache d).2
    have lifetime := Desk.acquire_lifetime (recorded (questioned p)) s d
    rw [acquired] at cache lifetime
    obtain ⟨e, stored, rfl, age⟩ := Desk.entry_of_acquire acquired
    refine ⟨e, by rw [cache, stored], rfl, ?_, fun clock young => ?_⟩
    · rcases age with ⟨rfl, -⟩ | created
      · exact Or.inl stored
      · exact Or.inr created
    · apply Desk.acquire_of_entry
      · show (q.outcome d).2.cache.find? s = some e
        rw [cache, stored]
      · show e.isFresh clock.now (q.outcome d).2.cache.lifetime = true
        rw [cache, lifetime]
        exact Entry.isFresh_iff.2 young
  unasked f d' acquired := by
    rw [inquiry.outcome_of_acquire_error acquired]
    cases fresh : d.cache.fresh? d.now s with
    | some h =>
      rw [Desk.acquire_of_fresh fresh] at acquired
      cases acquired
    | none =>
      rw [Desk.acquire_of_not_fresh fresh, CacheLog.recorded_create] at acquired
      have opening : ((questioned p).create s).outcome d.world.world =
          (((p.create s).outcome d.world.world.world).1,
            { d.world.world with world := ((p.create s).outcome d.world.world.world).2 }) := rfl
      rw [opening] at acquired
      cases failed : ((p.create s).outcome d.world.world.world).1 with
      | ok h =>
        rw [failed] at acquired
        cases acquired
      | error f' =>
        rw [failed] at acquired
        cases acquired
        exact ⟨rfl, rfl, rfl, rfl, fun clean => clean s _ _ failed⟩

end Desks

/-- **A fetch leaves what acquiring leaves.** On every desk, with every provider, a fetch leaves
clock, cache and openings as one acquiring of a handle for its symbol does, however it ends; if no
handle is acquired, the fetch ends with that fault. A request that asks for the fetch leaves the
same desk. -/
theorem fetches_act_as_acquire (p : Provider W) (f : Fetch) (d : Desk (Recorded (Questioned W))) :
    AsAcquire p f.symbol d ((f.perform (recorded (questioned p))).outcome d).2 ∧
      (∀ fault d', (Desk.acquire (recorded (questioned p)) f.symbol).outcome d = (.error fault, d') →
        (f.perform (recorded (questioned p))).outcome d = (.error fault, d')) ∧
      ∀ (text target : String) (method : Http.Method) (path : List Char),
        Http.Method.ofText? text = some method → method.reads = true →
        Http.Target.path? target.toList = some path → Http.Asks path f →
        ((Session.step (recorded (questioned p)) (.http text target)).outcome d).2 =
          ((f.perform (recorded (questioned p))).outcome d).2 := by
  have inquiry := f.perform_inquiry (recorded (questioned p))
  refine ⟨inquiry.asAcquire d, fun fault d' => inquiry.outcome_of_acquire_error, ?_⟩
  intro text target method path known reads valid asks
  have requested : Session.requested? text target = some f := by
    rw [Session.requested?, known, valid]
    exact (if_pos reads).trans asks.fetch?_eq
  obtain ⟨report, outcome⟩ := Session.outcome_of_requested? requested
  rw [outcome]

/-- A price frame with one day beyond the calendar. -/
def beyondCalendar : Frame where
  height := 1
  columns := [⟨"date", .date [some 2147483647]⟩]
  level := by decide
  distinct := by decide

/-- A provider whose prices cannot be read, as a day of them is beyond the calendar. -/
def unreadable : Provider Tally :=
  (Canned.uniform ⟨fun _ => .ok beyondCalendar, .ok .empty, .error (.other "down")⟩).provider

/-- A history breaks down while its prices are read, through the server too, and the handle that
was opened for it is acquired again. -/
theorem fetches_act_as_acquire_breakdown :
    let p := recorded (questioned unreadable)
    let d := Session.fresh ⟨.epoch, true⟩ (.ofParts 300 0) ⟨⟨⟨0, 0⟩, []⟩, []⟩
    let fetched := ((Fetch.history ⟨"A"⟩ .oneDay).perform p).outcome d
    fetched.1 = .error .abort ∧ AsAcquire unreadable ⟨"A"⟩ d fetched.2 ∧
      (Desk.acquire p ⟨"A"⟩).outcome fetched.2 = (.ok ⟨0, ⟨"A"⟩⟩, fetched.2) ∧
      Http.Asks "/history/A/1d".toList (.history ⟨"A"⟩ .oneDay) ∧
      ((Session.step p (.http "GET" "/history/A/1d")).outcome d).2 = fetched.2 := by
  intro p d fetched
  have act := fetches_act_as_acquire unreadable (.history ⟨"A"⟩ .oneDay) d
  have asks : Http.Asks "/history/A/1d".toList (.history ⟨"A"⟩ .oneDay) :=
    @Http.Asks.history ['A'] ['1', 'd'] "A" .oneDay (by decide) (by decide) (by decide) (by decide)
  exact ⟨rfl, act.1, rfl, asks, act.2.2 "GET" "/history/A/1d" .get _ rfl rfl (by decide) asks⟩

end MarketDesk
