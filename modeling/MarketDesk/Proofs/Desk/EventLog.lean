import MarketDesk.Proofs.Desk.Acquire
import MarketDesk.Proofs.Log
import MarketDesk.Session

/-!
# The cache as a log of events

The cache of a desk against a log that knows no entries: the log lists the openings that
succeeded, the purges with their times, and the clearings. It keeps the last handle opened for a
symbol until the cache is cleared, or purged when the handle had expired. `Demands` says what the
log of the earlier events demands of a step, and `run_follows_log` that every step of every run
does that.

Openings are observed from outside: `recorded` writes down every opening that it is asked
for, with its outcome.
-/

namespace MarketDesk.CacheLog

open MarketDesk.Calendar

/-- A world with the openings that its provider has been asked for, in order. -/
structure Recorded (W : Type) where
  world : W
  openings : List (Symbol × Except Fault Handle)

/-- The provider with a record of its openings. -/
def recorded {W : Type} (p : Provider W) : Provider (Recorded W) where
  create symbol := fun r =>
    let o := (p.create symbol).outcome r.world
    (o.1, ⟨o.2, r.openings ++ [(symbol, o.1)]⟩)
  history handle period :=
    (p.history handle period).onPart Recorded.world fun world r => { r with world }
  dividends handle := (p.dividends handle).onPart Recorded.world fun world r => { r with world }
  info handle := (p.info handle).onPart Recorded.world fun world r => { r with world }

@[simp] theorem recorded_create {W : Type} (p : Provider W) (s : Symbol)
    (r : Recorded W) :
    ((recorded p).create s).outcome r =
      (((p.create s).outcome r.world).1,
        ⟨((p.create s).outcome r.world).2,
          r.openings ++ [(s, ((p.create s).outcome r.world).1)]⟩) :=
  rfl

/-- A step on the cache of a desk. -/
inductive Step where
  | acquire (symbol : Symbol)
  | advance (nanos : Int)
  | purge
  | clear
  | size
  | isEmpty
  deriving DecidableEq, Repr

/-- What a step on the cache answers. -/
inductive Answer where
  | handle (h : Handle)
  | moved
  | removed (count : Nat)
  | cleared
  | size (count : Nat)
  | empty (b : Bool)
  deriving DecidableEq, Repr

/-- Carries out a step on the cache. -/
def Step.perform {W : Type} (p : Provider W) : Step → Query (Desk W) Answer
  | .acquire symbol => return .handle (← Desk.acquire p symbol)
  | .advance nanos => do Desk.advance nanos; pure .moved
  | .purge => return .removed (← Desk.purge)
  | .clear => do Desk.clear; pure .cleared
  | .size => return .size (← get).cache.size
  | .isEmpty => return .empty ((← get).cache.size == 0)

/-- A step of a run, with the desk before and after it. -/
structure Moment (W : Type) where
  step : Step
  before : Desk W
  outcome : Except Fault Answer
  after : Desk W

/-- The moments of a run. -/
def moments {W : Type} (p : Provider W) : List Step → Desk W → List (Moment W)
  | [], _ => []
  | s :: steps, d =>
    let r := (s.perform p).outcome d
    ⟨s, d, r.1, r.2⟩ :: moments p steps r.2

/-- What a log remembers. -/
inductive Event where
  | opened (symbol : Symbol) (handle : Handle) (time : Instant)
  | purged (time : Instant)
  | cleared
  deriving DecidableEq, Repr

/-- The event of an opening, if it succeeded. -/
def openedAt (time : Instant) (o : Symbol × Except Fault Handle) : Option Event :=
  o.2.toOption.map fun handle => .opened o.1 handle time

namespace Moment

variable {W : Type}

/-- The openings that the provider was asked for in a moment. -/
def openings (m : Moment (Recorded W)) : List (Symbol × Except Fault Handle) :=
  m.after.world.openings.drop m.before.world.openings.length

/-- The event of a step other than an opening. -/
def swept (m : Moment (Recorded W)) : List Event :=
  match m.step with
  | .purge => [.purged m.before.now]
  | .clear => [.cleared]
  | _ => []

/-- What a moment adds to the log. -/
def events (m : Moment (Recorded W)) : List Event :=
  m.openings.filterMap (openedAt m.before.now) ++ m.swept

end Moment

/-- The log keeps a handle that was opened for a symbol at a time: it is the last one opened for
the symbol, and since then nothing was cleared, and nothing purged when it had expired. -/
def Kept (ttl : Nat) (log : List Event) (s : Symbol) (h : Handle) (opening : Instant) : Prop :=
  ∃ earlier since, log = earlier ++ .opened s h opening :: since ∧
    (∀ h' t, .opened s h' t ∉ since) ∧ .cleared ∉ since ∧
    ∀ t, .purged t ∈ since → t.since opening < (ttl : Int)

/-- The log serves a handle for a symbol: it keeps one whose age is below the lifetime. -/
def Serves (ttl : Nat) (log : List Event) (now : Instant) (s : Symbol) (h : Handle) : Prop :=
  ∃ opening, Kept ttl log s h opening ∧ now.since opening < (ttl : Int)

/-- The symbols for which the log keeps a handle, each once. -/
def ListsKept (ttl : Nat) (log : List Event) (symbols : List Symbol) : Prop :=
  symbols.Nodup ∧ ∀ s, s ∈ symbols ↔ ∃ h t, Kept ttl log s h t

section Demands

variable {W : Type}

/-- What the log demands of acquiring a handle. -/
structure Acquires (p : Provider W) (ttl : Nat) (log : List Event) (s : Symbol)
    (m : Moment (Recorded W)) : Prop where
  /-- Nothing is opened just if the log serves a handle. -/
  unopened : m.openings = [] ↔ ∃ h, Serves ttl log m.before.now s h
  /-- A handle that the log serves is the answer, and nothing changes. -/
  served : ∀ h, Serves ttl log m.before.now s h →
    m.outcome = .ok (.handle h) ∧ m.after = m.before
  /-- Otherwise there is one opening, of that symbol, and its outcome is the answer. -/
  opened : (¬ ∃ h, Serves ttl log m.before.now s h) →
    m.openings = [(s, ((p.create s).outcome m.before.world.world).1)] ∧
    m.outcome = ((p.create s).outcome m.before.world.world).1.map .handle ∧
    m.after.world.world = ((p.create s).outcome m.before.world.world).2
  /-- A new handle takes the place of an earlier one for its symbol, and no other entry changes. -/
  replaced : ∀ h, m.openings = [(s, .ok h)] → ∀ k e, (k, e) ∈ m.after.cache.entries ↔
    (k = s ∧ e = ⟨h, m.before.now⟩) ∨ (k ≠ s ∧ (k, e) ∈ m.before.cache.entries)
  /-- If the opening fails or aborts, the entries stay as they are. -/
  failed : ∀ f, m.outcome = .error f → m.after.cache = m.before.cache
  /-- The clock stays as it is. -/
  still : m.after.clock = m.before.clock

/-- A move of the clock goes through just if the new time is representable, and only on an
adjustable clock. -/
def Moves (nanos : Int) (m : Moment (Recorded W)) : Prop :=
  if m.before.clock.adjustable then
    match m.before.now.add? nanos with
    | some t => m.outcome = .ok .moved ∧ m.after = { m.before with clock := ⟨t, true⟩ }
    | none => m.outcome = .error .abort ∧ m.after = m.before
  else m.outcome = .ok .moved ∧ m.after = m.before

/-- A purge removes exactly the entries whose age has reached the lifetime, and counts them. -/
structure Purges (ttl : Nat) (m : Moment (Recorded W)) : Prop where
  entries : m.after.cache.entries =
    m.before.cache.entries.filter fun e => !decide ((ttl : Int) ≤ m.before.now.since e.2.created)
  outcome : m.outcome = .ok (.removed (m.before.cache.entries.countP fun e =>
    decide ((ttl : Int) ≤ m.before.now.since e.2.created)))
  rest : m.after.clock = m.before.clock ∧ m.after.world = m.before.world

/-- What the log of the earlier events demands of a moment. -/
def Demands (p : Provider W) (ttl : Nat) (log : List Event) (m : Moment (Recorded W)) : Prop :=
  match m.step with
  | .acquire s => Acquires p ttl log s m
  | .advance nanos => Moves nanos m
  | .purge => Purges ttl m
  | .clear =>
    m.outcome = .ok .cleared ∧ m.after = { m.before with cache := ⟨m.before.cache.lifetime, []⟩ }
  | .size => m.after = m.before ∧
    ∃ symbols, ListsKept ttl log symbols ∧ m.outcome = .ok (.size symbols.length)
  | .isEmpty => m.after = m.before ∧
    ∃ symbols, ListsKept ttl log symbols ∧ m.outcome = .ok (.empty symbols.isEmpty)

/-- The entries are what the log keeps, one for a symbol, and every moment does what the log of
the moments before it demands. -/
def Follows (p : Provider W) (ttl : Nat) : List Event → List (Moment (Recorded W)) → Prop
  | _, [] => True
  | log, m :: later =>
    m.before.cache.Keyed ∧
    (∀ s h t, (s, ⟨h, t⟩) ∈ m.before.cache.entries ↔ Kept ttl log s h t) ∧
    Demands p ttl log m ∧ Follows p ttl (log ++ m.events) later

end Demands

/-! ## What one more event does to the log -/

section Kept

variable {ttl : Nat} {log : List Event} {s k : Symbol} {h h' : Handle} {t now : Instant}

theorem not_kept_nil : ¬ Kept ttl [] s h t := by
  rintro ⟨earlier, since, split, -⟩
  simp at split

theorem kept_concat_opened :
    Kept ttl (log ++ [.opened s h now]) k h' t ↔
      (k = s ∧ h' = h ∧ t = now) ∨ (k ≠ s ∧ Kept ttl log k h' t) := by
  constructor
  · rintro ⟨earlier, since, split, last, uncleared, unpurged⟩
    rcases concat_eq_split_iff.1 split with ⟨-, same, -⟩ | ⟨since', rfl, rfl⟩
    · obtain ⟨rfl, rfl, rfl⟩ := Event.opened.inj same
      exact Or.inl ⟨rfl, rfl, rfl⟩
    · refine Or.inr ⟨?_, earlier, since', rfl, ?_, ?_, ?_⟩
      · rintro rfl
        exact last h now (by simp)
      · exact fun h' t mem => last h' t (List.mem_append_left _ mem)
      · exact fun mem => uncleared (List.mem_append_left _ mem)
      · exact fun t mem => unpurged t (List.mem_append_left _ mem)
  · rintro (⟨rfl, rfl, rfl⟩ | ⟨other, earlier, since, rfl, last, uncleared, unpurged⟩)
    · exact ⟨log, [], rfl, by simp, by simp, by simp⟩
    · refine ⟨earlier, since ++ [.opened s h now], by simp, ?_, by simpa using uncleared,
        by simpa using unpurged⟩
      intro h' t mem
      rcases List.mem_append.1 mem with mem | mem
      · exact last h' t mem
      · simp only [List.mem_singleton, Event.opened.injEq] at mem
        exact other mem.1

theorem kept_concat_purged :
    Kept ttl (log ++ [.purged now]) s h t ↔ Kept ttl log s h t ∧ now.since t < (ttl : Int) := by
  constructor
  · rintro ⟨earlier, since, split, last, uncleared, unpurged⟩
    rcases concat_eq_split_iff.1 split with ⟨-, same, -⟩ | ⟨since', rfl, rfl⟩
    · cases same
    · refine ⟨⟨earlier, since', rfl, ?_, ?_, ?_⟩, unpurged now (by simp)⟩
      · exact fun h' t mem => last h' t (List.mem_append_left _ mem)
      · exact fun mem => uncleared (List.mem_append_left _ mem)
      · exact fun t mem => unpurged t (List.mem_append_left _ mem)
  · rintro ⟨⟨earlier, since, rfl, last, uncleared, unpurged⟩, young⟩
    refine ⟨earlier, since ++ [.purged now], by simp, by simpa using last,
      by simpa using uncleared, ?_⟩
    intro t' mem
    rcases List.mem_append.1 mem with mem | mem
    · exact unpurged t' mem
    · simp only [List.mem_singleton, Event.purged.injEq] at mem
      exact mem ▸ young

theorem not_kept_concat_cleared : ¬ Kept ttl (log ++ [.cleared]) s h t := by
  rintro ⟨earlier, since, split, -, uncleared, -⟩
  rcases concat_eq_split_iff.1 split with ⟨-, same, -⟩ | ⟨since', rfl, -⟩
  · cases same
  · exact uncleared (by simp)

end Kept

/-! ## Runs -/

section Runs

variable {W : Type} {p : Provider W} {seconds nanos : Nat} {log : List Event}
  {d : Desk (Recorded W)} {s : Symbol} {h : Handle}

/-- The entries of the cache are those that the log keeps. -/
structure Reflects (seconds nanos : Nat) (log : List Event) (d : Desk (Recorded W)) : Prop where
  lifetime : d.cache.lifetime = Lifetime.ofParts seconds nanos
  keyed : d.cache.Keyed
  stored : ∀ s h t, (s, ⟨h, t⟩) ∈ d.cache.entries ↔
    Kept (seconds * 1000000000 + nanos) log s h t

theorem Reflects.young_iff (r : Reflects seconds nanos log d) (now t : Instant) :
    now.since t < d.cache.lifetime.nanos ↔
      now.since t < ((seconds * 1000000000 + nanos : Nat) : Int) := by
  rw [r.lifetime]
  exact Lifetime.since_lt_ofParts_iff now t seconds nanos

/-- The cache serves what the log serves. -/
theorem Reflects.fresh?_eq_some_iff (r : Reflects seconds nanos log d) :
    d.cache.fresh? d.now s = some h ↔
      Serves (seconds * 1000000000 + nanos) log d.now s h := by
  rw [Cache.fresh?_eq_some_iff r.keyed]
  simp only [Serves, r.stored, r.young_iff]

theorem Reflects.fresh?_eq_none_iff (r : Reflects seconds nanos log d) :
    d.cache.fresh? d.now s = none ↔
      ¬ ∃ h, Serves (seconds * 1000000000 + nanos) log d.now s h := by
  simp only [← r.fresh?_eq_some_iff, Option.eq_none_iff_forall_not_mem, Option.mem_def, not_exists]

/-- The symbols of the entries are those for which the log keeps a handle. -/
theorem Reflects.listsKept (r : Reflects seconds nanos log d) :
    ListsKept (seconds * 1000000000 + nanos) log (d.cache.entries.map Prod.fst) := by
  refine ⟨r.keyed, fun s => ?_⟩
  simp only [← r.stored, List.mem_map]
  constructor
  · rintro ⟨⟨s, h, t⟩, stored, rfl⟩
    exact ⟨h, t, stored⟩
  · rintro ⟨h, t, stored⟩
    exact ⟨_, stored, rfl⟩

/-- The moment in which a step is carried out on a desk. -/
def momentOf (p : Provider W) (step : Step) (d : Desk (Recorded W)) : Moment (Recorded W) :=
  ⟨step, d, ((step.perform (recorded p)).outcome d).1, ((step.perform (recorded p)).outcome d).2⟩

@[simp] theorem momentOf_before (step : Step) : (momentOf p step d).before = d := rfl

theorem openings_eq_nil {m : Moment (Recorded W)} (h : m.after.world = m.before.world) :
    m.openings = [] := by
  simp [Moment.openings, h]

/-- Acquiring a handle that the log serves changes nothing. -/
theorem momentOf_acquire_of_serves (r : Reflects seconds nanos log d)
    (serves : Serves (seconds * 1000000000 + nanos) log d.now s h) :
    momentOf p (.acquire s) d = ⟨.acquire s, d, .ok (.handle h), d⟩ := by
  have fresh := r.fresh?_eq_some_iff.2 serves
  simp only [momentOf, Step.perform, Query.outcome_bind, Desk.acquire_of_fresh fresh,
    Query.outcome_pure]

/-- Acquiring any other handle is one opening. -/
theorem momentOf_acquire_of_not_serves (r : Reflects seconds nanos log d)
    (unserved : ¬ ∃ h, Serves (seconds * 1000000000 + nanos) log d.now s h) :
    (momentOf p (.acquire s) d).outcome = ((p.create s).outcome d.world.world).1.map .handle ∧
      (momentOf p (.acquire s) d).after =
        d.opened s (((recorded p).create s).outcome d.world) := by
  have stale := r.fresh?_eq_none_iff.2 unserved
  simp only [momentOf, Step.perform, Query.outcome_bind, Desk.acquire_of_not_fresh stale,
    recorded_create]
  cases ((p.create s).outcome d.world.world).1 <;> exact ⟨rfl, rfl⟩

/-- An opening that succeeds stores its handle, and the log lists it. -/
theorem Reflects.opened_ok (r : Reflects seconds nanos log d) (world : Recorded W) :
    Reflects seconds nanos (log ++ [.opened s h d.now]) (d.opened s (.ok h, world)) where
  lifetime := r.lifetime
  keyed := r.keyed.insert s ⟨h, d.now⟩
  stored k h' t := by
    rw [Desk.opened, kept_concat_opened, ← r.stored, Cache.mem_insert_iff, Entry.mk.injEq]

/-- Acquiring a handle that the log serves. -/
theorem Reflects.acquire_of_serves (r : Reflects seconds nanos log d)
    (serves : Serves (seconds * 1000000000 + nanos) log d.now s h) :
    Acquires p (seconds * 1000000000 + nanos) log s (momentOf p (.acquire s) d) ∧
      Reflects seconds nanos (log ++ (momentOf p (.acquire s) d).events)
        (momentOf p (.acquire s) d).after := by
  rw [momentOf_acquire_of_serves r serves]
  have none : Moment.openings (⟨.acquire s, d, .ok (.handle h), d⟩ : Moment (Recorded W)) = [] :=
    openings_eq_nil rfl
  refine ⟨⟨?_, ?_, ?_, ?_, ?_, rfl⟩, ?_⟩
  · exact ⟨fun _ => ⟨h, serves⟩, fun _ => none⟩
  · intro h' serves'
    have same : some h = some h' :=
      (r.fresh?_eq_some_iff.2 serves).symm.trans (r.fresh?_eq_some_iff.2 serves')
    rw [Option.some.inj same]
    exact ⟨rfl, rfl⟩
  · intro unserved
    exact (unserved ⟨h, serves⟩).elim
  · intro h' opening
    rw [none] at opening
    cases opening
  · intro f failure
    cases failure
  · simpa [Moment.events, none, Moment.swept] using r

/-- Acquiring when the log serves no handle. -/
theorem Reflects.acquire_of_not_serves (r : Reflects seconds nanos log d)
    (unserved : ¬ ∃ h, Serves (seconds * 1000000000 + nanos) log d.now s h) :
    Acquires p (seconds * 1000000000 + nanos) log s (momentOf p (.acquire s) d) ∧
      Reflects seconds nanos (log ++ (momentOf p (.acquire s) d).events)
        (momentOf p (.acquire s) d).after := by
  obtain ⟨outcome, after⟩ := momentOf_acquire_of_not_serves (p := p) r unserved
  rw [recorded_create] at after
  cases opening : (p.create s).outcome d.world.world with
  | mk result world =>
  rw [opening] at outcome after
  have one : (momentOf p (.acquire s) d).openings = [(s, result)] := by
    rw [Moment.openings, after]
    cases result <;> simp [momentOf, Desk.opened]
  have events : (momentOf p (.acquire s) d).events = (openedAt d.now (s, result)).toList := by
    rw [Moment.events, one]
    cases result <;> rfl
  refine ⟨⟨?_, ?_, ?_, ?_, ?_, ?_⟩, ?_⟩
  · simp only [one, List.cons_ne_nil, false_iff]
    exact unserved
  · exact fun h serves => (unserved ⟨h, serves⟩).elim
  · intro _
    rw [momentOf_before, opening, after]
    cases result <;> exact ⟨one, outcome, rfl⟩
  · intro h new k e
    rw [one] at new
    have ok : result = .ok h := (Prod.mk.inj (List.head_eq_of_cons_eq new)).2
    rw [after, ok]
    exact Cache.mem_insert_iff
  · intro f failure
    rw [outcome] at failure
    rw [after]
    cases result with
    | ok h => cases failure
    | error f => rfl
  · rw [after]
    cases result <;> rfl
  · rw [events, after]
    cases result with
    | ok h => exact r.opened_ok _
    | error f =>
      rw [show (openedAt d.now (s, .error f)).toList = [] from rfl, List.append_nil]
      exact ⟨r.lifetime, r.keyed, r.stored⟩

theorem Reflects.acquire (r : Reflects seconds nanos log d) (s : Symbol) :
    Acquires p (seconds * 1000000000 + nanos) log s (momentOf p (.acquire s) d) ∧
      Reflects seconds nanos (log ++ (momentOf p (.acquire s) d).events)
        (momentOf p (.acquire s) d).after := by
  by_cases serves : ∃ h, Serves (seconds * 1000000000 + nanos) log d.now s h
  · obtain ⟨h, serves⟩ := serves
    exact r.acquire_of_serves serves
  · exact r.acquire_of_not_serves serves

/-- A moment without openings, purges and clearings leaves the log as it is. -/
theorem Reflects.of_cache_eq (r : Reflects seconds nanos log d) {m : Moment (Recorded W)}
    (cache : m.after.cache = d.cache) (world : m.after.world = m.before.world)
    (swept : m.swept = []) : Reflects seconds nanos (log ++ m.events) m.after := by
  have events : m.events = [] := by rw [Moment.events, openings_eq_nil world, swept]; rfl
  rw [events, List.append_nil]
  constructor
  · rw [cache, r.lifetime]
  · rw [cache]
    exact r.keyed
  · rw [cache]
    exact r.stored

theorem Reflects.advance (r : Reflects seconds nanos log d) (n : Int) :
    Moves n (momentOf p (.advance n) d) ∧
      Reflects seconds nanos (log ++ (momentOf p (.advance n) d).events)
        (momentOf p (.advance n) d).after := by
  have run := Desk.outcome_advance n d
  suffices h : Moves n (momentOf p (.advance n) d) ∧
      (momentOf p (.advance n) d).after.cache = d.cache ∧
      (momentOf p (.advance n) d).after.world = d.world from
    ⟨h.1, r.of_cache_eq h.2.1 h.2.2 rfl⟩
  simp only [momentOf, Step.perform, Query.outcome_bind, run, Moves, Desk.now]
  split
  next adjustable =>
    cases d.clock.now.add? n with
    | none => exact ⟨⟨rfl, rfl⟩, rfl, rfl⟩
    | some now => simp [adjustable]
  next => exact ⟨⟨rfl, rfl⟩, rfl, rfl⟩

/-- The entries that a purge leaves, and how many it takes. -/
theorem Reflects.purge (r : Reflects seconds nanos log d) :
    Purges (seconds * 1000000000 + nanos) (momentOf p .purge d) ∧
      Reflects seconds nanos (log ++ (momentOf p .purge d).events)
        (momentOf p .purge d).after := by
  have fresh : ∀ e : Symbol × Entry, e.2.isFresh d.now d.cache.lifetime =
      !decide (((seconds * 1000000000 + nanos : Nat) : Int) ≤ d.now.since e.2.created) := by
    intro e
    rw [← decide_not, Entry.isFresh, decide_eq_decide, r.young_iff]
    omega
  have entries : (d.cache.purge d.now).entries = d.cache.entries.filter fun e =>
      !decide (((seconds * 1000000000 + nanos : Nat) : Int) ≤ d.now.since e.2.created) :=
    List.filter_congr fun e _ => fresh e
  refine ⟨⟨entries, ?_, rfl, rfl⟩, ?_⟩
  · show Except.ok (Answer.removed (d.cache.size - (d.cache.purge d.now).size)) = _
    have split := d.cache.entries.length_eq_length_filter_add
      (fun e => decide (((seconds * 1000000000 + nanos : Nat) : Int) ≤ d.now.since e.2.created))
    rw [Cache.size, Cache.size, entries, split, Nat.add_sub_cancel_right,
      ← List.countP_eq_length_filter]
    rfl
  · have events : (momentOf p .purge d).events = [.purged d.now] := by
      rw [Moment.events, openings_eq_nil rfl]
      rfl
    rw [events]
    exact ⟨r.lifetime, r.keyed.purge d.now, fun s h t => by
      rw [kept_concat_purged, ← r.stored, ← r.young_iff]
      exact Cache.mem_purge_iff⟩

theorem Reflects.clear (r : Reflects seconds nanos log d) :
    Reflects seconds nanos (log ++ (momentOf p .clear d).events)
      (momentOf p .clear d).after := by
  have events : (momentOf p .clear d).events = [.cleared] := by
    rw [Moment.events, openings_eq_nil rfl]
    rfl
  rw [events]
  refine ⟨r.lifetime, Cache.keyed_clear d.cache, fun s h t => ?_⟩
  constructor
  · intro stored
    cases stored
  · exact fun kept => (not_kept_concat_cleared kept).elim

/-- A step does what the log demands, and the cache reflects the longer log. -/
theorem Reflects.step (r : Reflects seconds nanos log d) (step : Step) :
    Demands p (seconds * 1000000000 + nanos) log (momentOf p step d) ∧
      Reflects seconds nanos (log ++ (momentOf p step d).events) (momentOf p step d).after := by
  cases step with
  | acquire s => exact r.acquire s
  | advance n => exact r.advance n
  | purge => exact r.purge
  | clear => exact ⟨⟨rfl, rfl⟩, r.clear⟩
  | size =>
    refine ⟨⟨rfl, _, r.listsKept, ?_⟩, r.of_cache_eq rfl rfl rfl⟩
    rw [List.length_map]
    rfl
  | isEmpty =>
    refine ⟨⟨rfl, _, r.listsKept, ?_⟩, r.of_cache_eq rfl rfl rfl⟩
    show Except.ok (Answer.empty (d.cache.entries.length == 0)) = _
    rw [List.isEmpty_map]
    cases d.cache.entries <;> rfl

/-- From a desk whose cache reflects the log, a run follows the log. -/
theorem Reflects.follows (steps : List Step) :
    ∀ {log d}, Reflects seconds nanos log d →
      Follows p (seconds * 1000000000 + nanos) log (moments (recorded p) steps d) := by
  induction steps with
  | nil => exact fun _ => trivial
  | cons step steps ih =>
    intro log d r
    obtain ⟨demands, next⟩ := r.step (p := p) step
    exact ⟨r.keyed, r.stored, demands, ih next⟩

end Runs

/-- **The cache refines its log.** In every run on an empty cache, with any provider, lifetime,
clock and world, every step does what the log of the steps before it demands. -/
theorem run_follows_log {W : Type} (p : Provider W) (seconds nanos : Nat) (clock : Clock)
    (world : W) (steps : List Step) :
    Follows p (seconds * 1000000000 + nanos) []
      (moments (recorded p) steps
        (Session.fresh clock (Lifetime.ofParts seconds nanos) ⟨world, []⟩)) := by
  apply Reflects.follows
  refine ⟨rfl, Cache.keyed_empty _, fun s h t => ?_⟩
  constructor
  · intro stored
    cases stored
  · exact fun kept => (not_kept_nil kept).elim

end MarketDesk.CacheLog
