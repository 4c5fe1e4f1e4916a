import MarketDesk.Proofs.Session.Accounting
import MarketDesk.Proofs.Session.Purging

/-!
# Symbols do not influence each other

A run is compared with the run in which the steps for other symbols than one are left out. When the
symbol alone decides whether a handle can be opened and what it answers, the desks of both runs have
the same clock and, for that symbol, entries of one age whose handles answer alike: this is what
`Matched` says, and it tells nothing of the other entries and of the worlds. The steps that are left
get the same answers. Handles are different ones in the two runs, and `pairs` lists which of them
belong together.
-/

namespace MarketDesk

open MarketDesk.Calendar
open MarketDesk.CacheLog (Recorded recorded)

variable {W α : Type}

/-! ## Related options -/

section Options

variable {β : Type} {R R' : α → β → Prop} {x : Option α} {y : Option β}

theorem rel_imp (imp : ∀ a b, R a b → R' a b) (related : Option.Rel R x y) :
    Option.Rel R' x y := by
  cases related with
  | none => exact .none
  | some same => exact .some (imp _ _ same)

/-- What is related is kept or left out together. -/
theorem rel_filter {f : α → Bool} {g : β → Bool} (together : ∀ a b, R a b → f a = g b)
    (related : Option.Rel R x y) : Option.Rel R (x.filter f) (y.filter g) := by
  cases related with
  | none => exact .none
  | @some a b same =>
    rw [Option.filter_some, Option.filter_some, together a b same]
    split
    · exact .some same
    · exact .none

end Options

/-! ## Handles that answer alike -/

/-- The handles show one symbol, and give the same answers in all worlds. -/
structure Provider.Alike (p : Provider W) (h h' : Handle) : Prop where
  symbol : h'.symbol = h.symbol
  history : ∀ period w w', ((p.history h' period).outcome w').1 = ((p.history h period).outcome w).1
  dividends : ∀ w w', ((p.dividends h').outcome w').1 = ((p.dividends h).outcome w).1
  info : ∀ w w', ((p.info h').outcome w').1 = ((p.info h).outcome w).1

/-- Both openings failed in one way, or they gave handles in the relation. -/
inductive SameOpening (R : Handle → Handle → Prop) :
    Except Fault Handle → Except Fault Handle → Prop where
  | error (f : Fault) : SameOpening R (.error f) (.error f)
  | ok {h h' : Handle} : R h h' → SameOpening R (.ok h) (.ok h')

/-- The symbol alone decides whether a handle can be opened, and what it answers. -/
def Provider.IsFixed (p : Provider W) : Prop :=
  ∀ s w w', SameOpening p.Alike ((p.create s).outcome w).1 ((p.create s).outcome w').1

theorem SameOpening.imp {R R' : Handle → Handle → Prop} (imp : ∀ h h', R h h' → R' h h')
    {r r' : Except Fault Handle} (same : SameOpening R r r') : SameOpening R' r r' := by
  cases same with
  | error f => exact .error f
  | ok related => exact .ok (imp _ _ related)

section Questions

variable {p : Provider W} {h h' : Handle} {s : Symbol}

theorem Provider.Alike.recorded (alike : p.Alike h h') : (recorded p).Alike h h' where
  symbol := alike.symbol
  history period r r' := alike.history period r.world r'.world
  dividends r r' := alike.dividends r.world r'.world
  info r r' := alike.info r.world r'.world

/-- Questions through handles that answer alike have one result. -/
theorem Questioning.same_outcome {ask : Handle → Query W α} (questioning : Questioning p ask)
    (alike : p.Alike h h') (w w' : W) : ((ask h').outcome w').1 = ((ask h).outcome w).1 := by
  induction questioning generalizing w w' with
  | ofExcept r => rw [Query.outcome_ofExcept, Query.outcome_ofExcept]
  | @bind _ _ ask next _ _ ih ihnext =>
    have first := ih w w'
    rw [Query.outcome_bind, Query.outcome_bind]
    cases asked : (ask h).outcome w with
    | mk r t =>
      cases asked' : (ask h').outcome w' with
      | mk r' t' =>
        rw [asked, asked'] at first
        obtain rfl : r' = r := first
        cases r' with
        | error f => rfl
        | ok a => exact ihnext a t t'
  | history period => exact alike.history period w w'
  | dividends => exact alike.dividends w w'
  | info => exact alike.info w w'

/-- A survey has one result on desks on which handles are acquired that answer alike. -/
theorem Survey.same_outcome {q : Query (Desk W) α} (survey : Survey p s q) {d d' : Desk W}
    (same : SameOpening p.Alike ((Desk.acquire p s).outcome d).1 ((Desk.acquire p s).outcome d').1) :
    (q.outcome d').1 = (q.outcome d).1 := by
  obtain ⟨ask, questioning, rfl⟩ := survey
  cases acquired : (Desk.acquire p s).outcome d with
  | mk r e =>
    cases acquired' : (Desk.acquire p s).outcome d' with
    | mk r' e' =>
      rw [acquired, acquired'] at same
      cases same with
      | error f => rw [Query.outcome_bind_error acquired, Query.outcome_bind_error acquired']
      | ok alike =>
        rw [Query.outcome_bind_ok acquired, Query.outcome_bind_ok acquired']
        exact questioning.same_outcome alike e.world e'.world

end Questions

/-- Canned answers are fixed. -/
theorem Canned.provider_fixed (c : Canned) : c.provider.IsFixed := by
  have answers : ∀ {α : Type} (h h' : Handle) (part : Script → Except DataError α) (w w' : Tally),
      h'.symbol = h.symbol → ((c.answer h' part).outcome w').1 = ((c.answer h part).outcome w).1 := by
    intro α h h' part w w' symbol
    rw [answer_outcome, answer_outcome, symbol]
  intro s w w'
  cases known : c.script s with
  | error f =>
    rw [create_of_error known, create_of_error known]
    exact .error f
  | ok script =>
    rw [create_of_ok known, create_of_ok known]
    exact .ok ⟨rfl, fun period w w' => answers _ _ _ w w' rfl, fun w w' => answers _ _ _ w w' rfl,
      fun w w' => answers _ _ _ w w' rfl⟩

/-! ## Steps and the symbols that they name -/

/-- The symbol that a route names, if its segment decodes. -/
def Http.Route.symbol? : Http.Route → Option Symbol
  | .history x _ => (Http.segment? x).map Symbol.mk
  | .dividends x => (Http.segment? x).map Symbol.mk
  | .info x => (Http.segment? x).map Symbol.mk
  | .health => none
  | .unknown => none

theorem Http.Route.symbol?_of_fetch? {r : Http.Route} {f : Fetch} (asks : r.fetch? = some f) :
    r.symbol? = some f.symbol := by
  cases r with
  | history x y =>
    simp only [fetch?, Option.bind_eq_bind, Option.bind_eq_some_iff] at asks
    obtain ⟨s, decoded, text, -, period, -, made⟩ := asks
    cases made
    rw [symbol?, decoded]
    rfl
  | dividends x =>
    obtain ⟨s, decoded, rfl⟩ := Option.map_eq_some_iff.1 asks
    rw [symbol?, decoded]
    rfl
  | info x =>
    obtain ⟨s, decoded, rfl⟩ := Option.map_eq_some_iff.1 asks
    rw [symbol?, decoded]
    rfl
  | health => cases asks
  | unknown => cases asks

/-- The symbol that a step names, whether or not it comes to ask about it. -/
def Step.subject? : Step → Option Symbol
  | .acquire s => some s
  | .history s _ => some s
  | .dividends s => some s
  | .info s => some s
  | .rawHistory s _ => some s
  | .rawDividends s => some s
  | .rawInfo s => some s
  | .http _ target =>
    (Http.Target.path? target.toList).bind fun path => (Http.Route.ofPath path).symbol?
  | .advance _ => none
  | .purge => none
  | .clear => none
  | .isEmpty => none
  | .lifetime => none

/-- The step names no other symbol. -/
def namesNoOther (s : Symbol) (step : Step) : Bool := step.subject?.all (· == s)

section Subjects

variable {step : Step} {s k : Symbol}

/-- A step asks about the symbol that it names. -/
theorem Step.subject?_of_symbol? (asks : step.symbol? = some s) : step.subject? = some s := by
  cases step with
  | history k text =>
    obtain ⟨period, -, rfl⟩ := Option.map_eq_some_iff.1 asks
    rfl
  | http method target =>
    obtain ⟨f, requested, rfl⟩ := Option.map_eq_some_iff.1 asks
    obtain ⟨m, path, -, -, valid, asked⟩ := Session.requested?_eq_some_iff.1 requested
    rw [subject?, valid, Option.bind_some, Http.Route.symbol?_of_fetch? asked]
  | acquire k => exact asks
  | dividends k => exact asks
  | info k => exact asks
  | rawHistory k text => exact asks
  | rawDividends k => exact asks
  | rawInfo k => exact asks
  | advance nanos => cases asks
  | purge => cases asks
  | clear => cases asks
  | isEmpty => cases asks
  | lifetime => cases asks

/-- A step that names a symbol does no upkeep. -/
theorem Step.upkeep_of_subject? (names : step.subject? = some k) (d : Desk W) :
    step.upkeep d = d := by
  cases step <;> first | rfl | cases names

theorem symbol?_of_namesNoOther (kept : namesNoOther s step = true)
    (asks : step.symbol? = some k) : k = s := by
  rw [namesNoOther, Step.subject?_of_symbol? asks] at kept
  exact eq_of_beq kept

theorem exists_other_of_not_namesNoOther (other : ¬ namesNoOther s step = true) :
    ∃ k, step.subject? = some k ∧ k ≠ s := by
  rw [namesNoOther] at other
  cases names : step.subject? with
  | none =>
    rw [names] at other
    exact absurd rfl other
  | some k =>
    rw [names] at other
    refine ⟨k, rfl, fun same => other ?_⟩
    exact beq_iff_eq.2 same

end Subjects

/-! ## Desks that have the same of one symbol -/

/-- The entries have one age, and their handles answer alike and are listed together. -/
structure SameEntry (p : Provider W) (pairs : List (Handle × Handle)) (e e' : Entry) : Prop where
  created : e'.created = e.created
  alike : p.Alike e.handle e'.handle
  paired : (e.handle, e'.handle) ∈ pairs

/-- The desks have one clock, and the same of one symbol. -/
structure Matched (p : Provider W) (pairs : List (Handle × Handle)) (s : Symbol)
    (d d' : Desk (Recorded W)) : Prop where
  clock : d'.clock = d.clock
  lifetime : d'.cache.lifetime = d.cache.lifetime
  keyed : d.cache.Keyed
  keyed' : d'.cache.Keyed
  entry : Option.Rel (SameEntry p pairs) (d.cache.find? s) (d'.cache.find? s)

namespace Matched

variable {p : Provider W} {pairs new : List (Handle × Handle)} {s : Symbol}
  {d d' e e' : Desk (Recorded W)} {h h' : Handle}

theorem fresh (p : Provider W) (s : Symbol) (clock : Clock) (lifetime : Lifetime) (world : W) :
    Matched p [] s (Session.fresh clock lifetime ⟨world, []⟩)
      (Session.fresh clock lifetime ⟨world, []⟩) where
  clock := rfl
  lifetime := rfl
  keyed := Cache.keyed_empty lifetime
  keyed' := Cache.keyed_empty lifetime
  entry := .none

theorem now_eq (matched : Matched p pairs s d d') : d'.now = d.now :=
  congrArg Clock.now matched.clock

/-- Only clocks and caches are looked at. -/
theorem congr (matched : Matched p pairs s d d') (clock : e.clock = d.clock)
    (cache : e.cache = d.cache) (clock' : e'.clock = d'.clock) (cache' : e'.cache = d'.cache) :
    Matched p pairs s e e' where
  clock := by rw [clock, clock', matched.clock]
  lifetime := by rw [cache, cache', matched.lifetime]
  keyed := by rw [cache]; exact matched.keyed
  keyed' := by rw [cache']; exact matched.keyed'
  entry := by rw [cache, cache']; exact matched.entry

/-- More handles may be listed. -/
theorem more (matched : Matched p pairs s d d') (new : List (Handle × Handle)) :
    Matched p (pairs ++ new) s d d' where
  clock := matched.clock
  lifetime := matched.lifetime
  keyed := matched.keyed
  keyed' := matched.keyed'
  entry := rel_imp (fun _ _ same =>
    ⟨same.created, same.alike, List.mem_append_left new same.paired⟩) matched.entry

/-- The entries are fresh together. -/
theorem young (matched : Matched p pairs s d d') :
    Option.Rel (SameEntry p pairs)
      ((d.cache.find? s).filter fun e => e.isFresh d.now d.cache.lifetime)
      ((d'.cache.find? s).filter fun e => e.isFresh d'.now d'.cache.lifetime) := by
  apply rel_filter _ matched.entry
  intro e e' same
  rw [matched.now_eq, matched.lifetime, Entry.isFresh, Entry.isFresh, same.created]

/-- Handles that are listed together are served on both desks, or none on either. -/
theorem served_or_stale (matched : Matched p pairs s d d') :
    (∃ h h', p.Alike h h' ∧ (h, h') ∈ pairs ∧ d.cache.fresh? d.now s = some h ∧
        d'.cache.fresh? d'.now s = some h') ∨
      (d.cache.fresh? d.now s = none ∧ d'.cache.fresh? d'.now s = none) := by
  have young := matched.young
  simp only [Cache.fresh?]
  generalize (d.cache.find? s).filter _ = x at young ⊢
  generalize (d'.cache.find? s).filter _ = x' at young ⊢
  cases young with
  | none => exact Or.inr ⟨rfl, rfl⟩
  | @some e e' same => exact Or.inl ⟨_, _, same.alike, same.paired, rfl, rfl⟩

/-- New handles that answer alike are stored at the same time. -/
theorem insert (matched : Matched p pairs s d d') (alike : p.Alike h h') (r r' : Recorded W) :
    Matched p (pairs ++ [(h, h')]) s
      { d with world := r, cache := d.cache.insert s ⟨h, d.now⟩ }
      { d' with world := r', cache := d'.cache.insert s ⟨h', d'.now⟩ } where
  clock := matched.clock
  lifetime := matched.lifetime
  keyed := matched.keyed.insert s _
  keyed' := matched.keyed'.insert s _
  entry := by
    rw [Cache.find?_insert, Cache.find?_insert, if_pos rfl, if_pos rfl]
    exact .some ⟨matched.now_eq, alike, List.mem_append_right _ (List.mem_singleton_self _)⟩

end Matched

/-- What was opened on both desks, with the handles that belong together. -/
inductive Together (s : Symbol) : List (Handle × Handle) →
    List (Symbol × Except Fault Handle) → List (Symbol × Except Fault Handle) → Prop where
  | nothing : Together s [] [] []
  | failures (f : Fault) : Together s [] [(s, .error f)] [(s, .error f)]
  | handles (h h' : Handle) : Together s [(h, h')] [(s, .ok h)] [(s, .ok h')]

/-- Acquiring goes alike on both desks, with these new handles. -/
structure SameAcquire (p : Provider W) (pairs new : List (Handle × Handle)) (s : Symbol)
    (d d' : Desk (Recorded W)) (o o' : Except Fault Handle × Desk (Recorded W)) : Prop where
  result : SameOpening (fun h h' => p.Alike h h' ∧ (h, h') ∈ pairs ++ new) o.1 o'.1
  matched : Matched p (pairs ++ new) s o.2 o'.2
  openings : Together s new (o.2.world.openings.drop d.world.openings.length)
    (o'.2.world.openings.drop d'.world.openings.length)

section Acquiring

variable {p : Provider W} {pairs : List (Handle × Handle)} {s : Symbol}
  {d d' : Desk (Recorded W)}

theorem Matched.acquire (matched : Matched p pairs s d d') (fixed : p.IsFixed) :
    ∃ new, SameAcquire p pairs new s d d' ((Desk.acquire (recorded p) s).outcome d)
      ((Desk.acquire (recorded p) s).outcome d') := by
  rcases matched.served_or_stale with ⟨h, h', alike, paired, fresh, fresh'⟩ | ⟨stale, stale'⟩
  · rw [Desk.acquire_of_fresh fresh, Desk.acquire_of_fresh fresh']
    refine ⟨[], .ok ⟨alike, List.mem_append_left _ paired⟩, matched.more [], ?_⟩
    rw [List.drop_length, List.drop_length]
    exact .nothing
  · have opening := fixed s d.world.world d'.world.world
    rw [Desk.acquire_of_not_fresh stale, Desk.acquire_of_not_fresh stale',
      CacheLog.recorded_create, CacheLog.recorded_create]
    generalize (p.create s).outcome d.world.world = o at opening ⊢
    generalize (p.create s).outcome d'.world.world = o' at opening ⊢
    obtain ⟨r, w⟩ := o
    obtain ⟨r', w'⟩ := o'
    cases opening with
    | error f =>
      refine ⟨[], .error f, (matched.more []).congr rfl rfl rfl rfl, ?_⟩
      simp only [Desk.opened, List.drop_left]
      exact .failures f
    | @ok h h' alike =>
      refine ⟨[(h, h')], ?_, matched.insert alike _ _, ?_⟩
      · exact .ok ⟨alike, List.mem_append_right _ (List.mem_singleton_self _)⟩
      · simp only [Desk.opened, List.drop_left]
        exact .handles h h'

end Acquiring

namespace Session

/-! ## Steps -/

/-- The handles that were opened for a symbol, in order. -/
def handlesIn (s : Symbol) (openings : List (Symbol × Except Fault Handle)) : List Handle :=
  ((successes openings).filter fun o => o.1 == s).map Prod.snd

/-- The handles that were opened for a symbol in a run, in order. -/
def handlesFor (s : Symbol) (ms : List (Moment (Recorded W))) : List Handle :=
  ms.flatMap fun m => handlesIn s m.openings

/-- The answers to a step are the same, apart from numbers of entries, and for handles that are
listed together. -/
inductive SameUpTo (pairs : List (Handle × Handle)) :
    Step → Except Fault Answer → Except Fault Answer → Prop where
  | same {step : Step} {r r' : Except Fault Answer} : (∀ s, step ≠ .acquire s) →
      SameAnswer step r r' → SameUpTo pairs step r r'
  | removed (n n' : Nat) : SameUpTo pairs .purge (.ok (.removed n)) (.ok (.removed n'))
  | refused {s : Symbol} (f : Fault) : SameUpTo pairs (.acquire s) (.error f) (.error f)
  | handle {s : Symbol} {h h' : Handle} : (h, h') ∈ pairs → h'.symbol = h.symbol →
      SameUpTo pairs (.acquire s) (.ok (.handle h)) (.ok (.handle h'))

/-- In both moments the same happens, apart from numbers of entries, and for handles that are listed
together. -/
structure Corresponds (pairs : List (Handle × Handle)) (m m' : Moment (Recorded W)) : Prop where
  step : m'.step = m.step
  clock : m'.before.clock = m.before.clock
  answer : SameUpTo pairs m.step m.outcome m'.outcome
  /-- The provider is asked for the same openings, which end in the same way. -/
  openings : List.Forall₂
    (fun o o' => o'.1 = o.1 ∧ SameOpening (fun h h' => (h, h') ∈ pairs) o.2 o'.2)
    m.openings m'.openings

theorem SameUpTo.more {pairs : List (Handle × Handle)} {step : Step} {r r' : Except Fault Answer}
    (same : SameUpTo pairs step r r') (new : List (Handle × Handle)) :
    SameUpTo (pairs ++ new) step r r' := by
  cases same with
  | same other same => exact .same other same
  | removed n n' => exact .removed n n'
  | refused f => exact .refused f
  | handle paired symbol => exact .handle (List.mem_append_left _ paired) symbol

theorem Corresponds.more {pairs : List (Handle × Handle)} {m m' : Moment (Recorded W)}
    (same : Corresponds pairs m m') (new : List (Handle × Handle)) :
    Corresponds (pairs ++ new) m m' where
  step := same.step
  clock := same.clock
  answer := same.answer.more new
  openings := same.openings.imp fun _ _ opened =>
    ⟨opened.1, opened.2.imp fun _ _ paired => List.mem_append_left _ paired⟩

/-- A step goes alike on both desks, with these new handles. -/
structure SameStep (p : Provider W) (pairs new : List (Handle × Handle)) (s : Symbol)
    (m m' : Moment (Recorded W)) : Prop where
  corresponds : Corresponds (pairs ++ new) m m'
  matched : Matched p (pairs ++ new) s m.after m'.after
  handles : handlesIn s m.openings = new.map Prod.fst
  handles' : handlesIn s m'.openings = new.map Prod.snd

section Steps

variable {p : Provider W} {pairs new : List (Handle × Handle)} {s k : Symbol} {step : Step}
  {d d' : Desk (Recorded W)} {openings openings' : List (Symbol × Except Fault Handle)}

theorem handlesIn_of_together (together : Together s new openings openings') :
    handlesIn s openings = new.map Prod.fst ∧ handlesIn s openings' = new.map Prod.snd := by
  cases together with
  | nothing => exact ⟨rfl, rfl⟩
  | failures f => exact ⟨rfl, rfl⟩
  | handles h h' => simp [handlesIn, successes, Except.toOption]

theorem sameOpenings_of_together (together : Together s new openings openings') :
    List.Forall₂ (fun o o' => o'.1 = o.1 ∧
      SameOpening (fun h h' => (h, h') ∈ pairs ++ new) o.2 o'.2) openings openings' := by
  cases together with
  | nothing => exact .nil
  | failures f => exact .cons ⟨rfl, .error f⟩ .nil
  | handles h h' =>
    refine .cons ⟨rfl, .ok ?_⟩ .nil
    exact List.mem_append_right _ (List.mem_singleton_self _)

/-- A step that asks about the symbol goes alike on both desks. -/
theorem sameStep_of_symbol? (matched : Matched p pairs s d d') (fixed : p.IsFixed)
    (asked : step.symbol? = some s) :
    ∃ new, SameStep p pairs new s (momentOf (recorded p) step d)
      (momentOf (recorded p) step d') := by
  obtain ⟨new, acquired⟩ := matched.acquire fixed
  obtain ⟨clock, cache⟩ := clock_cache_of_symbol? (recorded p) asked d
  obtain ⟨clock', cache'⟩ := clock_cache_of_symbol? (recorded p) asked d'
  have together := acquired.openings
  rw [← openings_of_symbol? asked, ← openings_of_symbol? asked] at together
  refine ⟨new, ⟨rfl, matched.clock, ?_, sameOpenings_of_together together⟩,
    acquired.matched.congr clock cache clock' cache', (handlesIn_of_together together).1,
    (handlesIn_of_together together).2⟩
  -- Acquiring shows the handle, every other step only what is answered through it.
  by_cases acquires : step = .acquire s
  · subst acquires
    have result := acquired.result
    rw [outcome_acquire, outcome_acquire]
    generalize ((Desk.acquire (recorded p) s).outcome d).1 = r at result ⊢
    generalize ((Desk.acquire (recorded p) s).outcome d').1 = r' at result ⊢
    cases result with
    | error f => exact .refused f
    | ok related => exact .handle related.2 related.1.symbol
  · have other : ∀ k, step ≠ .acquire k := by
      rintro k rfl
      obtain rfl : k = s := Option.some.inj asked
      exact acquires rfl
    obtain ⟨α, q, report, survey, outcome⟩ :=
      (survey_of_symbol? (recorded p) asked).resolve_left acquires
    have alike := acquired.result.imp fun _ _ related => related.1.recorded
    have outcomes : (momentOf (recorded p) step d').outcome =
        (momentOf (recorded p) step d).outcome := by
      simp only [momentOf, outcome, survey.same_outcome alike]
    rw [outcomes]
    exact .same other .equal

/-- Upkeep treats entries of one age alike. -/
theorem matched_upkeep (matched : Matched p pairs s d d') (step : Step) :
    Matched p pairs s (step.upkeep d) (step.upkeep d') := by
  refine ⟨step.upkeep_clock matched.clock, ?_, step.upkeep_keyed matched.keyed,
    step.upkeep_keyed matched.keyed', ?_⟩
  · rw [Step.upkeep_lifetime, Step.upkeep_lifetime, matched.lifetime]
  · cases step with
    | purge =>
      show Option.Rel _ ((d.cache.purge d.now).find? s) ((d'.cache.purge d'.now).find? s)
      rw [Cache.find?_purge matched.keyed, Cache.find?_purge matched.keyed']
      exact matched.young
    | clear => exact .none
    | _ => exact matched.entry

/-- A step that asks about no symbol goes alike on both desks. -/
theorem sameStep_of_no_symbol (matched : Matched p pairs s d d') (idle : step.symbol? = none) :
    SameStep p pairs [] s (momentOf (recorded p) step d) (momentOf (recorded p) step d') := by
  have after : ∀ d : Desk (Recorded W), (momentOf (recorded p) step d).after = step.upkeep d :=
    after_of_no_symbol _ idle
  have unopened := openings_of_no_symbol (p := p) idle
  have upkept := matched_upkeep matched step
  refine ⟨⟨rfl, matched.clock, ?_, ?_⟩, ?_, ?_, ?_⟩
  · by_cases purges : step = .purge
    · subst purges
      exact .removed _ _
    · refine .same ?_ (sameAnswer_of_no_symbol matched.clock matched.lifetime idle purges)
      rintro k rfl
      cases idle
  · rw [unopened, unopened]
    exact .nil
  · rw [after, after]
    exact upkept.more []
  · rw [unopened]
    rfl
  · rw [unopened]
    rfl

/-- A step that names another symbol changes nothing of this one. -/
theorem Deed.other {given : Option Handle} {cache : Cache}
    (deed : Deed p step d given openings cache) (names : step.subject? = some k) (other : k ≠ s) :
    cache.find? s = d.cache.find? s ∧ handlesIn s openings = [] := by
  cases deed with
  | upkeep asked =>
    rw [Step.upkeep_of_subject? names]
    exact ⟨rfl, rfl⟩
  | served asked fresh => exact ⟨rfl, rfl⟩
  | refused asked stale opening => exact ⟨rfl, rfl⟩
  | opened asked stale opening =>
    have named := Step.subject?_of_symbol? asked
    rw [names, Option.some.injEq] at named
    subst named
    rw [Cache.find?_insert, if_neg (Ne.symm other)]
    simp [handlesIn, successes, Except.toOption, other]

theorem matched_of_other (matched : Matched p pairs s d d') (names : step.subject? = some k)
    (other : k ≠ s) : Matched p pairs s (momentOf (recorded p) step d).after d' where
  clock := by
    rw [clock_after, Step.upkeep_of_subject? names]
    exact matched.clock
  lifetime := by
    rw [lifetime_after]
    exact matched.lifetime
  keyed := keyed_after _ step matched.keyed
  keyed' := matched.keyed'
  entry := by
    rw [((deed p step d).other names other).1]
    exact matched.entry

/-- A step that names no other symbol goes alike on both desks. -/
theorem sameStep (matched : Matched p pairs s d d') (fixed : p.IsFixed)
    (kept : namesNoOther s step = true) :
    ∃ new, SameStep p pairs new s (momentOf (recorded p) step d)
      (momentOf (recorded p) step d') := by
  cases asked : step.symbol? with
  | none => exact ⟨[], sameStep_of_no_symbol matched asked⟩
  | some k =>
    obtain rfl := symbol?_of_namesNoOther kept asked
    exact sameStep_of_symbol? matched fixed asked

end Steps

/-! ## Runs -/

section Runs

variable {p : Provider W} {pairs : List (Handle × Handle)} {s : Symbol}

theorem handlesFor_cons (s : Symbol) (m : Moment (Recorded W)) (ms : List (Moment (Recorded W))) :
    handlesFor s (m :: ms) = handlesIn s m.openings ++ handlesFor s ms := List.flatMap_cons

/-- The moments of the steps that name no other symbol. -/
def remaining (s : Symbol) (ms : List (Moment W)) : List (Moment W) :=
  ms.filter fun m => namesNoOther s m.step

theorem remaining_cons {m : Moment W} (kept : namesNoOther s m.step = true) (ms : List (Moment W)) :
    remaining s (m :: ms) = m :: remaining s ms := List.filter_cons_of_pos kept

theorem remaining_cons_other {m : Moment W} (other : ¬ namesNoOther s m.step = true)
    (ms : List (Moment W)) : remaining s (m :: ms) = remaining s ms := List.filter_cons_of_neg other

/-- From matched desks, the runs go on alike. -/
theorem run_of_matched (fixed : p.IsFixed) (steps : List Step) :
    ∀ {pairs : List (Handle × Handle)} {d d' : Desk (Recorded W)}, Matched p pairs s d d' →
      ∃ new : List (Handle × Handle),
        handlesFor s (moments (recorded p) steps d) = new.map Prod.fst ∧
        handlesFor s (moments (recorded p) (steps.filter (namesNoOther s)) d') =
          new.map Prod.snd ∧
        List.Forall₂ (Corresponds (pairs ++ new)) (remaining s (moments (recorded p) steps d))
          (moments (recorded p) (steps.filter (namesNoOther s)) d') := by
  induction steps with
  | nil => exact fun _ => ⟨[], rfl, rfl, .nil⟩
  | cons step steps ih =>
    intro pairs d d' matched
    rw [moments_cons, handlesFor_cons]
    by_cases kept : namesNoOther s step = true
    · obtain ⟨new, same⟩ := sameStep matched fixed kept
      obtain ⟨later, handles, handles', corresponds⟩ := ih same.matched
      rw [List.filter_cons_of_pos kept, moments_cons, handlesFor_cons, remaining_cons kept]
      refine ⟨new ++ later, ?_, ?_, ?_⟩
      · rw [same.handles, handles, List.map_append]
      · rw [same.handles', handles', List.map_append]
      · rw [← List.append_assoc]
        exact .cons (same.corresponds.more later) corresponds
    · obtain ⟨k, names, other⟩ := exists_other_of_not_namesNoOther kept
      rw [List.filter_cons_of_neg kept, remaining_cons_other kept,
        ((deed p step d).other names other).2]
      exact ih (matched_of_other matched names other)

/-- If no two openings of a run give one handle, the handles for a symbol are different ones. -/
theorem handlesFor_nodup {ms : List (Moment (Recorded W))}
    (distinct : ((ms.flatMap Moment.opened).map Prod.snd).Nodup) : (handlesFor s ms).Nodup := by
  have part : handlesFor s ms =
      ((ms.flatMap Moment.opened).filter fun o => o.1 == s).map Prod.snd := by
    simp only [handlesFor, handlesIn, Moment.opened, List.filter_flatMap, List.map_flatMap]
  rw [part]
  exact distinct.sublist (List.filter_sublist.map Prod.snd)

end Runs

/-- The second run is what remains of the first one without the steps that name other symbols: every
step has the same answer, apart from numbers of entries, and asks for the same openings. The `n`th
handle that was opened for the symbol in one run stands for the `n`th one in the other, one to one
if no handle was opened twice. -/
def Isolated (s : Symbol) (ms ms' : List (Moment (Recorded W))) : Prop :=
  ∃ pairs : List (Handle × Handle),
    handlesFor s ms = pairs.map Prod.fst ∧ handlesFor s ms' = pairs.map Prod.snd ∧
    List.Forall₂ (Corresponds pairs) (remaining s ms) ms' ∧
    (((ms.flatMap Moment.opened).map Prod.snd).Nodup →
      ((ms'.flatMap Moment.opened).map Prod.snd).Nodup →
      ∀ x ∈ pairs, ∀ y ∈ pairs, x.1 = y.1 ↔ x.2 = y.2)

/-- **Symbols do not influence each other.** When the symbol alone decides whether a handle can be
opened and what it answers, the steps that name other symbols can be left out of a run. -/
theorem symbols_are_isolated (p : Provider W) (fixed : p.IsFixed) (clock : Clock)
    (lifetime : Lifetime) (world : W) (s : Symbol) (steps : List Step) :
    Isolated s (moments (recorded p) steps (fresh clock lifetime ⟨world, []⟩))
      (moments (recorded p) (steps.filter (namesNoOther s))
        (fresh clock lifetime ⟨world, []⟩)) := by
  obtain ⟨pairs, handles, handles', corresponds⟩ :=
    run_of_matched fixed steps (Matched.fresh p s clock lifetime world)
  refine ⟨pairs, handles, handles', corresponds, fun distinct distinct' x hx y hy => ?_⟩
  have first : (pairs.map Prod.fst).Nodup := handles ▸ handlesFor_nodup distinct
  have second : (pairs.map Prod.snd).Nodup := handles' ▸ handlesFor_nodup distinct'
  constructor
  · intro same
    exact congrArg Prod.snd (List.inj_on_of_nodup_map first hx hy same)
  · intro same
    exact congrArg Prod.fst (List.inj_on_of_nodup_map second hx hy same)

/-- A provider that breaks down for `aapl`, and tells other symbols apart by its errors. -/
def telling : Canned where
  script s := if s = ⟨"aapl"⟩ then .error .abort else .ok (.failing (.other s.text))

/-- A symbol among others that differ from it in case or in a space. -/
theorem symbols_are_isolated_spelled :
    telling.provider.IsFixed ∧
      Isolated ⟨"AAPL"⟩
        (moments (recorded telling.provider)
          [.acquire ⟨" AAPL"⟩, .acquire ⟨"AAPL"⟩, .dividends ⟨"aapl"⟩, .advance 2000000000,
            .http "GET" "/info/%20AAPL", .purge, .info ⟨"AAPL"⟩, .http "GET" "/health",
            .acquire ⟨"AAPL"⟩]
          (fresh ⟨.epoch, true⟩ (.ofParts 1 0) ⟨⟨0, 0⟩, []⟩))
        (moments (recorded telling.provider)
          [.acquire ⟨"AAPL"⟩, .advance 2000000000, .purge, .info ⟨"AAPL"⟩, .http "GET" "/health",
            .acquire ⟨"AAPL"⟩]
          (fresh ⟨.epoch, true⟩ (.ofParts 1 0) ⟨⟨0, 0⟩, []⟩)) := by
  have fixed := telling.provider_fixed
  exact ⟨fixed, symbols_are_isolated telling.provider fixed ⟨.epoch, true⟩ (.ofParts 1 0) ⟨0, 0⟩
    ⟨"AAPL"⟩ _⟩

end Session

end MarketDesk
