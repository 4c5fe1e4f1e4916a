import Mathlib.Data.List.Forall2
import MarketDesk.Proofs.Session.Moments
import MarketDesk.Provider.Canned

/-!
# Purging is invisible

Two runs whose steps differ in purges only. Their caches hold different entries, but those that
only one of them holds have expired, and while the clock does not go back they stay so: the desks
serve the same handles now and at every later time, which is what `Desk.Agree` says. So all
answers are the same, apart from those that count entries, and the provider is asked for the same
openings at the same steps.
-/

namespace MarketDesk

open MarketDesk.Calendar

variable {W α : Type}

/-! ## Desks that serve the same handles -/

/-- The desks have one clock, one world, and serve the same handles from now on. -/
structure Desk.Agree (d d' : Desk W) : Prop where
  clock : d'.clock = d.clock
  world : d'.world = d.world
  lifetime : d'.cache.lifetime = d.cache.lifetime
  keyed : d.cache.Keyed
  keyed' : d'.cache.Keyed
  fresh : ∀ (t : Instant) (s : Symbol), d.now.nanos ≤ t.nanos →
    d'.cache.fresh? t s = d.cache.fresh? t s

namespace Desk.Agree

variable {p : Provider W} {d d' : Desk W} {s : Symbol}

theorem refl (keyed : d.cache.Keyed) : d.Agree d :=
  ⟨rfl, rfl, rfl, keyed, keyed, fun _ _ _ => rfl⟩

theorem now_eq (a : d.Agree d') : d'.now = d.now := congrArg Clock.now a.clock

/-- What desks agree on is not touched by what happens in the world. -/
theorem onWorld (a : d.Agree d') (w : W) :
    Desk.Agree { d with world := w } { d' with world := w } :=
  ⟨a.clock, rfl, a.lifetime, a.keyed, a.keyed', a.fresh⟩

/-- A new handle is stored at the same time on both desks. -/
theorem insert (a : d.Agree d') (s : Symbol) (h : Handle) (w : W) :
    Desk.Agree { d with world := w, cache := d.cache.insert s ⟨h, d.now⟩ }
      { d' with world := w, cache := d'.cache.insert s ⟨h, d'.now⟩ } where
  clock := a.clock
  world := rfl
  lifetime := a.lifetime
  keyed := a.keyed.insert s _
  keyed' := a.keyed'.insert s _
  fresh t k later := by
    have same : d'.cache.fresh? t k = d.cache.fresh? t k := a.fresh t k later
    show (d'.cache.insert s ⟨h, d'.now⟩).fresh? t k = (d.cache.insert s ⟨h, d.now⟩).fresh? t k
    rw [Cache.fresh?_insert, Cache.fresh?_insert, a.lifetime, a.now_eq, same]

/-- Acquiring has one outcome on both desks, and they agree after it. -/
theorem acquire (a : d.Agree d') (p : Provider W) (s : Symbol) :
    ∃ r e e', (Desk.acquire p s).outcome d = (r, e) ∧ (Desk.acquire p s).outcome d' = (r, e') ∧
      e.Agree e' ∧ e.clock = d.clock := by
  have same : d'.cache.fresh? d'.now s = d.cache.fresh? d.now s := by
    rw [a.now_eq]
    exact a.fresh d.now s (Int.le_refl _)
  cases fresh : d.cache.fresh? d.now s with
  | some h =>
    rw [fresh] at same
    exact ⟨.ok h, d, d', acquire_of_fresh fresh, acquire_of_fresh same, a, rfl⟩
  | none =>
    rw [fresh] at same
    have second := acquire_of_not_fresh (p := p) same
    rw [a.world] at second
    refine ⟨_, _, _, acquire_of_not_fresh fresh, second, ?_, ?_⟩
    · cases (p.create s).outcome d.world with
      | mk r w =>
        cases r with
        | error f => exact a.onWorld w
        | ok h => exact a.insert s h w
    · cases (p.create s).outcome d.world with
      | mk r w => cases r <;> rfl

/-- An inquiry has one outcome on both desks, and they agree after it. -/
theorem inquiry (a : d.Agree d') {q : Query (Desk W) α} (inquiry : Inquiry p s q) :
    (q.outcome d').1 = (q.outcome d).1 ∧ (q.outcome d).2.Agree (q.outcome d').2 ∧
      (q.outcome d).2.clock = d.clock := by
  obtain ⟨ask, -, rfl⟩ := inquiry
  obtain ⟨r, e, e', first, second, agree, clock⟩ := a.acquire p s
  cases r with
  | error f =>
    rw [Query.outcome_bind_error first, Query.outcome_bind_error second]
    exact ⟨rfl, agree, clock⟩
  | ok h =>
    rw [Query.outcome_bind_ok first, Query.outcome_bind_ok second, outcome_onWorld,
      outcome_onWorld, agree.world]
    exact ⟨rfl, agree.onWorld _, clock⟩

/-- A purge of the first desk takes nothing that the second one would still serve. -/
theorem purge_left (a : d.Agree d') : (Step.purge.upkeep d).Agree d' where
  clock := a.clock
  world := a.world
  lifetime := a.lifetime
  keyed := a.keyed.purge _
  keyed' := a.keyed'
  fresh t s later := by
    have kept : (d.cache.purge d.now).fresh? t s = d.cache.fresh? t s :=
      Cache.fresh?_purge a.keyed later s
    exact (a.fresh t s later).trans kept.symm

theorem purge_right (a : d.Agree d') : d.Agree (Step.purge.upkeep d') where
  clock := a.clock
  world := a.world
  lifetime := a.lifetime
  keyed := a.keyed
  keyed' := a.keyed'.purge _
  fresh t s later := by
    have later' : d'.now.nanos ≤ t.nanos := by
      rw [a.now_eq]
      exact later
    have kept : (d'.cache.purge d'.now).fresh? t s = d'.cache.fresh? t s :=
      Cache.fresh?_purge a.keyed' later' s
    exact kept.trans (a.fresh t s later)

/-- Upkeep keeps desks in agreement if it does not move the clock backward. -/
theorem upkeep (a : d.Agree d') {step : Step}
    (forward : d.now.nanos ≤ (step.upkeep d).now.nanos) :
    (step.upkeep d).Agree (step.upkeep d') := by
  cases step with
  | advance nanos =>
    refine ⟨congrArg (Clock.moved · nanos) a.clock, a.world, a.lifetime, a.keyed, a.keyed', ?_⟩
    intro t s later
    exact a.fresh t s (Int.le_trans forward later)
  | purge =>
    have first := a.purge_left
    exact first.purge_right
  | clear =>
    exact ⟨a.clock, a.world, a.lifetime, Cache.keyed_clear _, Cache.keyed_clear _,
      fun _ _ _ => rfl⟩
  | _ => exact a

end Desk.Agree

namespace Session

/-! ## Answers -/

/-- The answers to a step are the same, apart from numbers of entries. -/
inductive SameAnswer : Step → Except Fault Answer → Except Fault Answer → Prop where
  | equal {s : Step} {r : Except Fault Answer} : SameAnswer s r r
  | isEmpty (b b' : Bool) : SameAnswer .isEmpty (.ok (.empty b)) (.ok (.empty b'))
  | health {method target : String} (n n' : Nat) : Http.Method.ofText? method = some .get →
      Http.Target.path? target.toList = some "/health".toList →
      SameAnswer (.http method target) (.ok (.response (healthReport n)))
        (.ok (.response (healthReport n')))

section Steps

variable {p : Provider W} {d d' : Desk W} {s : Step}

/-- A step that asks about no symbol, and is no purge, has the same answer on desks with the same
clock and the same lifetime. -/
theorem sameAnswer_of_no_symbol (clock : d'.clock = d.clock)
    (lifetime : d'.cache.lifetime = d.cache.lifetime) (none : s.symbol? = none)
    (other : s ≠ .purge) : SameAnswer s ((step p s).outcome d).1 ((step p s).outcome d').1 := by
  cases s with
  | advance nanos =>
    rw [outcome_step_advance, outcome_step_advance, clock]
    exact .equal
  | purge => exact absurd rfl other
  | clear => exact .equal
  | isEmpty => exact .isEmpty _ _
  | lifetime =>
    have first : ((step p .lifetime).outcome d).1 = .ok (.lifetime d.cache.lifetime) := rfl
    have second : ((step p .lifetime).outcome d').1 = .ok (.lifetime d'.cache.lifetime) := rfl
    rw [first, second, lifetime]
    exact .equal
  | history s text =>
    have unknown : Period.ofText? text = Option.none := Option.map_eq_none_iff.1 none
    have refused : ∀ d : Desk W, ((step p (.history s text)).outcome d).1 =
        .error (.error (.invalidPeriod text)) := by
      intro d
      show ((Session.period text >>= _).outcome d).1 = _
      rw [Session.period, unknown]
      rfl
    rw [refused, refused]
    exact .equal
  | http method target =>
    rcases outcome_of_not_requested (Option.map_eq_none_iff.1 none) with
      ⟨answer, same⟩ | ⟨get, health, report⟩
    · rw [same, same]
      exact .equal
    · rw [report, report]
      exact .health _ _ get health
  | acquire s => cases none
  | dividends s => cases none
  | info s => cases none
  | rawHistory s text => cases none
  | rawDividends s => cases none
  | rawInfo s => cases none

/-- A step other than a purge has the same answer on desks that agree, and they agree after it. -/
theorem agree_after (a : d.Agree d') (other : s ≠ .purge)
    (forward : d.now.nanos ≤ (momentOf p s d).after.now.nanos) :
    SameAnswer s (momentOf p s d).outcome (momentOf p s d').outcome ∧
      (momentOf p s d).after.Agree (momentOf p s d').after := by
  cases asked : s.symbol? with
  | none =>
    have left : (momentOf p s d).after = s.upkeep d := after_of_no_symbol p asked d
    have right : (momentOf p s d').after = s.upkeep d' := after_of_no_symbol p asked d'
    rw [left] at forward
    rw [left, right]
    exact ⟨sameAnswer_of_no_symbol a.clock a.lifetime asked other, a.upkeep forward⟩
  | some symbol =>
    obtain ⟨α, q, report, inquiry, outcome⟩ := outcome_of_symbol? p asked
    obtain ⟨same, agree, -⟩ := a.inquiry inquiry
    have left : (momentOf p s d).outcome = report (q.outcome d).1 ∧
        (momentOf p s d).after = (q.outcome d).2 := by
      simp only [momentOf, outcome, and_self]
    have right : (momentOf p s d').outcome = report (q.outcome d').1 ∧
        (momentOf p s d').after = (q.outcome d').2 := by
      simp only [momentOf, outcome, and_self]
    rw [left.1, left.2, right.1, right.2, same]
    exact ⟨.equal, agree⟩

end Steps

/-! ## Runs -/

/-- The step is no purge. -/
def isNoPurge (s : Step) : Bool := decide (s ≠ .purge)

/-- The lists of steps differ in purges only. -/
inductive SameButPurges : List Step → List Step → Prop where
  | nil : SameButPurges [] []
  | left {l l' : List Step} : SameButPurges l l' → SameButPurges (.purge :: l) l'
  | right {l l' : List Step} : SameButPurges l l' → SameButPurges l (.purge :: l')
  | both {l l' : List Step} {s : Step} : s ≠ .purge → SameButPurges l l' →
      SameButPurges (s :: l) (s :: l')

theorem isNoPurge_eq_false {s : Step} (h : ¬ isNoPurge s = true) : s = .purge := by
  simpa [isNoPurge] using h

/-- Lists with the same steps other than purges differ in purges only. -/
theorem sameButPurges_of_filter_eq :
    ∀ {l l' : List Step}, l.filter isNoPurge = l'.filter isNoPurge → SameButPurges l l'
  | [], [], _ => .nil
  | [], s :: l', h => by
    by_cases other : isNoPurge s = true
    · rw [List.filter_cons_of_pos other] at h
      cases h
    · rw [List.filter_cons_of_neg other] at h
      rw [isNoPurge_eq_false other]
      exact .right (sameButPurges_of_filter_eq h)
  | s :: l, [], h => by
    by_cases other : isNoPurge s = true
    · rw [List.filter_cons_of_pos other] at h
      cases h
    · rw [List.filter_cons_of_neg other] at h
      rw [isNoPurge_eq_false other]
      exact .left (sameButPurges_of_filter_eq h)
  | s :: l, s' :: l', h => by
    by_cases other : isNoPurge s = true
    · by_cases other' : isNoPurge s' = true
      · rw [List.filter_cons_of_pos other, List.filter_cons_of_pos other'] at h
        obtain ⟨rfl, rest⟩ := List.cons.inj h
        exact .both (of_decide_eq_true other) (sameButPurges_of_filter_eq rest)
      · rw [List.filter_cons_of_neg other'] at h
        rw [isNoPurge_eq_false other']
        exact .right (sameButPurges_of_filter_eq h)
    · rw [List.filter_cons_of_neg other] at h
      rw [isNoPurge_eq_false other]
      exact .left (sameButPurges_of_filter_eq h)

/-- In both moments the same happens, apart from the number of entries. -/
structure SameMoment (m m' : Moment (CacheLog.Recorded W)) : Prop where
  step : m'.step = m.step
  clock : m'.before.clock = m.before.clock
  answer : SameAnswer m.step m.outcome m'.outcome
  /-- The provider is asked for the same openings, which end in the same way. -/
  openings : m'.openings = m.openings
  /-- Whatever the provider keeps is the same. -/
  world : m'.after.world = m.after.world

/-- The moments of the steps other than purges. -/
def others (ms : List (Moment W)) : List (Moment W) := ms.filter fun m => isNoPurge m.step

theorem others_cons_purge {m : Moment W} (purge : m.step = .purge) (ms : List (Moment W)) :
    others (m :: ms) = others ms := by
  simp [others, isNoPurge, purge]

theorem others_cons {m : Moment W} (other : m.step ≠ .purge) (ms : List (Moment W)) :
    others (m :: ms) = m :: others ms := by
  simp [others, isNoPurge, other]

section Runs

variable {p : Provider W}

/-- The same happens in a step other than a purge on desks that agree. -/
theorem sameMoment {d d' : Desk (CacheLog.Recorded W)} {s : Step} (a : d.Agree d')
    (answer : SameAnswer s (momentOf (CacheLog.recorded p) s d).outcome
      (momentOf (CacheLog.recorded p) s d').outcome)
    (after : (momentOf (CacheLog.recorded p) s d).after.Agree
      (momentOf (CacheLog.recorded p) s d').after) :
    SameMoment (momentOf (CacheLog.recorded p) s d) (momentOf (CacheLog.recorded p) s d') where
  step := rfl
  clock := a.clock
  answer := answer
  openings := by
    have before : (momentOf (CacheLog.recorded p) s d').before.world =
        (momentOf (CacheLog.recorded p) s d).before.world := a.world
    rw [Moment.openings, Moment.openings, before, after.world]
  world := after.world

/-- From desks that agree, runs that differ in purges only go on in the same way. -/
theorem sameMoments {steps steps' : List Step} (same : SameButPurges steps steps') :
    ∀ {d d' : Desk (CacheLog.Recorded W)}, d.Agree d' →
      Forward (moments (CacheLog.recorded p) steps d) →
      List.Forall₂ SameMoment (others (moments (CacheLog.recorded p) steps d))
        (others (moments (CacheLog.recorded p) steps' d')) := by
  induction same with
  | nil => exact fun _ _ => .nil
  | left _ ih =>
    intro d d' a forward
    rw [moments_cons, forward_cons] at forward
    rw [moments_cons, others_cons_purge rfl]
    exact ih a.purge_left forward.2
  | right _ ih =>
    intro d d' a forward
    rw [moments_cons _ .purge, others_cons_purge rfl]
    exact ih a.purge_right forward
  | @both l l' s other _ ih =>
    intro d d' a forward
    rw [moments_cons, forward_cons] at forward
    obtain ⟨answer, after⟩ := agree_after a other forward.1
    rw [moments_cons, moments_cons, others_cons other, others_cons other]
    exact .cons (sameMoment a answer after) (ih after forward.2)

end Runs

/-- **Purging is invisible.** When the clock never moves backward in a run from an empty cache,
purges can be left out or put in anywhere: the other steps have the same answers, apart from
numbers of entries, and the provider is asked for the same openings, at the same steps. -/
theorem purges_are_invisible (p : Provider W) (clock : Clock) (lifetime : Lifetime) (world : W)
    {steps steps' : List Step} (same : steps.filter isNoPurge = steps'.filter isNoPurge)
    (forward : Forward (moments (CacheLog.recorded p) steps (fresh clock lifetime ⟨world, []⟩))) :
    List.Forall₂ SameMoment
      (others (moments (CacheLog.recorded p) steps (fresh clock lifetime ⟨world, []⟩)))
      (others (moments (CacheLog.recorded p) steps' (fresh clock lifetime ⟨world, []⟩))) := by
  apply sameMoments (sameButPurges_of_filter_eq same)
  · exact .refl (Cache.keyed_empty lifetime)
  · exact forward

/-- A handle expires, is purged in one of the runs only, and is replaced; later purges meet a fresh
handle. -/
theorem purges_are_invisible_expired :
    List.Forall₂ SameMoment
      (others (moments (CacheLog.recorded (Canned.uniform (.failing (.other "down"))).provider)
        [.acquire ⟨"A"⟩, .advance 2000000000, .purge, .isEmpty, .info ⟨"A"⟩]
        (fresh ⟨.epoch, true⟩ (.ofParts 1 0) ⟨⟨0, 0⟩, []⟩)))
      (others (moments (CacheLog.recorded (Canned.uniform (.failing (.other "down"))).provider)
        [.acquire ⟨"A"⟩, .purge, .advance 2000000000, .isEmpty, .info ⟨"A"⟩, .purge]
        (fresh ⟨.epoch, true⟩ (.ofParts 1 0) ⟨⟨0, 0⟩, []⟩))) :=
  purges_are_invisible (Canned.uniform (.failing (.other "down"))).provider ⟨.epoch, true⟩ (.ofParts 1 0)
    ⟨0, 0⟩ (by decide) (by decide)

end Session

end MarketDesk
