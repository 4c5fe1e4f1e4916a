import MarketDesk.Proofs.Session.Moments

/-!
# What a step does to the cache

`deed` says once which handle a step is given, which openings it asks for, and what it does to the
entries of the cache: upkeep opens nothing, a fresh handle is served without any change, and
otherwise there is one opening, after which a new handle takes the place of an earlier one, or
nothing is stored. Questions through the handle add nothing to this.

`reached` is the desk that a run reaches. What holds of every reachable desk is proved by adding one
step at the end of a run; `exists_steps_of_split` finds the step of any moment of a run.
-/

namespace MarketDesk

open MarketDesk.CacheLog (Recorded recorded)

variable {W α : Type} {p : Provider W} {s : Symbol} {h : Handle}

/-! ## Openings -/

/-- Questions open nothing. -/
theorem CacheLog.recorded_leaves (p : Provider W) : (recorded p).Leaves Recorded.openings where
  history _ _ _ := rfl
  dividends _ _ := rfl
  info _ _ := rfl

/-- An inquiry asks for the openings that acquiring asks for. -/
theorem Inquiry.openings {q : Query (Desk (Recorded W)) α} (inquiry : Inquiry (recorded p) s q)
    (d : Desk (Recorded W)) :
    (q.outcome d).2.world.openings =
      ((Desk.acquire (recorded p) s).outcome d).2.world.openings :=
  inquiry.keeps (CacheLog.recorded_leaves p) d

namespace Session

/-! ## Deeds -/

/-- The handle that a moment is given, if its step asks about a symbol. -/
def Moment.given? (p : Provider W) (m : Moment W) : Option Handle :=
  m.step.symbol?.bind fun s => ((Desk.acquire p s).outcome m.before).1.toOption

theorem outcome_acquire (p : Provider W) (s : Symbol) (d : Desk W) :
    (momentOf p (.acquire s) d).outcome =
      ((Desk.acquire p s).outcome d).1.map Answer.handle :=
  congrArg Prod.fst (Query.outcome_map Answer.handle (Desk.acquire p s) d)

/-- Nothing is opened by a step that asks about no symbol. -/
theorem openings_of_no_symbol {step : Step} (idle : step.symbol? = none)
    (d : Desk (Recorded W)) : (momentOf (recorded p) step d).openings = [] := by
  have after : (momentOf (recorded p) step d).after = step.upkeep d :=
    after_of_no_symbol _ idle d
  rw [Moment.openings, after, Step.upkeep_world]
  exact List.drop_length

/-- A step that asks about a symbol leaves what acquiring a handle for the symbol leaves, of a part
of the world that questions do not change. -/
theorem world_after {β : Type} {p : Provider W} {part : W → β} (leaves : p.Leaves part) {step : Step}
    (asked : step.symbol? = some s) (d : Desk W) :
    part (momentOf p step d).after.world = part ((Desk.acquire p s).outcome d).2.world := by
  obtain ⟨α, q, report, inquiry, outcome⟩ := outcome_of_symbol? p asked
  have after : (momentOf p step d).after = (q.outcome d).2 := congrArg Prod.snd (outcome d)
  rw [after]
  exact inquiry.keeps leaves d

/-- A step that asks about a symbol asks for the openings that acquiring a handle for the symbol asks
for. -/
theorem openings_of_symbol? {step : Step} (asked : step.symbol? = some s) (d : Desk (Recorded W)) :
    (momentOf (recorded p) step d).openings =
      ((Desk.acquire (recorded p) s).outcome d).2.world.openings.drop d.world.openings.length :=
  congrArg (List.drop d.world.openings.length) (world_after (CacheLog.recorded_leaves p) asked d)

/-- What a step can do on a desk: the handle that it is given, the openings that it asks for, and
the cache after it. -/
inductive Deed (p : Provider W) (step : Step) (d : Desk (Recorded W)) :
    Option Handle → List (Symbol × Except Fault Handle) → Cache → Prop where
  | upkeep : step.symbol? = none → Deed p step d none [] (step.upkeep d).cache
  | served {s : Symbol} {h : Handle} : step.symbol? = some s →
      d.cache.fresh? d.now s = some h → Deed p step d (some h) [] d.cache
  | refused {s : Symbol} {f : Fault} : step.symbol? = some s → d.cache.fresh? d.now s = none →
      ((p.create s).outcome d.world.world).1 = .error f →
      Deed p step d none [(s, .error f)] d.cache
  | opened {s : Symbol} {h : Handle} : step.symbol? = some s → d.cache.fresh? d.now s = none →
      ((p.create s).outcome d.world.world).1 = .ok h →
      Deed p step d (some h) [(s, .ok h)] (d.cache.insert s ⟨h, d.now⟩)

/-- Every step does one of these things. -/
theorem deed (p : Provider W) (step : Step) (d : Desk (Recorded W)) :
    Deed p step d ((momentOf (recorded p) step d).given? (recorded p))
      (momentOf (recorded p) step d).openings (momentOf (recorded p) step d).after.cache := by
  cases asked : step.symbol? with
  | none =>
    have after : (momentOf (recorded p) step d).after = step.upkeep d :=
      after_of_no_symbol _ asked d
    have ungiven : (momentOf (recorded p) step d).given? (recorded p) = none := by
      rw [Moment.given?, momentOf, asked, Option.bind_none]
    rw [openings_of_no_symbol asked, after, ungiven]
    exact .upkeep asked
  | some s =>
    have given : (momentOf (recorded p) step d).given? (recorded p) =
        ((Desk.acquire (recorded p) s).outcome d).1.toOption := by
      rw [Moment.given?, momentOf, asked, Option.bind_some]
    rw [given, openings_of_symbol? asked, (clock_cache_of_symbol? _ asked d).2]
    cases fresh : d.cache.fresh? d.now s with
    | some h =>
      rw [Desk.acquire_of_fresh fresh]
      show Deed p step d (some h) (d.world.openings.drop d.world.openings.length) d.cache
      rw [List.drop_length]
      exact .served asked fresh
    | none =>
      rw [Desk.acquire_of_not_fresh fresh, CacheLog.recorded_create]
      cases opening : ((p.create s).outcome d.world.world).1 with
      | error f =>
        show Deed p step d none
          ((d.world.openings ++ [(s, Except.error f)]).drop d.world.openings.length) d.cache
        rw [List.drop_left]
        exact .refused asked fresh opening
      | ok h =>
        show Deed p step d (some h)
          ((d.world.openings ++ [(s, Except.ok h)]).drop d.world.openings.length)
          (d.cache.insert s ⟨h, d.now⟩)
        rw [List.drop_left]
        exact .opened asked fresh opening

/-! ## Desks that runs reach -/

section Reached

variable {p : Provider W} {d : Desk W}

/-- The desk that a run reaches. -/
def reached (p : Provider W) : List Step → Desk W → Desk W
  | [], d => d
  | s :: steps, d => reached p steps (momentOf p s d).after

theorem moments_append (p : Provider W) (xs ys : List Step) (d : Desk W) :
    moments p (xs ++ ys) d = moments p xs d ++ moments p ys (reached p xs d) := by
  induction xs generalizing d with
  | nil => rfl
  | cons x xs ih =>
    rw [List.cons_append, moments_cons, moments_cons, List.cons_append, ih]
    rfl

theorem reached_append (p : Provider W) (xs ys : List Step) (d : Desk W) :
    reached p (xs ++ ys) d = reached p ys (reached p xs d) := by
  induction xs generalizing d with
  | nil => rfl
  | cons x xs ih => exact ih _

/-- One more step adds its moment on the desk that was reached. -/
theorem moments_concat (p : Provider W) (xs : List Step) (x : Step) (d : Desk W) :
    moments p (xs ++ [x]) d = moments p xs d ++ [momentOf p x (reached p xs d)] :=
  moments_append p xs [x] d

theorem reached_concat (p : Provider W) (xs : List Step) (x : Step) (d : Desk W) :
    reached p (xs ++ [x]) d = (momentOf p x (reached p xs d)).after :=
  reached_append p xs [x] d

/-- A moment of a run is that of a step on the desk that the earlier steps reach. -/
theorem exists_steps_of_split {steps : List Step} {earlier later : List (Moment W)}
    {m : Moment W} (split : moments p steps d = earlier ++ m :: later) :
    ∃ xs x ys, steps = xs ++ x :: ys ∧ moments p xs d = earlier ∧
      m = momentOf p x (reached p xs d) ∧ moments p ys m.after = later := by
  induction earlier generalizing steps d with
  | nil =>
    cases steps with
    | nil => cases split
    | cons x ys =>
      obtain ⟨rfl, rfl⟩ := List.cons.inj split
      exact ⟨[], x, ys, rfl, rfl, rfl, rfl⟩
  | cons first earlier ih =>
    cases steps with
    | nil => cases split
    | cons x steps =>
      obtain ⟨rfl, rest⟩ := List.cons.inj split
      obtain ⟨xs, y, ys, rfl, before, here, after⟩ := ih rest
      exact ⟨x :: xs, y, ys, rfl, congrArg _ before, here, after⟩

end Reached

end Session

end MarketDesk
