import Mathlib.Algebra.GroupWithZero.Nat
import Mathlib.Data.Finset.Card
import MarketDesk.Proofs.Desk.Fetching
import MarketDesk.Proofs.Session.Deeds
import MarketDesk.Proofs.Yahoo.DividendAge

/-!
# The accounts of the cache

What the cache holds after a run is accounted for by the moments of the run. `Balanced` says how:
an entry is that of the last opening for its symbol, stored at the time of that opening, and the
size is the number of openings that filled an empty place, less what purges and clearings took
away. Whatever one more step does, the accounts are balanced again.

A handle that was taken from the cache is not given any more, unless the provider opens it again.
Providers that number their handles never do.
-/

namespace MarketDesk

open MarketDesk.Calendar
open MarketDesk.CacheLog (Recorded recorded)

variable {W α : Type} {p : Provider W}

/-- A handle that is opened is for the symbol that was asked for. -/
def Provider.Labels (p : Provider W) : Prop :=
  ∀ s w h, ((p.create s).outcome w).1 = .ok h → h.symbol = s

namespace Cache

variable {c : Cache} {s : Symbol} {h : Handle}

/-- The handle is stored under some symbol. -/
def Holds (c : Cache) (h : Handle) : Prop := ∃ s e, (s, e) ∈ c.entries ∧ e.handle = h

theorem holds_of_fresh? {now : Instant} (fresh : c.fresh? now s = some h) : c.Holds h := by
  obtain ⟨e, young, rfl⟩ := Option.map_eq_some_iff.1 fresh
  exact ⟨s, e, mem_of_find? (Option.filter_eq_some_iff.1 young).1, rfl⟩

theorem isNone_find?_iff : (c.find? s).isNone = true ↔ s ∉ c.entries.map Prod.fst := by
  rw [find?, Option.isNone_map, Option.isNone_iff_eq_none, List.find?_eq_none]
  constructor
  · intro absent stored
    obtain ⟨x, mem, rfl⟩ := List.mem_map.1 stored
    exact absent x mem (beq_self_eq_true x.1)
  · intro absent x mem same
    exact absent (List.mem_map.2 ⟨x, mem, eq_of_beq same⟩)

theorem size_purge_le (c : Cache) (now : Instant) : (c.purge now).size ≤ c.size :=
  List.length_filter_le _ _

/-- A new entry takes the place of an earlier one, or adds one to the size. -/
theorem size_insert (keyed : c.Keyed) (s : Symbol) (e : Entry) :
    (c.insert s e).size = c.size + if (c.find? s).isNone then 1 else 0 := by
  have parts : c.size = (c.entries.filter fun x => x.1 == s).length +
      (c.entries.filter fun x => x.1 != s).length := List.length_eq_length_filter_add _
  have inserted : (c.insert s e).size = (c.entries.filter fun x => x.1 != s).length + 1 := rfl
  have once : (c.entries.filter fun x => x.1 == s).length =
      if s ∈ c.entries.map Prod.fst then 1 else 0 := by
    rw [← List.countP_eq_length_filter, ← keyed.count, List.count_eq_countP, List.countP_map]
    rfl
  by_cases absent : s ∈ c.entries.map Prod.fst
  · have taken : ¬ (c.find? s).isNone = true := fun none => isNone_find?_iff.1 none absent
    rw [if_pos absent] at once
    rw [if_neg taken]
    omega
  · rw [if_neg absent] at once
    rw [if_pos (isNone_find?_iff.2 absent)]
    omega

end Cache

namespace Session

/-! ## What a moment does to the accounts -/

/-- The openings that succeeded, each with its handle. -/
def successes (openings : List (Symbol × Except Fault Handle)) : List (Symbol × Handle) :=
  openings.filterMap fun o => o.2.toOption.map (Prod.mk o.1)

/-- The number of successful openings that fill an empty place of a cache. -/
def filledIn (c : Cache) (openings : List (Symbol × Except Fault Handle)) : Nat :=
  (successes openings).countP fun o => (c.find? o.1).isNone

namespace Moment

/-- The handles that were opened in a moment, each with its symbol. -/
def opened (m : Moment (Recorded W)) : List (Symbol × Handle) := successes m.openings

/-- The number of openings in a moment that filled an empty place. -/
def filled (m : Moment (Recorded W)) : Nat := filledIn m.before.cache m.openings

/-- The number that a purge answered. -/
def purged (m : Moment W) : Nat :=
  match m.step, m.outcome with
  | .purge, .ok (.removed n) => n
  | _, _ => 0

/-- The number of entries that were cleared away. -/
def cleared (m : Moment W) : Nat :=
  match m.step with
  | .clear => m.before.cache.size
  | _ => 0

/-- The handle was stored before the moment and is not stored after it. -/
def Removes (m : Moment W) (h : Handle) : Prop := m.before.cache.Holds h ∧ ¬ m.after.cache.Holds h

end Moment

section Deeds

variable {step : Step} {d : Desk (Recorded W)} {given : Option Handle}
  {openings : List (Symbol × Except Fault Handle)} {cache : Cache} {s : Symbol} {h : Handle}

namespace Deed

/-- An entry was there before, and nothing was opened for its symbol, or it is that of a handle
that was opened. -/
theorem mem_entries (deed : Deed p step d given openings cache) {e : Entry}
    (stored : (s, e) ∈ cache.entries) :
    ((s, e) ∈ d.cache.entries ∧ ∀ h, (s, h) ∉ successes openings) ∨
      ((s, e.handle) ∈ successes openings ∧ e.created = d.now) := by
  cases deed with
  | upkeep => exact Or.inl ⟨Step.mem_of_mem_upkeep stored, fun h => List.not_mem_nil⟩
  | served => exact Or.inl ⟨stored, fun h => List.not_mem_nil⟩
  | refused => exact Or.inl ⟨stored, fun h => List.not_mem_nil⟩
  | opened =>
    rcases Cache.mem_insert_iff.1 stored with ⟨rfl, rfl⟩ | ⟨other, before⟩
    · exact Or.inr ⟨List.mem_singleton_self _, rfl⟩
    · refine Or.inl ⟨before, fun h mem => other ?_⟩
      exact congrArg Prod.fst (List.mem_singleton.1 mem)

theorem symbol_of_opened (deed : Deed p step d given openings cache) (labels : p.Labels)
    (opened : (s, h) ∈ successes openings) : h.symbol = s := by
  cases deed with
  | upkeep => cases opened
  | served => cases opened
  | refused => cases opened
  | opened asked stale opening =>
    obtain ⟨rfl, rfl⟩ := Prod.mk.inj (List.mem_singleton.1 opened)
    exact labels _ _ _ opening

/-- A handle that is given was stored, or has been opened. -/
theorem holds_or_opened (deed : Deed p step d (some h) openings cache) :
    d.cache.Holds h ∨ ∃ s, (s, h) ∈ successes openings := by
  cases deed with
  | served asked fresh => exact Or.inl (Cache.holds_of_fresh? fresh)
  | @opened s h asked stale opening => exact Or.inr ⟨s, List.mem_singleton_self _⟩

/-- The openings that filled an empty place add to what upkeep leaves. -/
theorem size (deed : Deed p step d given openings cache) (keyed : d.cache.Keyed) :
    cache.size = (step.upkeep d).cache.size + filledIn d.cache openings := by
  cases deed with
  | upkeep asked => rfl
  | served asked fresh =>
    rw [upkeep_of_symbol? asked]
    rfl
  | refused asked stale opening =>
    rw [upkeep_of_symbol? asked]
    rfl
  | opened asked stale opening =>
    rw [upkeep_of_symbol? asked, Cache.size_insert keyed]
    exact congrArg _ (List.countP_singleton ..).symm

end Deed

/-- Purges and clearings count what upkeep takes away. -/
theorem size_upkeep (p : Provider W) (step : Step) (d : Desk W) :
    (step.upkeep d).cache.size + (momentOf p step d).purged + (momentOf p step d).cleared =
      d.cache.size := by
  cases step with
  | purge =>
    have fewer := d.cache.size_purge_le d.now
    show (d.cache.purge d.now).size + (d.cache.size - (d.cache.purge d.now).size) + 0 = _
    omega
  | clear =>
    show 0 + 0 + d.cache.size = d.cache.size
    omega
  | _ => rfl

theorem size_after (p : Provider W) (step : Step) (keyed : d.cache.Keyed) :
    (momentOf (recorded p) step d).after.cache.size + (momentOf (recorded p) step d).purged +
      (momentOf (recorded p) step d).cleared =
      d.cache.size + (momentOf (recorded p) step d).filled := by
  have left := (deed p step d).size keyed
  have taken := size_upkeep (recorded p) step d
  have filled : (momentOf (recorded p) step d).filled =
    filledIn d.cache (momentOf (recorded p) step d).openings := rfl
  omega

end Deeds

/-! ## The balance -/

/-- The last successful opening for the symbol opened the handle, at the time. -/
def LastOpened (ms : List (Moment (Recorded W))) (s : Symbol) (h : Handle) (t : Instant) : Prop :=
  ∃ earlier m later, ms = earlier ++ m :: later ∧ (s, h) ∈ m.opened ∧ m.before.now = t ∧
    ∀ m' ∈ later, ∀ h', (s, h') ∉ m'.opened

/-- The entries and their number are what the moments of a run account for. -/
structure Balanced (ms : List (Moment (Recorded W))) (d : Desk (Recorded W)) : Prop where
  /-- No symbol has two entries. -/
  keyed : d.cache.Keyed
  /-- A handle is stored under its own symbol. -/
  labelled : ∀ s e, (s, e) ∈ d.cache.entries → e.handle.symbol = s
  /-- An entry is that of the last opening for its symbol, with the time of that opening. -/
  timed : ∀ s e, (s, e) ∈ d.cache.entries → LastOpened ms s e.handle e.created
  /-- What filled an empty place is still there, or was purged or cleared away. -/
  size : d.cache.size + (ms.map Moment.purged).sum + (ms.map Moment.cleared).sum =
    (ms.map Moment.filled).sum

section Balance

variable {ms : List (Moment (Recorded W))} {m : Moment (Recorded W)} {d : Desk (Recorded W)}
  {s : Symbol} {h : Handle} {t : Instant}

theorem LastOpened.concat (last : LastOpened ms s h t) (unopened : ∀ h', (s, h') ∉ m.opened) :
    LastOpened (ms ++ [m]) s h t := by
  obtain ⟨earlier, x, later, rfl, opened, time, since⟩ := last
  refine ⟨earlier, x, later ++ [m], by simp, opened, time, fun m' mem => ?_⟩
  rcases List.mem_append.1 mem with before | here
  · exact since m' before
  · rw [List.mem_singleton.1 here]
    exact unopened

theorem LastOpened.of_opened (opened : (s, h) ∈ m.opened) :
    LastOpened (ms ++ [m]) s h m.before.now :=
  ⟨ms, m, [], rfl, opened, rfl, fun _ mem => by cases mem⟩

theorem LastOpened.mem (last : LastOpened ms s h t) : (s, h) ∈ ms.flatMap Moment.opened := by
  obtain ⟨earlier, m, later, rfl, opened, -, -⟩ := last
  exact List.mem_flatMap.2 ⟨m, by simp, opened⟩

theorem Balanced.fresh (clock : Clock) (lifetime : Lifetime) (world : W) :
    Balanced [] (Session.fresh clock lifetime (Recorded.mk world [])) where
  keyed := Cache.keyed_empty lifetime
  labelled _ _ stored := by cases stored
  timed _ _ stored := by cases stored
  size := rfl

/-- One more step keeps the balance. -/
theorem Balanced.step (balanced : Balanced ms d) (labels : p.Labels) (step : Step) :
    Balanced (ms ++ [momentOf (recorded p) step d]) (momentOf (recorded p) step d).after := by
  have did := deed p step d
  constructor
  · exact keyed_after _ step balanced.keyed
  · intro s e stored
    rcases did.mem_entries stored with ⟨before, -⟩ | ⟨opened, -⟩
    · exact balanced.labelled s e before
    · exact did.symbol_of_opened labels opened
  · intro s e stored
    rcases did.mem_entries stored with ⟨before, unopened⟩ | ⟨opened, now⟩
    · exact (balanced.timed s e before).concat unopened
    · rw [now]
      exact .of_opened opened
  · have before := balanced.size
    have here := size_after p step balanced.keyed
    simp only [List.map_append, List.sum_append, List.map_singleton, List.sum_singleton]
    omega

theorem Balanced.run (labels : p.Labels) (clock : Clock) (lifetime : Lifetime) (world : W)
    (steps : List Step) :
    Balanced (moments (recorded p) steps (Session.fresh clock lifetime ⟨world, []⟩))
      (reached (recorded p) steps (Session.fresh clock lifetime ⟨world, []⟩)) := by
  induction steps using List.reverseRecOn with
  | nil => exact .fresh clock lifetime world
  | append_singleton steps step ih =>
    rw [moments_concat, reached_concat]
    exact ih.step labels step

/-- Handles tell under which symbol they are stored. -/
theorem Balanced.sole (balanced : Balanced ms d) {s s' : Symbol} {e e' : Entry}
    (stored : (s, e) ∈ d.cache.entries) (stored' : (s', e') ∈ d.cache.entries)
    (same : e.handle = e'.handle) : s = s' := by
  rw [← balanced.labelled s e stored, same, balanced.labelled s' e' stored']

/-- There are no more entries than symbols for which an opening succeeded. -/
theorem Balanced.size_le (balanced : Balanced ms d) :
    d.cache.size ≤ ((ms.flatMap Moment.opened).map Prod.fst).toFinset.card := by
  have distinct : (d.cache.entries.map Prod.fst).toFinset.card = d.cache.size := by
    rw [List.toFinset_card_of_nodup balanced.keyed, List.length_map, Cache.size]
  rw [← distinct]
  apply Finset.card_le_card
  intro s stored
  obtain ⟨⟨s, e⟩, mem, rfl⟩ := List.mem_map.1 (List.mem_toFinset.1 stored)
  exact List.mem_toFinset.2 (List.mem_map.2 ⟨_, (balanced.timed s e mem).mem, rfl⟩)

/-- A handle that was stored had been opened. -/
theorem Balanced.opened_of_holds (balanced : Balanced ms d) (held : d.cache.Holds h) :
    h ∈ (ms.flatMap Moment.opened).map Prod.snd := by
  obtain ⟨s, e, stored, rfl⟩ := held
  exact List.mem_map.2 ⟨_, (balanced.timed s e stored).mem, rfl⟩

end Balance

/-! ## Handles that left the cache -/

section Departed

variable {d : Desk (Recorded W)} {h : Handle}

/-- A handle that is not stored comes back only when it is opened. -/
theorem not_given_of_unopened (steps : List Step) {d : Desk (Recorded W)}
    (absent : ¬ d.cache.Holds h)
    (unopened : ∀ m ∈ moments (recorded p) steps d, h ∉ m.opened.map Prod.snd) :
    ∀ m ∈ moments (recorded p) steps d, m.given? (recorded p) ≠ some h := by
  induction steps generalizing d with
  | nil => exact fun _ mem => by cases mem
  | cons step steps ih =>
    rw [moments_cons] at unopened ⊢
    obtain ⟨here, later⟩ := List.forall_mem_cons.1 unopened
    have did := deed p step d
    have unopenedHere : ∀ s, (s, h) ∉ (momentOf (recorded p) step d).opened :=
      fun s opened => here (List.mem_map.2 ⟨_, opened, rfl⟩)
    refine List.forall_mem_cons.2 ⟨fun given => ?_, ih ?_ later⟩
    · rw [given] at did
      rcases did.holds_or_opened with held | ⟨s, opened⟩
      · exact absent held
      · exact unopenedHere s opened
    · rintro ⟨s, e, stored, rfl⟩
      rcases did.mem_entries stored with ⟨before, -⟩ | ⟨opened, -⟩
      · exact absent ⟨s, e, before, rfl⟩
      · exact unopenedHere s opened

/-- A handle that was taken away and is given again has been opened again by then. -/
theorem opened_of_given_again {steps : List Step} {earlier since later : List (Moment (Recorded W))}
    {m m' : Moment (Recorded W)}
    (split : moments (recorded p) steps d = earlier ++ m :: (since ++ m' :: later))
    (removed : m.Removes h) (given : m'.given? (recorded p) = some h) :
    ∃ x ∈ since ++ [m'], h ∈ x.opened.map Prod.snd := by
  obtain ⟨-, -, rest, -, -, -, after⟩ := exists_steps_of_split split
  obtain ⟨ys, y, -, -, between, here, -⟩ := exists_steps_of_split after
  have upTo : moments (recorded p) (ys ++ [y]) m.after = since ++ [m'] := by
    rw [moments_concat, between, ← here]
  by_contra! unopened
  rw [← upTo] at unopened
  refine not_given_of_unopened _ removed.2 unopened m' ?_ given
  rw [upTo]
  exact List.mem_append_right _ (List.mem_singleton_self m')

/-- If no two openings give one handle, a handle that was taken away is never given again. -/
theorem not_given_again {steps : List Step} {earlier later : List (Moment (Recorded W))}
    {m : Moment (Recorded W)}
    (balanced : ∀ xs, Balanced (moments (recorded p) xs d) (reached (recorded p) xs d))
    (distinct : (((moments (recorded p) steps d).flatMap Moment.opened).map Prod.snd).Nodup)
    (split : moments (recorded p) steps d = earlier ++ m :: later) (removed : m.Removes h) :
    ∀ m' ∈ later, m'.given? (recorded p) ≠ some h := by
  intro m' after given
  obtain ⟨since, rest, rfl⟩ := List.append_of_mem after
  obtain ⟨x, mem, again⟩ := opened_of_given_again split removed given
  -- The handle was opened before it was taken away, and a second time afterwards.
  obtain ⟨xs, y, ys, -, before, rfl, -⟩ := exists_steps_of_split split
  have first := (balanced xs).opened_of_holds removed.1
  rw [before] at first
  have second : h ∈ ((since ++ [m']).flatMap Moment.opened).map Prod.snd := by
    obtain ⟨o, opened, rfl⟩ := List.mem_map.1 again
    exact List.mem_map.2 ⟨o, List.mem_flatMap.2 ⟨x, mem, opened⟩, rfl⟩
  rw [split, List.flatMap_append, List.map_append] at distinct
  refine (List.nodup_append.1 distinct).2.2 h first h ?_ rfl
  simp only [List.flatMap_cons, List.flatMap_append, List.map_append, List.mem_append] at second ⊢
  tauto

end Departed

end Session

/-! ## Providers that number their handles -/

/-- The provider counts the handles that it opens, and gives each the count as its number. -/
structure Provider.Numbers (p : Provider W) (count : W → Nat) : Prop extends p.Leaves count where
  create : ∀ s w,
    (∃ h w', (p.create s).outcome w = (.ok h, w') ∧ h.serial = count w ∧ count w' = count w + 1) ∨
      ∃ f w', (p.create s).outcome w = (.error f, w') ∧ count w' = count w

namespace Provider.Numbers

open MarketDesk.Session

variable {count : W → Nat} {s : Symbol}

theorem recorded_leaves (numbers : p.Numbers count) :
    (recorded p).Leaves fun r => count r.world where
  history h period r := numbers.history h period r.world
  dividends h r := numbers.dividends h r.world
  info h r := numbers.info h r.world

/-- A step opens nothing and leaves the count, or opens the handle with the next number. -/
theorem step (numbers : p.Numbers count) {step : Step} {d : Desk (Recorded W)}
    {given : Option Handle} {openings : List (Symbol × Except Fault Handle)} {cache : Cache}
    (deed : Deed p step d given openings cache) :
    (successes openings = [] ∧
        count (momentOf (recorded p) step d).after.world.world = count d.world.world) ∨
      ∃ s h, successes openings = [(s, h)] ∧ h.serial = count d.world.world ∧
        count (momentOf (recorded p) step d).after.world.world = count d.world.world + 1 := by
  have asking : ∀ s, step.symbol? = some s →
      count (momentOf (recorded p) step d).after.world.world =
        count ((Desk.acquire (recorded p) s).outcome d).2.world.world :=
    fun s asked => world_after numbers.recorded_leaves asked d
  cases deed with
  | upkeep asked =>
    have after : (momentOf (recorded p) step d).after = step.upkeep d :=
      after_of_no_symbol _ asked d
    refine Or.inl ⟨rfl, ?_⟩
    rw [after, Step.upkeep_world]
  | served asked fresh =>
    refine Or.inl ⟨rfl, ?_⟩
    rw [asking _ asked, Desk.acquire_of_fresh fresh]
  | @refused s f asked stale opening =>
    refine Or.inl ⟨rfl, ?_⟩
    rw [asking _ asked, Desk.acquire_of_not_fresh stale, CacheLog.recorded_create, opening]
    rcases numbers.create s d.world.world with ⟨h, w', created, -, -⟩ | ⟨f', w', refused, same⟩
    · rw [created] at opening
      cases opening
    · rw [refused]
      exact same
  | @opened s h asked stale opening =>
    refine Or.inr ⟨s, h, rfl, ?_⟩
    rw [asking _ asked, Desk.acquire_of_not_fresh stale, CacheLog.recorded_create, opening]
    rcases numbers.create s d.world.world with ⟨h', w', created, number, more⟩ | ⟨f, w', refused, -⟩
    · rw [created] at opening ⊢
      cases opening
      exact ⟨number, more⟩
    · rw [refused] at opening
      cases opening

/-- The handles of a run are numbered one after the other. -/
theorem serials (numbers : p.Numbers count) (steps : List Step) (d : Desk (Recorded W)) :
    ∃ n, ((moments (recorded p) steps d).flatMap Moment.opened).map (fun o => o.2.serial) =
      List.range' (count d.world.world) n := by
  induction steps generalizing d with
  | nil => exact ⟨0, rfl⟩
  | cons step steps ih =>
    obtain ⟨n, later⟩ := ih (momentOf (recorded p) step d).after
    rw [moments_cons, List.flatMap_cons, List.map_append, later]
    rcases numbers.step (deed p step d) with ⟨unopened, same⟩ | ⟨s, h, opened, number, more⟩
    · refine ⟨n, ?_⟩
      rw [Moment.opened, unopened, same]
      rfl
    · refine ⟨n + 1, ?_⟩
      rw [Moment.opened, opened, more, List.range'_succ, ← number]
      rfl

/-- No two openings of a run give one handle. -/
theorem distinct (numbers : p.Numbers count) (steps : List Step) (d : Desk (Recorded W)) :
    (((moments (recorded p) steps d).flatMap Moment.opened).map Prod.snd).Nodup := by
  obtain ⟨n, serials⟩ := numbers.serials steps d
  apply List.Nodup.of_map Handle.serial
  rw [List.map_map]
  exact serials ▸ List.nodup_range'

end Provider.Numbers

namespace Canned

theorem answer_created (c : Canned) (h : Handle) (part : Script → Except DataError α) (w : Tally) :
    ((c.answer h part).outcome w).2.created = w.created := by
  rw [answer_outcome]

theorem provider_labels (c : Canned) : c.provider.Labels := by
  intro s w h opened
  cases known : c.script s with
  | error f =>
    rw [create_of_error known] at opened
    cases opened
  | ok script =>
    rw [create_of_ok known] at opened
    cases opened
    rfl

theorem provider_numbers (c : Canned) : c.provider.Numbers Tally.created where
  create s w := by
    cases known : c.script s with
    | error f => exact Or.inr ⟨f, w, create_of_error known w, rfl⟩
    | ok script => exact Or.inl ⟨_, _, create_of_ok known w, rfl, rfl⟩
  history h period w := c.answer_created h _ w
  dividends h w := c.answer_created h _ w
  info h w := c.answer_created h _ w

end Canned

namespace Yahoo

theorem provider_labels (e : Endpoints) : (provider e).Labels := by
  intro s w h opened
  cases opened
  rfl

theorem provider_numbers (e : Endpoints) : (provider e).Numbers World.opened where
  create s w := Or.inl ⟨_, _, rfl, rfl, rfl⟩
  history h period w := (DividendAge.KeepsDividends.history e period w).opened
  dividends h w := by
    obtain ⟨rs, log, told⟩ := DividendAge.dividends_told e h ⟨w, []⟩
    exact told.opened
  info h w := (DividendAge.KeepsDividends.info e w).opened

end Yahoo

/-! ## The accounts -/

namespace Session

/-- What a run says of the desk that it reaches. -/
structure Accounts (p : Provider W) (ms : List (Moment (Recorded W))) (d : Desk (Recorded W)) :
    Prop extends Balanced ms d where
  /-- No handle is stored under two symbols. -/
  sole : ∀ s e s' e', (s, e) ∈ d.cache.entries → (s', e') ∈ d.cache.entries →
    e.handle = e'.handle → s = s'
  /-- There are no more entries than symbols for which an opening succeeded. -/
  bounded : d.cache.size ≤ ((ms.flatMap Moment.opened).map Prod.fst).toFinset.card
  /-- The server reports the number of entries. -/
  reported : ∀ method target, Http.Method.ofText? method = some .get →
    Http.Target.path? target.toList = some "/health".toList →
    (momentOf (recorded p) (.http method target) d).outcome =
      .ok (.response (healthReport d.cache.size))
  /-- A handle that was taken away and is given again has been opened again by then. -/
  reopened : ∀ earlier m since m' later h, ms = earlier ++ m :: (since ++ m' :: later) →
    m.Removes h → m'.given? (recorded p) = some h →
    ∃ x ∈ since ++ [m'], h ∈ x.opened.map Prod.snd
  /-- If no two openings give one handle, a handle that was taken away is never given again. -/
  gone : ((ms.flatMap Moment.opened).map Prod.snd).Nodup →
    ∀ earlier m later h, ms = earlier ++ m :: later → m.Removes h →
      ∀ m' ∈ later, m'.given? (recorded p) ≠ some h

/-- **The accounts of the cache.** When handles are for the symbols that they are opened for, then
after every run from an empty cache each symbol has at most one entry, each entry is that of the
last opening for its symbol, and the size is the number of openings that filled an empty place,
less what was purged and cleared. A handle that was replaced, purged or cleared away does not come
back, whatever the clock does. -/
theorem cache_accounts (p : Provider W) (labels : p.Labels) (clock : Clock) (lifetime : Lifetime)
    (world : W) (steps : List Step) :
    Accounts p (moments (recorded p) steps (fresh clock lifetime ⟨world, []⟩))
      (reached (recorded p) steps (fresh clock lifetime ⟨world, []⟩)) := by
  have balanced := Balanced.run labels clock lifetime world
  refine ⟨balanced steps, ?_, (balanced steps).size_le, ?_, ?_, ?_⟩
  · intro s e s' e' stored stored' same
    exact (balanced steps).sole stored stored' same
  · intro method target get health
    exact congrArg Prod.fst (outcome_health get health (recorded p) _)
  · intro earlier m since m' later h split removed given
    exact opened_of_given_again split removed given
  · intro distinct earlier m later h split removed
    exact not_given_again balanced distinct split removed

/-- A handle expires and is replaced, another one is purged, the others are cleared away, and then a
new one is opened. -/
def refilling : List Step :=
  [.acquire ⟨"A"⟩, .dividends ⟨"B"⟩, .advance 2000000000, .info ⟨"A"⟩, .purge, .acquire ⟨" A"⟩,
    .clear, .http "GET" "/dividends/A"]

theorem cache_accounts_refilled :
    (Canned.uniform (.failing (.other "down"))).provider.Labels ∧
      Accounts (Canned.uniform (.failing (.other "down"))).provider
        (moments (recorded (Canned.uniform (.failing (.other "down"))).provider) refilling
          (fresh ⟨.epoch, true⟩ (.ofParts 1 0) ⟨⟨0, 0⟩, []⟩))
        (reached (recorded (Canned.uniform (.failing (.other "down"))).provider) refilling
          (fresh ⟨.epoch, true⟩ (.ofParts 1 0) ⟨⟨0, 0⟩, []⟩)) ∧
      (moments (recorded (Canned.uniform (.failing (.other "down"))).provider) refilling
          (fresh ⟨.epoch, true⟩ (.ofParts 1 0) ⟨⟨0, 0⟩, []⟩)).map
        (fun m => (m.filled, m.purged, m.cleared)) =
          [(1, 0, 0), (1, 0, 0), (0, 0, 0), (0, 0, 0), (0, 1, 0), (1, 0, 0), (0, 0, 2),
            (1, 0, 0)] ∧
      (((moments (recorded (Canned.uniform (.failing (.other "down"))).provider) refilling
          (fresh ⟨.epoch, true⟩ (.ofParts 1 0) ⟨⟨0, 0⟩, []⟩)).flatMap Moment.opened).map
        Prod.snd).Nodup := by
  have labels := Canned.provider_labels (Canned.uniform (.failing (.other "down")))
  have numbers := Canned.provider_numbers (Canned.uniform (.failing (.other "down")))
  refine ⟨labels, ?_, by decide, numbers.distinct refilling _⟩
  exact cache_accounts _ labels ⟨.epoch, true⟩ (.ofParts 1 0) ⟨0, 0⟩ _

end Session

end MarketDesk
