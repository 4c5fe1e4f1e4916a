import Mathlib.Data.List.Induction
import MarketDesk.Proofs.Session.Deeds
import MarketDesk.Proofs.Text.Spelling
import MarketDesk.Provider.Canned

/-!
# The symbols that requests bring in

A run of requests asks the provider for just the symbols that its requests name, and stores just
those that could be opened: `Entered`, which each request keeps. Two routes have no path without a
symbol. The third has: between the slashes of a history there may be nothing, and then the empty
symbol is asked for like any other, `empty_symbol_enters_iff`.
-/

namespace MarketDesk

open MarketDesk.Calendar
open MarketDesk.CacheLog (Recorded recorded)

variable {W : Type} {p : Provider W} {s : Symbol}

/-! ## Requests that name a symbol -/

namespace Http

/-- The request is valid, reads, and its path asks for a fetch about the symbol. -/
inductive Names (method target : String) (s : Symbol) : Prop where
  | intro {m : Method} {path : List Char} {f : Fetch} : Method.ofText? method = some m →
      m.reads = true → Target.path? target.toList = some path → Asks path f → f.symbol = s →
      Names method target s

/-- The request is for the history of a period, with nothing where the symbol should be. -/
inductive NamesNothing (method target : String) : Prop where
  | intro {m : Method} {y : List Char} {period : Period} : Method.ofText? method = some m →
      m.reads = true → Target.path? target.toList = some ("/history//".toList ++ y) → '/' ∉ y →
      segment? y = some period.text → NamesNothing method target

theorem segment?_eq_empty_iff {x : List Char} : segment? x = some "" ↔ x = [] := by
  rw [segment?, Option.map_eq_some_iff, ← Text.Percent.decode?_eq_some_nil_iff]
  constructor
  · rintro ⟨text, decoded, empty⟩
    rw [decoded, ← @String.toList_ofList text, empty]
    rfl
  · intro decoded
    exact ⟨[], decoded, rfl⟩

/-- Only a history can be asked for without a symbol. -/
theorem names_empty_iff {method target : String} :
    Names method target ⟨""⟩ ↔ NamesNothing method target := by
  constructor
  · rintro ⟨known, reads, valid, asks, empty⟩
    cases asks with
    | history _ noSlash named hy =>
      cases empty
      cases segment?_eq_empty_iff.1 named
      exact .intro known reads valid noSlash hy
    | dividends _ nonempty named =>
      cases empty
      exact (nonempty (segment?_eq_empty_iff.1 named)).elim
    | overview _ nonempty named =>
      cases empty
      exact (nonempty (segment?_eq_empty_iff.1 named)).elim
  · rintro ⟨known, reads, valid, noSlash, hy⟩
    exact .intro known reads valid (@Asks.history [] _ "" _ (by simp) noSlash rfl hy) rfl

end Http

/-- A request asks about the symbol that it names. -/
theorem symbol?_http_eq_some_iff {method target : String} :
    (Step.http method target).symbol? = some s ↔ Http.Names method target s := by
  rw [Step.symbol?, Option.map_eq_some_iff]
  constructor
  · rintro ⟨f, requested, named⟩
    obtain ⟨m, path, known, reads, valid, asked⟩ := Session.requested?_eq_some_iff.1 requested
    exact .intro known reads valid (Http.asks_of_fetch? asked) named
  · rintro ⟨known, reads, valid, asks, named⟩
    exact ⟨_, Session.requested?_eq_some_iff.2 ⟨_, _, known, reads, valid, asks.fetch?_eq⟩, named⟩

namespace Session

/-! ## Runs of requests -/

/-- A request, and the nanoseconds that pass before it. -/
structure Request where
  passed : Int
  method : String
  target : String

/-- The steps of a run of requests. -/
def requests (rs : List Request) : List Step :=
  rs.flatMap fun r => [.advance r.passed, .http r.method r.target]

/-- The provider was asked for the symbols that were named, and those of them that could be opened
are stored. -/
structure Entered (named : Symbol → Prop) (d : Desk (Recorded W)) : Prop where
  asked : ∀ s, (∃ r, (s, r) ∈ d.world.openings) ↔ named s
  stored : ∀ s, (∃ e, (s, e) ∈ d.cache.entries) ↔ ∃ h, (s, .ok h) ∈ d.world.openings

/-- What a step opens comes behind what was opened before. -/
theorem exists_openings (p : Provider W) (step : Step) (d : Desk (Recorded W)) :
    ∃ new, (momentOf (recorded p) step d).after.world.openings = d.world.openings ++ new := by
  cases asked : step.symbol? with
  | none =>
    have after : (momentOf (recorded p) step d).after = step.upkeep d :=
      after_of_no_symbol _ asked d
    exact ⟨[], by rw [after, Step.upkeep_world, List.append_nil]⟩
  | some s =>
    rw [world_after (CacheLog.recorded_leaves p) asked d]
    cases fresh : d.cache.fresh? d.now s with
    | some h => exact ⟨[], by rw [Desk.acquire_of_fresh fresh, List.append_nil]⟩
    | none =>
      rw [Desk.acquire_of_not_fresh fresh, CacheLog.recorded_create]
      cases ((p.create s).outcome d.world.world).1 with
      | error f => exact ⟨[(s, .error f)], rfl⟩
      | ok h => exact ⟨[(s, .ok h)], rfl⟩

theorem openings_after (p : Provider W) (step : Step) (d : Desk (Recorded W)) :
    (momentOf (recorded p) step d).after.world.openings =
      d.world.openings ++ (momentOf (recorded p) step d).openings := by
  obtain ⟨new, grown⟩ := exists_openings p step d
  have opened : (momentOf (recorded p) step d).openings = new := by
    rw [Moment.openings, grown]
    exact List.drop_left
  rw [grown, opened]

theorem Entered.fresh (clock : Clock) (lifetime : Lifetime) (world : W) :
    Entered (fun _ => False) (fresh clock lifetime ⟨world, []⟩) where
  asked s := by simp [Session.fresh]
  stored s := by simp [Session.fresh, Cache.empty]

/-- A step that removes nothing brings in the symbol that it asks about. -/
theorem Entered.step {named : Symbol → Prop} {d : Desk (Recorded W)} (entered : Entered named d)
    (p : Provider W) (step : Step) (keeps : (step.upkeep d).cache = d.cache) :
    Entered (fun s => named s ∨ step.symbol? = some s) (momentOf (recorded p) step d).after := by
  have done := deed p step d
  have openings := openings_after p step d
  generalize (momentOf (recorded p) step d).given? (recorded p) = given at done
  generalize (momentOf (recorded p) step d).openings = new at done openings
  generalize (momentOf (recorded p) step d).after = after at done openings
  generalize left : after.cache = cache at done
  cases done with
  | upkeep idle =>
    refine ⟨fun k => ?_, fun k => ?_⟩
    · rw [openings, List.append_nil, entered.asked, idle]
      simp
    · rw [openings, List.append_nil, left, keeps]
      exact entered.stored k
  | @served s h asked fresh =>
    have before : named s := by
      obtain ⟨e, kept, -⟩ := Option.map_eq_some_iff.1 fresh
      have stored := Cache.mem_of_find? (Option.filter_eq_some_iff.1 kept).1
      obtain ⟨h, opened⟩ := (entered.stored s).1 ⟨e, stored⟩
      exact (entered.asked s).1 ⟨_, opened⟩
    refine ⟨fun k => ?_, fun k => ?_⟩
    · rw [openings, List.append_nil, entered.asked, asked, Option.some.injEq]
      constructor
      · exact .inl
      · rintro (there | rfl)
        · exact there
        · exact before
    · rw [openings, List.append_nil, left]
      exact entered.stored k
  | @refused s f asked stale failed =>
    refine ⟨fun k => ?_, fun k => ?_⟩
    · rw [openings, asked, Option.some.injEq, ← entered.asked]
      simp [exists_or, eq_comm]
    · rw [openings, left, entered.stored]
      simp
  | @opened s h asked stale opening =>
    refine ⟨fun k => ?_, fun k => ?_⟩
    · rw [openings, asked, Option.some.injEq, ← entered.asked]
      simp [exists_or, eq_comm]
    · rw [openings, left]
      simp only [Cache.mem_insert_iff, List.mem_append, exists_or, ← entered.stored]
      by_cases same : k = s
      · subst same
        simp
      · simp [same]

theorem Entered.congr {named named' : Symbol → Prop} {d : Desk (Recorded W)}
    (entered : Entered named d) (same : ∀ s, named s ↔ named' s) : Entered named' d :=
  ⟨fun s => (entered.asked s).trans (same s), entered.stored⟩

/-- A run of requests brings in the symbols that they name. -/
theorem Entered.run (p : Provider W) (clock : Clock) (lifetime : Lifetime) (world : W)
    (rs : List Request) :
    Entered (fun s => ∃ r ∈ rs, Http.Names r.method r.target s)
      (reached (recorded p) (requests rs) (Session.fresh clock lifetime ⟨world, []⟩)) := by
  induction rs using List.reverseRecOn with
  | nil => exact (Entered.fresh clock lifetime world).congr (by simp)
  | append_singleton rs r ih =>
    have steps : requests (rs ++ [r]) =
        requests rs ++ [.advance r.passed] ++ [.http r.method r.target] := by
      simp [requests]
    rw [steps, reached_concat, reached_concat]
    have passed := ih.step p (.advance r.passed) rfl
    have served := passed.step p (.http r.method r.target) rfl
    refine served.congr fun s => ?_
    rw [symbol?_http_eq_some_iff]
    simp [Step.symbol?, or_and_right, exists_or]

/-- **Requests bring in what they name.** Whatever requests are served, and whatever time passes
between them, the provider is asked for just the symbols that they name, and just those that it
could open are stored. The empty symbol is among them as soon as one request is for the history of
no symbol, and never otherwise. -/
theorem empty_symbol_enters_iff (p : Provider W) (clock : Clock) (lifetime : Lifetime) (world : W)
    (rs : List Request) :
    let d := reached (recorded p) (requests rs) (fresh clock lifetime ⟨world, []⟩)
    Entered (fun s => ∃ r ∈ rs, Http.Names r.method r.target s) d ∧
      ((∃ o, (⟨""⟩, o) ∈ d.world.openings) ↔
        ∃ r ∈ rs, Http.NamesNothing r.method r.target) := by
  intro d
  have entered := Entered.run p clock lifetime world rs
  refine ⟨entered, ?_⟩
  rw [entered.asked]
  simp only [Http.names_empty_iff]

/-- A provider whose handles serve nothing. -/
def serving : Provider Tally := (Canned.uniform (.ofSeries [] [] [])).provider

/-- A history of no symbol is served: a handle is opened for the empty symbol and stored under it. -/
theorem empty_symbol_is_opened :
    let d := reached (recorded serving) (requests [⟨0, "GET", "/history//1d"⟩])
      (fresh ⟨.epoch, true⟩ (.ofParts 300 0) ⟨⟨0, 0⟩, []⟩)
    (¬ ∀ o ∈ d.world.openings, o.1.text ≠ "") ∧ ¬ ∀ x ∈ d.cache.entries, x.1.text ≠ "" := by
  intro d
  have openings : d.world.openings = [(⟨""⟩, .ok ⟨0, ⟨""⟩⟩)] := rfl
  have entries : d.cache.entries = [(⟨""⟩, ⟨⟨0, ⟨""⟩⟩, .epoch⟩)] := rfl
  rw [openings, entries]
  simp

end Session

end MarketDesk
