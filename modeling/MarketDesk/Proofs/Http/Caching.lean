import MarketDesk.Proofs.Desk.Fetching
import MarketDesk.Proofs.Http.Fetches

/-!
# Which responses may be cached

A response may be cached just if it is a success: the data of a fetch for the time that the fetch
has, and the health of the server, which sets no time itself, for the default one. Every other
response is a failure, and is left as it is. `Tagged` has these two cases, and every request on
every desk is answered with one of them, whatever the provider does.
-/

namespace MarketDesk.Http

/-- The path is one of a resource that may be cached for a number of seconds. -/
inductive CachedFor : List Char → Nat → Prop where
  | history {path : List Char} {s : Symbol} {period : Period} : Asks path (.history s period) →
      CachedFor path (Fetch.history s period).maxAge
  | dividends {path : List Char} {s : Symbol} : Asks path (.dividends s) → CachedFor path 3600
  | overview {path : List Char} {s : Symbol} : Asks path (.overview s) → CachedFor path 300
  | health : CachedFor "/health".toList 60

/-- The response is a success that may be cached as long as its resource, or a failure that may not
be cached. -/
inductive Tagged (path : List Char) (r : Response) : Prop where
  | success {n : Nat} : CachedFor path n → r.status = 200 → r.maxAge = some n → Tagged path r
  | failure : r.status ∈ [400, 404, 405, 500] → r.maxAge = none → Tagged path r

variable {W : Type} {p : Provider W} {d : Desk W} {path : List Char} {r : Response} {f : Fetch}
  {method : Method} {n n' : Nat}

/-! ## Resources -/

/-- How long what a route is answered with may be cached. -/
def Route.maxAge? : Route → Option Nat
  | .health => some Response.defaultMaxAge
  | r => r.fetch?.map Fetch.maxAge

theorem Asks.maxAge?_eq (asks : Asks path f) : (Route.ofPath path).maxAge? = some f.maxAge := by
  have asked := asks.fetch?_eq
  cases route : Route.ofPath path with
  | health =>
    rw [route] at asked
    cases asked
  | history | dividends | info | unknown =>
    rw [route] at asked
    rw [Route.maxAge?, asked, Option.map_some]
    exact nofun

theorem CachedFor.maxAge?_eq (cached : CachedFor path n) :
    (Route.ofPath path).maxAge? = some n := by
  cases cached with
  | history asks => exact asks.maxAge?_eq
  | dividends asks => exact asks.maxAge?_eq
  | overview asks => exact asks.maxAge?_eq
  | health => rfl

/-- A path has one resource at most. -/
theorem CachedFor.unique (cached : CachedFor path n) (cached' : CachedFor path n') : n = n' :=
  Option.some.inj (cached.maxAge?_eq.symm.trans cached'.maxAge?_eq)

theorem Asks.cachedFor (asks : Asks path f) : CachedFor path f.maxAge := by
  cases f with
  | history => exact .history asks
  | dividends => exact .dividends asks
  | overview => exact .overview asks

/-! ## Responses -/

namespace Tagged

theorem of_apiError (path : List Char) (e : ApiError) : Tagged path e.response := by
  cases e with
  | data e =>
    rw [ApiError.response]
    split
    · exact .failure List.mem_cons_self rfl
    · exact .failure (by decide) rfl
  | invalidSymbol s => exact .failure List.mem_cons_self rfl
  | notFound => exact .failure (by decide) rfl

theorem of_fault (path : List Char) (fault : Fault) : Tagged path (ofFault fault) := by
  cases fault with
  | error e => exact of_apiError path (.data e)
  | abort => exact .failure (by decide) rfl

theorem of_fetch (asks : Asks path f) (result : Except Fault Fetched) :
    Tagged path (f.response result) := by
  cases result with
  | ok a => exact .success asks.cachedFor rfl rfl
  | error fault =>
    rw [response_error]
    exact of_fault path fault

/-- The default time is given to neither kind. -/
theorem withDefaultAge (tagged : Tagged path r) : Tagged path r.withDefaultAge := by
  have same : r.withDefaultAge = r := by
    rw [Response.withDefaultAge, if_neg]
    rintro ⟨success, ageless⟩
    cases tagged with
    | success _ _ age => simp [age] at ageless
    | failure status =>
      simp only [Response.isSuccess, Bool.and_eq_true, decide_eq_true_eq] at success
      simp only [List.mem_cons, List.not_mem_nil, or_false] at status
      omega
  rwa [same]

theorem withoutBody (tagged : Tagged path r) : Tagged path r.withoutBody := by
  cases tagged with
  | success cached status age => exact .success cached status age
  | failure status ageless => exact .failure status ageless

end Tagged

/-- Every route is answered with a success that may be cached or with a failure that may not. -/
theorem answer_tagged (p : Provider W) (d : Desk W) (path : List Char) :
    Tagged path ((answer p path (Route.ofPath path)).run d).1.withDefaultAge := by
  have answered := answer_answered p path d
  generalize ((answer p path (Route.ofPath path)).run d).1 = r at answered
  cases answered with
  | fetch asks => exact (Tagged.of_fetch asks _).withDefaultAge
  | health same =>
    subst same
    exact .success .health rfl rfl
  | refused e => exact (Tagged.of_apiError path e).withDefaultAge

theorem respond_tagged (p : Provider W) (d : Desk W) (method : Method) (path : List Char) :
    Tagged path ((respond p method path).run d).1 := by
  cases method with
  | get => exact answer_tagged p d path
  | head => exact (answer_tagged p d path).withoutBody
  | other name =>
    unfold respond
    have listed : 405 ∈ [400, 404, 405, 500] := by decide
    cases Route.ofPath path with
    | unknown => exact Tagged.of_apiError path .notFound
    | _ => exact .failure listed rfl

/-- A fetch that breaks down is answered with status 500. -/
theorem status_of_breakdown (asks : Asks path f) (reads : method.reads = true)
    (broken : ((f.perform p).outcome d).1 = .error .abort) :
    ((respond p method path).run d).1.status = 500 := by
  rw [(respond_of_reads reads).1, answer_of_fetch? p path d asks.fetch?_eq, broken]
  rfl

/-- **Successes may be cached.** Every valid request, on every desk and with every provider, is
answered with a header that says how long the response may be cached just if its status is between
200 and 299. The header then gives the one time that the resource has. Every other response, also
to a fetch that breaks down, has one of the statuses of failures and no such header. -/
theorem successes_are_cached (p : Provider W) (d : Desk W) {name target : String}
    (known : Method.ofText? name = some method) (valid : Target.path? target.toList = some path) :
    ∃ r d', (Session.step p (.http name target)).outcome d = (.ok (.response r), d') ∧
      ((∃ t, r.cacheControl = some t) ↔ 200 ≤ r.status ∧ r.status < 300) ∧
      (∀ t, r.cacheControl = some t → ∃ n, CachedFor path n ∧ (∀ n', CachedFor path n' → n' = n) ∧
        t = "public, max-age=" ++ toString n) ∧
      (r.cacheControl = none → r.status ∈ [400, 404, 405, 500]) ∧
      (∀ f, Asks path f → method.reads = true → ((f.perform p).outcome d).1 = .error .abort →
        r.status = 500 ∧ r.cacheControl = none) := by
  refine ⟨_, _, request_of_path method known valid, ?_⟩
  have broken : ∀ f, Asks path f → method.reads = true →
      ((f.perform p).outcome d).1 = .error .abort →
      ((respond p method path).run d).1.status = 500 := fun f => status_of_breakdown
  have tagged := respond_tagged p d method path
  generalize ((respond p method path).run d).1 = r at broken tagged
  cases tagged with
  | @success n cached status age =>
    have header : r.cacheControl = some ("public, max-age=" ++ toString n) := by
      rw [Response.cacheControl, age, Option.map_some]
    rw [header, status]
    refine ⟨iff_of_true ⟨_, rfl⟩ (by decide), ?_, nofun, fun f asks reads abort => ?_⟩
    · rintro t ⟨⟩
      exact ⟨n, cached, fun n' cached' => cached'.unique cached, rfl⟩
    · rw [broken f asks reads abort] at status
      cases status
  | failure status ageless =>
    have header : r.cacheControl = none := by rw [Response.cacheControl, ageless, Option.map_none]
    have failed : ¬ (200 ≤ r.status ∧ r.status < 300) := by
      simp only [List.mem_cons, List.not_mem_nil, or_false] at status
      omega
    rw [header]
    exact ⟨iff_of_false nofun failed, nofun, fun _ => status, fun f asks reads abort =>
      ⟨broken f asks reads abort, rfl⟩⟩

/-- A provider whose handles serve nothing. -/
def serving : Provider Tally := (Canned.uniform (.ofSeries [] [] [])).provider

/-- A `HEAD` of a history whose symbol is written with an escape. -/
theorem successes_are_cached_escaped :
    Method.ofText? "HEAD" = some .head ∧
      Target.path? "/history/BRK%2FB/5y?x=1d".toList = some "/history/BRK%2FB/5y".toList ∧
      ∃ r d', (Session.step serving (.http "HEAD" "/history/BRK%2FB/5y?x=1d")).outcome
          Canned.freshDesk = (.ok (.response r), d') ∧
        r.status = 200 ∧ r.cacheControl = some "public, max-age=86400" := by
  have known : Method.ofText? "HEAD" = some .head := rfl
  have valid : Target.path? "/history/BRK%2FB/5y?x=1d".toList =
      some "/history/BRK%2FB/5y".toList := by decide
  have asks : Asks "/history/BRK%2FB/5y".toList (.history ⟨"BRK/B"⟩ .fiveYears) :=
    @Asks.history "BRK%2FB".toList "5y".toList _ _ (by decide) (by decide) (by decide) (by decide)
  have found : ((Session.step serving (.http "HEAD" "/history/BRK%2FB/5y?x=1d")).outcome
      Canned.freshDesk).1 =
        .ok (.response ⟨200, some 86400, some "application/json", none, ""⟩) := rfl
  obtain ⟨r, d', served, tagged_iff, value, -⟩ :=
    successes_are_cached serving Canned.freshDesk known valid
  rw [served] at found
  cases found
  refine ⟨known, valid, _, d', served, rfl, ?_⟩
  obtain ⟨t, header⟩ := tagged_iff.2 ⟨by decide, by decide⟩
  obtain ⟨n, -, unique, rfl⟩ := value t header
  rw [header, ← unique _ (.history asks)]
  rfl

end MarketDesk.Http
