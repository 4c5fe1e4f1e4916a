import Mathlib.Data.List.TakeWhile
import MarketDesk.Proofs.Desk.Fetching
import MarketDesk.Proofs.Frame.RoundTrip
import MarketDesk.Proofs.Http.Statuses
import MarketDesk.Proofs.Json.Documents
import MarketDesk.Proofs.Text.Spelling
import MarketDesk.Session

/-!
# Requests that fetch

A request for data does what the fetch that it asks for does, and its response is written from the
outcome of that fetch and from nothing else: `Fetched.document` writes out, member by member, the
document that is served for each kind of data. `Asks` says which path asks for which fetch: its
segments are decoded once, and the text that they decode to is the symbol as it is. So every
spelling of a symbol, on each of the three routes, comes to the same handle.
-/

namespace MarketDesk

open MarketDesk.Http MarketDesk.Text

/-! ## Responses to fetches -/

/-- A day of a history as a document. -/
def TradingDay.document (day : TradingDay) : Json.Value :=
  .record [("date", .text day.date.text), ("open", .real day.opening), ("close", .real day.close),
    ("low", .real day.low), ("high", .real day.high), ("volume", .whole day.volume.toNat),
    ("dividend", .real day.dividend)]

/-- A dividend as a document. -/
def Dividend.document (d : Dividend) : Json.Value :=
  .record [("date", .text d.date.text), ("amount", .real d.amount)]

/-- Earnings as a document, which is a string for a day too. -/
def Earnings.document : Earnings → Json.Value
  | .on date => .text date.text
  | .raw text => .text text

/-- An overview as a document. What is not known is `null`. -/
def Overview.document (o : Overview) : Json.Value :=
  .record [("name", o.name.elim .null .text), ("price", o.price.elim .null .real),
    ("pe_ratio", o.peRatio.elim .null .real), ("pb_ratio", o.pbRatio.elim .null .real),
    ("eps", o.eps.elim .null .real), ("roe", o.roe.elim .null .real),
    ("market_cap", o.marketCap.elim .null .real),
    ("recommendation", o.recommendation.elim .null .text),
    ("analyst_count", o.analystCount.elim .null fun n => .whole n.toNat),
    ("fifty_two_week_high", o.fiftyTwoWeekHigh.elim .null .real),
    ("fifty_two_week_low", o.fiftyTwoWeekLow.elim .null .real), ("beta", o.beta.elim .null .real),
    ("sector", o.sector.elim .null .text), ("industry", o.industry.elim .null .text),
    ("earnings_date", o.earnings.elim .null Earnings.document),
    ("dividend_rate", o.dividendRate.elim .null .real),
    ("trailing_annual_dividend_rate", o.trailingDividendRate.elim .null .real)]

theorem Earnings.toJson_eq_document (e : Earnings) : e.toJson = e.document := by
  cases e <;> rfl

theorem Overview.toJson_eq_document (o : Overview) : o.toJson = o.document := by
  have optional : ∀ {α : Type} (write : α → Json.Value) (a : Option α),
      Json.Value.ofOption write a = a.elim .null write := by
    intro α write a
    cases a <;> rfl
  have earnings : Earnings.toJson = Earnings.document := funext Earnings.toJson_eq_document
  unfold Overview.toJson Overview.document
  simp only [optional, earnings]

/-- What was fetched, as a document. -/
def Fetched.document : Fetched → Json.Value
  | .history t => .list (t.days.map TradingDay.document)
  | .dividends ds => .list (ds.map Dividend.document)
  | .overview o => o.document

/-- How many seconds what was fetched may be cached. -/
def Fetch.maxAge : Fetch → Nat
  | .history _ .oneDay => 120
  | .history _ .fiveDays => 300
  | .history _ .oneMonth => 3600
  | .history _ .threeMonths => 3600
  | .history _ .sixMonths => 7200
  | .history _ .oneYear => 14400
  | .history _ .twoYears => 43200
  | .history _ .fiveYears => 86400
  | .history _ .tenYears => 86400
  | .history _ .yearToDate => 3600
  | .history _ .max => 86400
  | .dividends _ => 3600
  | .overview _ => 300

/-- The response to a `GET` that asks for a fetch, by its outcome. -/
def Fetch.response (f : Fetch) : Except Fault Fetched → Response
  | .ok a => ⟨200, some f.maxAge, some "application/json", none, a.document.render⟩
  | .error (.error (.invalidPeriod text)) => ⟨400, none, some "application/json", none,
      (Json.Value.record [("error", .text ("Invalid period: " ++ text))]).render⟩
  | .error _ => ⟨500, none, some "application/json", none,
      "\x7b\"error\":\"An internal error occurred\"\x7d"⟩

namespace Http

/-- The path asks for a fetch. Its segments have no slash in them, and decode to a symbol and the
text of a period. -/
inductive Asks : List Char → Fetch → Prop where
  | history {x y : List Char} {s : String} {period : Period} : '/' ∉ x → '/' ∉ y →
      segment? x = some s → segment? y = some period.text →
      Asks ("/history/".toList ++ x ++ '/' :: y) (.history ⟨s⟩ period)
  | dividends {x : List Char} {s : String} : '/' ∉ x → x ≠ [] → segment? x = some s →
      Asks ("/dividends/".toList ++ x) (.dividends ⟨s⟩)
  | overview {x : List Char} {s : String} : '/' ∉ x → x ≠ [] → segment? x = some s →
      Asks ("/info/".toList ++ x) (.overview ⟨s⟩)

/-- The fetch that a route asks for, if its segments decode. -/
def Route.fetch? : Route → Option Fetch
  | .history x y => do
    let s ← segment? x
    let text ← segment? y
    let period ← Period.ofText? text
    pure (.history ⟨s⟩ period)
  | .dividends x => (segment? x).map fun s => .dividends ⟨s⟩
  | .info x => (segment? x).map fun s => .overview ⟨s⟩
  | .health => none
  | .unknown => none

theorem segment?_nil : segment? [] = some "" := rfl

theorem text_ne_empty (period : Period) : period.text ≠ "" := by
  cases period <;> decide

theorem Asks.fetch?_eq {path : List Char} {f : Fetch} (h : Asks path f) :
    (Route.ofPath path).fetch? = some f := by
  cases h with
  | @history x y s period hx hy hs hp =>
    have nonempty : y ≠ [] := by
      rintro rfl
      rw [segment?_nil, Option.some.injEq] at hp
      exact absurd hp.symm (text_ne_empty period)
    rw [(Matches.history hx hy nonempty).ofPath_eq]
    simp [Route.fetch?, hs, hp, Period.ofText?_text]
  | dividends hx nonempty hs =>
    rw [(Matches.dividends hx nonempty).ofPath_eq, Route.fetch?, hs]
    rfl
  | overview hx nonempty hs =>
    rw [(Matches.info hx nonempty).ofPath_eq, Route.fetch?, hs]
    rfl

/-- A route with a fetch has the paths that ask for it. -/
theorem asks_of_fetch? {path : List Char} {f : Fetch}
    (asked : (Route.ofPath path).fetch? = some f) : Asks path f := by
  cases route : Route.ofPath path with
  | history x y =>
    have matched := matches_of_ofPath route (by simp)
    rw [route, Route.fetch?] at asked
    simp only [Option.bind_eq_bind, Option.pure_def, Option.bind_eq_some_iff,
      Option.some.injEq] at asked
    obtain ⟨s, hs, text, hy, period, named, rfl⟩ := asked
    cases matched with
    | history noSlash noSlash' =>
      rw [← Period.text_of_ofText? named] at hy
      exact .history noSlash noSlash' hs hy
  | dividends x =>
    have matched := matches_of_ofPath route (by simp)
    rw [route, Route.fetch?] at asked
    obtain ⟨s, hs, rfl⟩ := Option.map_eq_some_iff.1 asked
    cases matched with
    | dividends noSlash nonempty => exact .dividends noSlash nonempty hs
  | info x =>
    have matched := matches_of_ofPath route (by simp)
    rw [route, Route.fetch?] at asked
    obtain ⟨s, hs, rfl⟩ := Option.map_eq_some_iff.1 asked
    cases matched with
    | info noSlash nonempty => exact .overview noSlash nonempty hs
  | health =>
    rw [route] at asked
    cases asked
  | unknown =>
    rw [route] at asked
    cases asked

/-- The parameters of a history are those of the fetch that its route asks for. -/
theorem historyParameters_eq_ok_iff {path x y : List Char} {a : Symbol × Period} :
    historyParameters path x y = .ok a ↔
      (Route.history x y).fetch? = some (.history a.1 a.2) := by
  have unread : ∀ a, (period? (lossySegment path 2) >>= fun _ =>
      (throw (.invalidSymbol (lossySegment path 1)) : Except ApiError (Symbol × Period))) ≠
        .ok a := by
    intro a ok
    cases h : period? (lossySegment path 2) with
    | error e =>
      rw [h] at ok
      cases ok
    | ok period =>
      rw [h] at ok
      cases ok
  cases hx : segment? x with
  | none => simpa [historyParameters, Route.fetch?, hx] using unread a
  | some s =>
    cases hy : segment? y with
    | none => simpa [historyParameters, Route.fetch?, hx, hy] using unread a
    | some text =>
      obtain ⟨symbol, period⟩ := a
      rw [historyParameters, hx, hy, Route.fetch?, hx, hy]
      cases known : Period.ofText? text with
      | none => simp [period?, known, Except.map]
      | some period' => simp [period?, known, Except.map]

section Answers

variable {W : Type} (p : Provider W) (path : List Char) {f : Fetch} {r : Route} (d : Desk W)

/-- The response to a fetch that failed is the one to its fault. -/
theorem response_error (f : Fetch) (fault : Fault) : f.response (.error fault) = ofFault fault := by
  have internal : (⟨500, none, some "application/json", none,
      "\x7b\"error\":\"An internal error occurred\"\x7d"⟩ : Response) = .internal := by
    rw [← internal_body]
    rfl
  cases fault with
  | error e =>
    cases e with
    | invalidPeriod text => rfl
    | _ => exact internal
  | abort => exact internal

theorem historyMaxAge_eq (s : Symbol) (period : Period) :
    historyMaxAge period = (Fetch.history s period).maxAge := by
  cases period <;> rfl

/-- What serves a query that a fetch is made of serves the fetch. -/
theorem serve_fetch {α : Type} {q : Query (Desk W) α} {wrap : α → Fetched} {write : α → Response}
    (same : f.perform p = wrap <$> q) (written : ∀ a, write a = f.response (.ok (wrap a))) :
    (serve q write).run d =
      (f.response ((f.perform p).outcome d).1, ((f.perform p).outcome d).2) := by
  rw [same, Query.outcome_map]
  show serve q write d = _
  rw [serve]
  cases q.outcome d with
  | mk result after =>
    cases result with
    | ok a => exact congrArg (·, after) (written a)
    | error fault => exact congrArg (·, after) (response_error f fault).symm

/-- A route that asks for a fetch is answered with what the fetch gives. -/
theorem answer_of_fetch? (h : r.fetch? = some f) :
    (answer p path r).run d =
      (f.response ((f.perform p).outcome d).1, ((f.perform p).outcome d).2) := by
  cases r with
  | history x y =>
    have asked : ∃ s period, f = .history s period := by
      simp only [Route.fetch?, Option.bind_eq_bind, Option.pure_def, Option.bind_eq_some_iff,
        Option.some.injEq] at h
      obtain ⟨s, -, text, -, period, -, rfl⟩ := h
      exact ⟨⟨s⟩, period, rfl⟩
    obtain ⟨s, period, rfl⟩ := asked
    have parameters : historyParameters path x y = .ok (s, period) :=
      historyParameters_eq_ok_iff.2 h
    rw [answer, parameters]
    refine serve_fetch p d rfl fun t => ?_
    rw [historyMaxAge_eq s]
    rfl
  | dividends x =>
    obtain ⟨s, hs, rfl⟩ := Option.map_eq_some_iff.1 h
    rw [answer, symbolParameter, hs]
    exact serve_fetch p d rfl fun _ => rfl
  | info x =>
    obtain ⟨s, hs, rfl⟩ := Option.map_eq_some_iff.1 h
    rw [answer, symbolParameter, hs]
    refine serve_fetch p d rfl fun o => ?_
    rw [o.toJson_eq_document]
    rfl
  | health => cases h
  | unknown => cases h

/-- A route that asks for no fetch is the health of the server, or refused. -/
theorem health_or_refused_of_fetch? (h : r.fetch? = none) :
    r = .health ∨ ∃ e, refused? path r = some e := by
  have single : ∀ x, segment? x = none → ∃ e, errorOf (symbolParameter path x) = some e := by
    intro x none
    rw [symbolParameter, none]
    exact ⟨_, rfl⟩
  cases r with
  | history x y =>
    rw [refused?]
    cases parameters : historyParameters path x y with
    | error e => exact Or.inr ⟨e, rfl⟩
    | ok a =>
      rw [historyParameters_eq_ok_iff.1 parameters] at h
      cases h
  | dividends x => exact Or.inr (single x (Option.map_eq_none_iff.1 h))
  | info x => exact Or.inr (single x (Option.map_eq_none_iff.1 h))
  | health => exact Or.inl rfl
  | unknown => exact Or.inr ⟨.notFound, rfl⟩

theorem ofFault_status (fault : Fault) :
    (ofFault fault).status = 400 ∨ (ofFault fault).status = 500 := by
  cases fault with
  | abort => exact Or.inr rfl
  | error e =>
    show (ApiError.response (.data e)).status = 400 ∨ (ApiError.response (.data e)).status = 500
    rw [ApiError.response]
    split
    · exact Or.inl rfl
    · exact Or.inr rfl

/-- The response to a fetch has its own age, or none because it is a failure. -/
theorem response_withDefaultAge (f : Fetch) (result : Except Fault Fetched) :
    (f.response result).withDefaultAge = f.response result := by
  rw [Response.withDefaultAge, if_neg]
  rintro ⟨success, ageless⟩
  cases result with
  | ok a => cases ageless
  | error fault =>
    rw [response_error] at success
    rcases ofFault_status fault with status | status <;>
      simp [Response.isSuccess, status] at success

/-- What a path is answered with: how its fetch ended, the health of the server, or an error. -/
inductive Answered : Response → Prop where
  | fetch {f : Fetch} : Asks path f → Answered (f.response ((f.perform p).outcome d).1)
  | health : path = "/health".toList → Answered (Http.health d)
  | refused (e : ApiError) : Answered e.response

theorem answer_answered : Answered p path d ((answer p path (Route.ofPath path)).run d).1 := by
  cases asked : (Route.ofPath path).fetch? with
  | some f =>
    rw [answer_of_fetch? p path d asked]
    exact .fetch (asks_of_fetch? asked)
  | none =>
    rcases health_or_refused_of_fetch? path asked with healthy | ⟨e, refused⟩
    · have matched := matches_of_ofPath healthy nofun
      rw [healthy]
      cases matched
      exact .health rfl
    · rw [answer_of_refused refused]
      exact .refused e

end Answers

/-! ## Targets -/

section Targets

variable {path query : List Char} {c : Char}

theorem isPathChar_ne (h : Target.isPathChar c = true) : c ≠ '?' ∧ c ≠ '#' := by
  constructor
  · rintro rfl
    exact absurd h (by decide)
  · rintro rfl
    exact absurd h (by decide)

/-- A target asks for its path, whatever its query. -/
theorem path?_append_query (rooted : path.head? = some '/')
    (legal : ∀ c ∈ path, Target.isPathChar c = true)
    (legal' : ∀ c ∈ query, Target.isQueryChar c = true)
    (short : (Utf8.encode (path ++ '?' :: query)).length ≤ Target.maxLength) :
    Target.path? (path ++ '?' :: query) = some path := by
  obtain ⟨rest, rfl⟩ : ∃ rest, path = '/' :: rest := by
    cases path with
    | nil => cases rooted
    | cons first rest => exact ⟨rest, by rw [Option.some.inj rooted]⟩
  have marked : ∀ c ∈ '/' :: rest, (c != '?' && c != '#') = true := by
    intro c mem
    obtain ⟨mark, hash⟩ := isPathChar_ne (legal c mem)
    simp [mark, hash]
  have unhashed : ∀ c ∈ query, (c != '#') = true := by
    intro c mem
    rw [bne_iff_ne]
    rintro rfl
    exact absurd (legal' _ mem) (by decide)
  have read : Target.pathAndQuery? (('/' :: rest) ++ '?' :: query) = some ('/' :: rest) := by
    unfold Target.pathAndQuery?
    rw [List.takeWhile_append_of_pos marked, List.dropWhile_append_of_pos marked]
    rw [List.takeWhile_cons_of_neg (by decide), List.dropWhile_cons_of_neg (by decide),
      List.append_nil]
    show (if (('/' :: rest).all Target.isPathChar &&
      (query.takeWhile (· != '#')).all Target.isQueryChar) = true then some ('/' :: rest)
      else none) = some ('/' :: rest)
    rw [List.takeWhile_eq_self_iff.2 unhashed, List.all_eq_true.2 legal,
      List.all_eq_true.2 legal']
    rfl
  unfold Target.path?
  rw [if_neg (by omega)]
  exact read

end Targets

/-! ## Requests -/

section Requests

variable {W : Type} {p : Provider W} {d : Desk W} {target : String} {path : List Char} {f : Fetch}

/-- Requests for a target do what a fetch does, and say how it ended. -/
structure Serves (p : Provider W) (target : String) (f : Fetch) (d : Desk W) : Prop where
  get : (Session.step p (.http "GET" target)).outcome d =
    (.ok (.response (f.response ((f.perform p).outcome d).1)), ((f.perform p).outcome d).2)
  /-- A `HEAD` is a `GET` without the body. -/
  head : (Session.step p (.http "HEAD" target)).outcome d =
    (.ok (.response { f.response ((f.perform p).outcome d).1 with body := "" }),
      ((f.perform p).outcome d).2)
  /-- What was fetched can be read in the body. -/
  document : ∀ a, ((f.perform p).outcome d).1 = .ok a →
    ∃ r, Json.Raw.ofText? (f.response ((f.perform p).outcome d).1).body = some r ∧
      r.Shows a.document
  /-- The cache is asked for the handle of the symbol, and changed in no other way. -/
  cache : ((f.perform p).outcome d).2.cache = ((Desk.acquire p f.symbol).outcome d).2.cache
  /-- What asks for that symbol next has the same handle, unless handles do not last. -/
  shared : ∀ h d', (Desk.acquire p f.symbol).outcome d = (.ok h, d') →
    0 < d.cache.lifetime.nanos →
    (Desk.acquire p f.symbol).outcome ((f.perform p).outcome d).2 =
      (.ok h, ((f.perform p).outcome d).2)

/-- A valid request is answered by its path. -/
theorem request_of_path (method : Method) {name : String} (known : Method.ofText? name = some method)
    (valid : Target.path? target.toList = some path) :
    (Session.step p (.http name target)).outcome d =
      (.ok (.response ((respond p method path).run d).1), ((respond p method path).run d).2) := by
  show (Session.request p name target).outcome d = _
  rw [Session.request, known, valid]
  rfl

theorem respond_get_of_fetch? (asked : (Route.ofPath path).fetch? = some f) :
    (respond p .get path).run d =
      (f.response ((f.perform p).outcome d).1, ((f.perform p).outcome d).2) := by
  show (((answer p path (Route.ofPath path)).run d).1.withDefaultAge,
    ((answer p path (Route.ofPath path)).run d).2) = _
  rw [answer_of_fetch? p path d asked, response_withDefaultAge]

theorem respond_head_of_fetch? (asked : (Route.ofPath path).fetch? = some f) :
    (respond p .head path).run d =
      ((f.response ((f.perform p).outcome d).1).withoutBody, ((f.perform p).outcome d).2) := by
  show (((answer p path (Route.ofPath path)).run d).1.withDefaultAge.withoutBody,
    ((answer p path (Route.ofPath path)).run d).2) = _
  rw [answer_of_fetch? p path d asked, response_withDefaultAge]

theorem serves_of_fetch? (valid : Target.path? target.toList = some path)
    (asked : (Route.ofPath path).fetch? = some f) : Serves p target f d where
  get := by rw [request_of_path .get rfl valid, respond_get_of_fetch? asked]
  head := by
    rw [request_of_path .head rfl valid, respond_head_of_fetch? asked]
    rfl
  document a fetched := by
    rw [fetched]
    exact Json.exists_ofText?_render a.document
  cache := ((f.perform_inquiry p).clock_cache d).2
  shared _ _ acquired lasting := Desk.acquire_again (f.perform_inquiry p) acquired lasting

end Requests

/-- A day with prices. -/
def quotedBar : Bar := ⟨⟨1999, 12, 31, by decide⟩, 1.5, 2.5, 0.5, 2.0, 7⟩

/-- A provider of one day with a dividend, and of an overview without numbers. -/
def quoting : Provider Tally :=
  (Canned.uniform (.ofSeries [quotedBar] [⟨quotedBar.date, 0.25⟩]
    [("earningsTimestamp", .whole 86400), ("longName", .text "\"b\""),
      ("numberOfAnalystOpinions", .whole 12)])).provider

/-- The history that is fetched there. -/
theorem fetchHistory_quoting (s : Symbol) (period : Period) :
    (((Fetch.history s period).perform quoting).outcome Canned.freshDesk).1 =
      .ok (.history ⟨[quotedBar], [⟨quotedBar.date, 0.25⟩]⟩) := by
  have fetched : (Desk.fetchHistory quoting s period).outcome Canned.freshDesk =
      (Desk.timeline (Frame.ofBars [quotedBar]) (Frame.ofDividends [⟨quotedBar.date, 0.25⟩]), _) :=
    Desk.fetchHistory_of_frames rfl rfl rfl
  have sorted : sortBars [quotedBar] = [quotedBar] := List.mergeSort_singleton quotedBar
  show ((Fetched.history <$> Desk.fetchHistory quoting s period).outcome Canned.freshDesk).1 = _
  rw [Query.outcome_map, fetched, Desk.timeline, Frame.bars_ofBars, Frame.dividends_ofDividends]
  show Except.ok (Fetched.history (Timeline.make [quotedBar] _)) = _
  rw [Timeline.make, sorted]

end Http

end MarketDesk
