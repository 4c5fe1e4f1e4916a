import MarketDesk.Proofs.Desk.Fetching
import MarketDesk.Proofs.Yahoo.DividendAge

/-!
# The chart requests of a handle

A handle asks the chart service once for every history, and once for the dividends until an answer
has been kept; from then on it answers with the frame that it gave first. No other question touches
what is kept. `Traced` says of one question, after those before it, which requests left and what
was answered, and `chart_requests_follow_memo` that all questions of all runs are traced, and what
that makes of fetching a history: prices first, then dividends if the prices were there and none
had been kept, and nothing beyond that.
-/

namespace MarketDesk.Yahoo.ChartTrace

open SessionLog (Ask IsChartRequest outcome_memo outcome_remember)
open DividendAge (KeepsDividends remember_dividends)

/-! ## One chart request -/

/-- The address of a chart request. -/
def chartUrl? (e : Endpoints) (s : Symbol) (range interval : String) : Except DataError Url := do
  let url ← symbolUrl? e.chart s
  requestUrl? url [("range", range), ("interval", interval), ("events", "div")]

/-- The ranges and intervals that are asked for: the whole past by months, and each period by
days. -/
def chartQuestions : List (String × String) :=
  ("max", "1mo") :: Period.all.map fun period => (period.text, "1d")

/-- The chart service can be asked about the symbol. -/
def Usable (e : Endpoints) (s : Symbol) : Prop :=
  ∀ q ∈ chartQuestions, (chartUrl? e s q.1 q.2).isOk = true

instance (e : Endpoints) (s : Symbol) : Decidable (Usable e s) :=
  inferInstanceAs (Decidable (∀ q ∈ chartQuestions, _ = _))

/-- The request is a `GET` without a cookie that asks the chart service for a range of a symbol. -/
structure IsChartGet (e : Endpoints) (h : Handle) (range interval : String) (r : Request) :
    Prop where
  asks : IsChartRequest e h range interval r
  method : r.method = "GET"
  cookie : r.cookie = none

/-- The world after a request. -/
def World.sending (w : World) (r : Request) : World := { w with network := w.network.sending r }

/-- The requests that left between two worlds. -/
def World.sentUntil (w v : World) : List Request :=
  v.network.sent.drop w.network.sent.length

section Requests

variable {e : Endpoints} {h : Handle} {w v : World} {range interval : String} {r : Request}
  {full : Url}

theorem sentUntil_of_sends {rs : List Request} (sends : v.network = w.network.sends rs) :
    World.sentUntil w v = rs := by
  rw [World.sentUntil, sends, Network.sends_sent, List.drop_left]

/-- There is one request for a range. -/
theorem isChartRequest_iff (prepared : chartUrl? e h.symbol range interval = .ok full) :
    IsChartRequest e h range interval r ↔ r = requestFor full none := by
  unfold chartUrl? at prepared
  cases base : symbolUrl? e.chart h.symbol with
  | error f =>
    rw [base] at prepared
    cases prepared
  | ok url =>
    rw [base] at prepared
    have prepared : requestUrl? url
        [("range", range), ("interval", interval), ("events", "div")] = .ok full := prepared
    constructor
    · rintro ⟨url', base', full', prepared', -, rfl⟩
      rw [base] at base'
      cases base'
      rw [prepared] at prepared'
      cases prepared'
      rfl
    · rintro rfl
      exact ⟨url, base, full, prepared, requestUrl?_extends prepared, rfl⟩

theorem Usable.exists_url (usable : Usable e h.symbol)
    (asked : (range, interval) ∈ chartQuestions) :
    ∃ full, chartUrl? e h.symbol range interval = .ok full := by
  have ok := usable _ asked
  cases prepared : chartUrl? e h.symbol range interval with
  | error f =>
    rw [prepared] at ok
    cases ok
  | ok full => exact ⟨full, rfl⟩

/-- Asking for a chart sends the one request for it, whatever it is answered with. -/
theorem fetchChart_sends (usable : Usable e h.symbol) (asked : (range, interval) ∈ chartQuestions)
    (up : w.network.up = true) :
    ∃ r o, IsChartGet e h range interval r ∧
      (fetchChart e h range interval).outcome w = (o, World.sending w r) := by
  obtain ⟨full, prepared⟩ := usable.exists_url asked
  have isGet : IsChartGet e h range interval (requestFor full none) :=
    ⟨(isChartRequest_iff prepared).2 rfl, rfl, rfl⟩
  have asking := requestSymbol_requested e.chart h.symbol (chartParameters range interval) none w
  rw [fetchChart_eq]
  generalize result : (requestSymbol e.chart h.symbol (chartParameters range interval) none).outcome
    w = reply at asking
  cases asking with
  | unsent down => exact absurd isGet.asks (down up _)
  | @unanswered f r sent none =>
    obtain rfl := (isChartRequest_iff prepared).1 sent
    exact ⟨_, .error f, isGet, Query.outcome_bind_error result _⟩
  | @answered reply r sent some =>
    obtain rfl := (isChartRequest_iff prepared).1 sent
    refine ⟨_, (chartOf? h.symbol reply).mapError Fault.error, isGet, ?_⟩
    rw [Query.outcome_bind_ok result, orFail, Query.outcome_ofExcept]
    rfl

theorem day_mem_chartQuestions (period : Period) : (period.text, "1d") ∈ chartQuestions :=
  List.mem_cons_of_mem _ (List.mem_map_of_mem period.mem_all)

theorem month_mem_chartQuestions : ("max", "1mo") ∈ chartQuestions :=
  List.mem_cons_self

end Requests

/-! ## Questions -/

/-- What a handle gives. -/
inductive Given where
  | prices (frame : Frame)
  | dividends (frame : Frame)
  | fields (s : Snapshot)

/-- Puts a question to a handle. -/
def give (e : Endpoints) (h : Handle) : Ask → Query World Given
  | .history period => .prices <$> Yahoo.history e h period
  | .dividends => .dividends <$> Yahoo.dividends e h
  | .info => .fields <$> Yahoo.info e h

/-- A question of a run, with its outcome and the world before and after it. -/
structure Moment where
  ask : Ask
  before : World
  outcome : Except Fault Given
  after : World

/-- The moment in which a question is put. -/
def momentOf (e : Endpoints) (h : Handle) (ask : Ask) (w : World) : Moment :=
  ⟨ask, w, ((give e h ask).outcome w).1, ((give e h ask).outcome w).2⟩

/-- The moments of a run. -/
def moments (e : Endpoints) (h : Handle) : List Ask → World → List Moment
  | [], _ => []
  | ask :: asks, w => momentOf e h ask w :: moments e h asks (momentOf e h ask w).after

/-- The requests that left in a moment. -/
def Moment.sent (m : Moment) : List Request := World.sentUntil m.before m.after

/-- The dividend frame that was given in a moment. -/
def Moment.frame? (m : Moment) : Option Frame :=
  match m.outcome with
  | .ok (.dividends frame) => some frame
  | _ => none

/-- The dividend frame that was given first. -/
def firstFrame? (ms : List Moment) : Option Frame := ms.findSome? Moment.frame?

/-- The dividends that a handle keeps. -/
def kept (h : Handle) (w : World) : Option (List Dividend) := (w.memory h.serial).dividends

/-- A moment sends the chart requests that it should, after the moments before it, and keeps no
other dividends than it should. -/
structure Traced (e : Endpoints) (h : Handle) (earlier : List Moment) (m : Moment) : Prop where
  /-- A history is asked for by days, once. -/
  history : ∀ period, m.ask = .history period →
    ∃ r, IsChartGet e h period.text "1d" r ∧ m.sent = [r]
  /-- Dividends that were never given are asked for over the whole past, once. -/
  dividends : m.ask = .dividends → firstFrame? earlier = none →
    ∃ r, IsChartGet e h "max" "1mo" r ∧ m.sent = [r]
  /-- Dividends that were given are given again, and not asked for. -/
  again : ∀ frame, m.ask = .dividends → firstFrame? earlier = some frame →
    m.sent = [] ∧ m.outcome = .ok (.dividends frame)
  /-- A question for dividends that fails keeps nothing. -/
  failed : ∀ f, m.ask = .dividends → m.outcome = .error f → kept h m.after = none
  /-- Other questions leave what is kept as it is. -/
  others : m.ask ≠ .dividends → kept h m.after = kept h m.before

section Questions

variable {e : Endpoints} {h : Handle} {w : World} {earlier : List Moment}

/-- A history sends its request and keeps nothing. -/
theorem history_sends (usable : Usable e h.symbol) (up : w.network.up = true) (period : Period) :
    ∃ r o, IsChartGet e h period.text "1d" r ∧
      (history e h period).outcome w = (o, World.sending w r) := by
  obtain ⟨r, o, isGet, outcome⟩ := fetchChart_sends usable (day_mem_chartQuestions period) up
  rw [history, Query.outcome_bind, outcome]
  cases o with
  | error f => exact ⟨r, _, isGet, rfl⟩
  | ok chart => exact ⟨r, _, isGet, rfl⟩

/-- Dividends that are kept are given, and nothing is sent. -/
theorem dividends_of_kept {ds : List Dividend} (held : kept h w = some ds) :
    (dividends e h).outcome w = (.ok (Frame.ofDividends ds), w) := by
  have held : (w.memory h.serial).dividends = some ds := held
  rw [dividends, Query.outcome_bind_ok (outcome_memo h w), held]
  rfl

/-- Dividends that are not kept are asked for, and kept if they come. -/
theorem dividends_of_unkept (usable : Usable e h.symbol) (up : w.network.up = true)
    (unheld : kept h w = none) :
    ∃ r, IsChartGet e h "max" "1mo" r ∧
      ((∃ f, (dividends e h).outcome w = (.error f, World.sending w r)) ∨
        ∃ ds, (dividends e h).outcome w = (.ok (Frame.ofDividends ds),
          (World.sending w r).remember h fun m => { m with dividends := some ds })) := by
  obtain ⟨r, o, isGet, outcome⟩ : ∃ r o, IsChartGet e h "max" "1mo" r ∧
      (fetchChart e h Period.max.text "1mo").outcome w = (o, World.sending w r) :=
    fetchChart_sends usable month_mem_chartQuestions up
  have unheld : (w.memory h.serial).dividends = none := unheld
  refine ⟨r, isGet, ?_⟩
  rw [dividends, Query.outcome_bind_ok (outcome_memo h w), unheld]
  dsimp only
  cases o with
  | error f => exact Or.inl ⟨f, Query.outcome_bind_error outcome _⟩
  | ok chart =>
    refine Or.inr ⟨chart.dividends, ?_⟩
    rw [Query.outcome_bind_ok outcome, Query.outcome_bind_ok (outcome_remember _ _ _),
      Query.outcome_pure]

theorem sending_sentUntil (w : World) (r : Request) :
    World.sentUntil w (World.sending w r) = [r] :=
  sentUntil_of_sends rfl

/-- A question about other things leaves what is kept as it is. -/
theorem kept_of_keepsDividends {α : Type} {q : Query World α} (keeps : KeepsDividends h q)
    (w : World) : kept h (q.outcome w).2 = kept h w :=
  (keeps w).dividends

/-- What is kept makes the frame that was given first. -/
def Reflects (h : Handle) (earlier : List Moment) (w : World) : Prop :=
  (kept h w).map Frame.ofDividends = firstFrame? earlier

theorem firstFrame?_concat (earlier : List Moment) (m : Moment) :
    firstFrame? (earlier ++ [m]) = (firstFrame? earlier).or m.frame? := by
  rw [firstFrame?, List.findSome?_append, List.findSome?_singleton]
  rfl

/-- A moment that gives no dividends and keeps what was kept goes on reflecting. -/
theorem Reflects.concat {m : Moment} (reflects : Reflects h earlier m.before)
    (same : kept h m.after = kept h m.before) (none : m.frame? = none) :
    Reflects h (earlier ++ [m]) m.after := by
  rw [Reflects, same, firstFrame?_concat, none, Option.or_none]
  exact reflects

theorem history_traced (usable : Usable e h.symbol) (up : w.network.up = true)
    (reflects : Reflects h earlier w) (period : Period) :
    Traced e h earlier (momentOf e h (.history period) w) ∧
      Reflects h (earlier ++ [momentOf e h (.history period) w])
        (momentOf e h (.history period) w).after := by
  obtain ⟨r, o, isGet, outcome⟩ := history_sends usable up period
  have moment : momentOf e h (.history period) w =
      ⟨.history period, w, o.map .prices, World.sending w r⟩ := by
    rw [momentOf, give, Query.outcome_map, outcome]
  rw [moment]
  refine ⟨⟨?_, nofun, nofun, nofun, fun _ => rfl⟩, reflects.concat rfl ?_⟩
  · rintro period' same
    cases same
    exact ⟨r, isGet, sending_sentUntil w r⟩
  · cases o <;> rfl

/-- Dividends that are kept are the frame that was given first. -/
theorem Reflects.firstFrame?_eq (reflects : Reflects h earlier w) :
    firstFrame? earlier = (kept h w).map Frame.ofDividends :=
  Eq.symm reflects

/-- Dividends that are kept are given again, and nothing is sent. -/
theorem dividends_traced_of_kept {ds : List Dividend} (held : kept h w = some ds)
    (reflects : Reflects h earlier w) :
    Traced e h earlier (momentOf e h .dividends w) ∧
      Reflects h (earlier ++ [momentOf e h .dividends w]) (momentOf e h .dividends w).after := by
  have first : firstFrame? earlier = some (Frame.ofDividends ds) := by
    rw [reflects.firstFrame?_eq, held]
    rfl
  have moment : momentOf e h .dividends w =
      ⟨.dividends, w, .ok (.dividends (Frame.ofDividends ds)), w⟩ := by
    rw [momentOf, give, Query.outcome_map, dividends_of_kept held]
    rfl
  rw [moment]
  refine ⟨⟨nofun, ?_, ?_, nofun, fun other => absurd rfl other⟩, ?_⟩
  · intro _ none
    rw [first] at none
    cases none
  · intro frame _ some
    rw [first] at some
    cases some
    exact ⟨sentUntil_of_sends rfl, rfl⟩
  · rw [Reflects, firstFrame?_concat, first, held]
    rfl

/-- Dividends that are not kept are asked for; if they come they are the first ones, and kept. -/
theorem dividends_traced_of_unkept (usable : Usable e h.symbol) (up : w.network.up = true)
    (unheld : kept h w = none) (reflects : Reflects h earlier w) :
    Traced e h earlier (momentOf e h .dividends w) ∧
      Reflects h (earlier ++ [momentOf e h .dividends w]) (momentOf e h .dividends w).after := by
  have first : firstFrame? earlier = none := by
    rw [reflects.firstFrame?_eq, unheld]
    rfl
  have never : ∀ frame, firstFrame? earlier ≠ some frame := by
    rw [first]
    exact nofun
  obtain ⟨r, isGet, ⟨f, outcome⟩ | ⟨ds, outcome⟩⟩ := dividends_of_unkept usable up unheld
  · have moment : momentOf e h .dividends w = ⟨.dividends, w, .error f, World.sending w r⟩ := by
      rw [momentOf, give, Query.outcome_map, outcome]
      rfl
    rw [moment]
    exact ⟨⟨nofun, fun _ _ => ⟨r, isGet, sending_sentUntil w r⟩,
      fun frame _ some => absurd some (never frame), fun _ _ _ => unheld,
      fun other => absurd rfl other⟩, reflects.concat rfl rfl⟩
  · have moment : momentOf e h .dividends w =
        ⟨.dividends, w, .ok (.dividends (Frame.ofDividends ds)),
          (World.sending w r).remember h fun m => { m with dividends := some ds }⟩ := by
      rw [momentOf, give, Query.outcome_map, outcome]
      rfl
    rw [moment]
    refine ⟨⟨nofun, fun _ _ => ⟨r, isGet, sentUntil_of_sends rfl⟩,
      fun frame _ some => absurd some (never frame), nofun, fun other => absurd rfl other⟩, ?_⟩
    rw [Reflects, firstFrame?_concat, first, kept, remember_dividends]
    rfl

theorem info_traced (reflects : Reflects h earlier w) :
    Traced e h earlier (momentOf e h .info w) ∧
      Reflects h (earlier ++ [momentOf e h .info w]) (momentOf e h .info w).after := by
  have same : kept h (momentOf e h .info w).after = kept h w := by
    show kept h ((give e h .info).outcome w).2 = _
    rw [give, Query.outcome_map]
    exact kept_of_keepsDividends (KeepsDividends.info e) w
  have none : (momentOf e h .info w).frame? = none := by
    rw [Moment.frame?, momentOf, give, Query.outcome_map]
    cases ((info e h).outcome w).1 <;> rfl
  exact ⟨⟨nofun, nofun, nofun, nofun, fun _ => same⟩, Reflects.concat reflects same none⟩

/-- Every question is traced, and what is kept goes on making the frame that was given first. -/
theorem question_traced (usable : Usable e h.symbol) (up : w.network.up = true)
    (reflects : Reflects h earlier w) (ask : Ask) :
    Traced e h earlier (momentOf e h ask w) ∧
      Reflects h (earlier ++ [momentOf e h ask w]) (momentOf e h ask w).after := by
  cases ask with
  | history period => exact history_traced usable up reflects period
  | dividends =>
    cases held : kept h w with
    | some ds => exact dividends_traced_of_kept held reflects
    | none => exact dividends_traced_of_unkept usable up held reflects
  | info => exact info_traced reflects

/-- No question takes the network down. -/
theorem up_after (up : w.network.up = true) (ask : Ask) :
    (momentOf e h ask w).after.network.up = true := by
  have performed : ((ask.perform e h).outcome w).2 = (momentOf e h ask w).after := by
    cases ask <;>
      simp only [Ask.perform, momentOf, give, Query.outcome_map]
  obtain ⟨xs, asked⟩ := SessionLog.exists_asked e h ask w
  rw [← performed, asked.stage.network, Network.sends_up]
  exact up

/-- In a run from a world that reflects the past, every question is traced. -/
theorem moments_traced (usable : Usable e h.symbol) (asks : List Ask) :
    ∀ {past : List Moment} {w : World}, w.network.up = true → Reflects h past w →
      ∀ {earlier later : List Moment} {m : Moment},
        moments e h asks w = earlier ++ m :: later → Traced e h (past ++ earlier) m := by
  -- What is kept makes the frame that was given first; each question carries this on.
  induction asks with
  | nil =>
    intro past w _ _ earlier later m split
    simp [moments] at split
  | cons ask asks ih =>
    intro past w up reflects earlier later m split
    obtain ⟨traced, next⟩ := question_traced usable up reflects ask
    rw [moments] at split
    cases earlier with
    | nil =>
      obtain ⟨rfl, -⟩ := List.cons.inj split
      rw [List.append_nil]
      exact traced
    | cons first earlier =>
      obtain ⟨rfl, rest⟩ := List.cons.inj split
      rw [List.append_cons]
      exact ih (up_after up ask) next rest

end Questions

/-! ## Fetching a history -/

/-- These requests are the ones for a history through a handle, asked in a world: the one for
prices, and after it the one for dividends if the prices were there and none had been kept. -/
def HistoryRequests (e : Endpoints) (h : Handle) (period : Period) (w : World)
    (sent : List Request) : Prop :=
  ∃ first rest, IsChartGet e h period.text "1d" first ∧ sent = first :: rest ∧
    ((∃ f, ((history e h period).outcome w).1 = .error f) ∨ kept h w ≠ none → rest = []) ∧
    ((∃ frame, ((history e h period).outcome w).1 = .ok frame) → kept h w = none →
      ∃ second, IsChartGet e h "max" "1mo" second ∧ rest = [second])

section Fetching

variable {e : Endpoints} {h : Handle} {s : Symbol} {period : Period} {d d' : Desk World}

/-- A handle can always be acquired, and nothing is sent for it. -/
theorem acquire_sends_nothing (e : Endpoints) (s : Symbol) (d : Desk World) :
    ∃ h d', (Desk.acquire (provider e) s).outcome d = (.ok h, d') ∧
      d'.world.network = d.world.network := by
  cases fresh : d.cache.fresh? d.now s with
  | some h => exact ⟨h, d, Desk.acquire_of_fresh fresh, rfl⟩
  | none => exact ⟨⟨d.world.opened, s⟩, _, Desk.acquire_of_not_fresh fresh, rfl⟩

/-- The dividends that follow the prices are asked for at most once, and nothing is sent after
them. -/
theorem fetchHistory_world_of_prices {frame : Frame} {w : World}
    (run : (Desk.acquire (provider e) s).outcome d = (.ok h, d'))
    (answered : (history e h period).outcome d'.world = (.ok frame, w)) :
    ((Desk.fetchHistory (provider e) s period).outcome d).2.world =
      ((dividends e h).outcome w).2 := by
  cases asked : (dividends e h).outcome w with
  | mk o w' =>
    cases o with
    | error f => rw [Desk.fetchHistory_of_payments_error run answered asked]
    | ok payments => rw [Desk.fetchHistory_of_frames run answered asked]

/-- Fetching a history sends its requests. -/
theorem fetchHistory_requests (usable : Usable e h.symbol) (up : d'.world.network.up = true)
    (run : (Desk.acquire (provider e) s).outcome d = (.ok h, d')) :
    HistoryRequests e h period d'.world (World.sentUntil d'.world
      ((Desk.fetchHistory (provider e) s period).outcome d).2.world) := by
  obtain ⟨first, o, isFirst, asked⟩ := history_sends usable up period
  cases o with
  | error f =>
    rw [Desk.fetchHistory_of_prices_error run asked]
    refine ⟨first, [], isFirst, sending_sentUntil _ _, fun _ => rfl, ?_⟩
    rintro ⟨frame, ok⟩
    rw [asked] at ok
    cases ok
  | ok frame =>
    rw [fetchHistory_world_of_prices run asked]
    cases held : kept h d'.world with
    | some ds =>
      have again : kept h (World.sending d'.world first) = some ds := held
      rw [dividends_of_kept again]
      refine ⟨first, [], isFirst, sending_sentUntil _ _, fun _ => rfl, fun _ unheld => ?_⟩
      rw [held] at unheld
      cases unheld
    | none =>
      have still : kept h (World.sending d'.world first) = none := held
      obtain ⟨second, isSecond, answer⟩ :=
        dividends_of_unkept (w := World.sending d'.world first) usable up still
      have both : World.sentUntil d'.world
          ((dividends e h).outcome (World.sending d'.world first)).2 = [first, second] := by
        apply sentUntil_of_sends
        rcases answer with ⟨f, outcome⟩ | ⟨ds, outcome⟩
        · rw [outcome]
          rfl
        · rw [outcome]
          rfl
      refine ⟨first, [second], isFirst, both, ?_, fun _ _ => ⟨second, isSecond, rfl⟩⟩
      rintro (⟨f, failed⟩ | unkept)
      · rw [asked] at failed
        cases failed
      · exact absurd held unkept

end Fetching

/-- A network that fails the first request and answers the next two with an empty chart. -/
def failingOnce : Network where
  up := true
  deliveries := [.reply ⟨503, [], .complete []⟩, .reply emptyChart, .reply emptyChart]
  sent := []
where
  /-- A chart with neither rows nor dividends. -/
  emptyChart : Reply :=
    ⟨200, [], .complete
      "\x7b\"chart\":\x7b\"result\":[\x7b\"indicators\":\x7b\x7d\x7d]\x7d\x7d".toUTF8.toList⟩

/-- A desk in front of that network. -/
def failingOnceDesk : Desk World :=
  Session.fresh ⟨.epoch, true⟩ (.ofParts 2 0) (.start failingOnce)

example :
    (moments (.under "http://[::1]") ⟨0, ⟨"AAPL"⟩⟩
      [.dividends, .history .oneYear, .dividends, .info, .dividends] (.start failingOnce)).map
        (fun m => m.sent.length) = [1, 1, 1, 1, 0] := by
  decide +kernel

end MarketDesk.Yahoo.ChartTrace
