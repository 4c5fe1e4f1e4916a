import Mathlib.Data.List.Induction
import MarketDesk.Proofs.Log
import MarketDesk.Proofs.Yahoo.Exchange
import MarketDesk.Proofs.Yahoo.SessionReplies

/-!
# The session protocol

A handle asks for a cookie when it needs a session and holds none, for a crumb with the cookie
that the reply set, and for a summary with the session that it holds then. `Due` says which
request is due in which question after which exchanges, and a log of negotiations and summary
replies says which session a handle holds: the one on which the last negotiation agreed, unless a
summary was refused with 401 since. `run_follows_protocol` says that every question of every run
follows both.
-/

namespace MarketDesk.Yahoo.SessionLog

/-- A question to a handle. -/
inductive Ask where
  | history (period : Period)
  | dividends
  | info
  deriving DecidableEq, Repr

/-- Puts a question to a handle. -/
def Ask.perform (e : Endpoints) (h : Handle) : Ask → Query World Unit
  | .history period => (fun _ => ()) <$> Yahoo.history e h period
  | .dividends => (fun _ => ()) <$> Yahoo.dividends e h
  | .info => (fun _ => ()) <$> Yahoo.info e h

/-- A question of a run, with the world before and after it. -/
structure Moment where
  ask : Ask
  before : World
  after : World

/-- The moments of a run. -/
def moments (e : Endpoints) (h : Handle) : List Ask → World → List Moment
  | [], _ => []
  | ask :: asks, w =>
    let after := ((ask.perform e h).outcome w).2
    ⟨ask, w, after⟩ :: moments e h asks after

/-- The session that a handle holds. -/
def held (h : Handle) (w : World) : Option Session := (w.memory h.serial).session

/-- What was exchanged in a moment. -/
def Moment.exchanges (m : Moment) : List Exchange :=
  m.before.network.exchanges (m.after.network.sent.drop m.before.network.sent.length)

/-! ## The protocol -/

/-- The reply of an exchange sets a cookie. -/
def Sets (x : Exchange) (cookie : String) : Prop :=
  ∃ r, x.delivery = .reply r ∧ r.SetsCookie cookie

/-- The reply of an exchange gives a crumb. -/
def Gives (x : Exchange) (crumb : String) : Prop :=
  ∃ r, x.delivery = .reply r ∧ r.GivesCrumb crumb

/-- The exchanges agree on a session: they are two, of which the first sets its cookie and the
second gives its crumb. -/
def Agree (xs : List Exchange) (s : Session) : Prop :=
  ∃ x y, xs = [x, y] ∧ Sets x s.cookie ∧ Gives y s.crumb

/-- The request asks for a chart. -/
def IsChartRequest (e : Endpoints) (h : Handle) (range interval : String) : Request → Prop :=
  IsSymbolRequest e.chart h.symbol
    [("range", range), ("interval", interval), ("events", "div")] none

/-- The request asks for a summary under a session. -/
def IsSummaryRequest (e : Endpoints) (h : Handle) (s : Session) : Request → Prop :=
  IsSymbolRequest e.quoteSummary h.symbol
    [("modules",
      "price,summaryDetail,defaultKeyStatistics,financialData,assetProfile,calendarEvents"),
      ("crumb", s.crumb)] (some s.cookie)

/-- The request that is due in a question, by what the handle keeps and what has been exchanged. -/
inductive Due (e : Endpoints) (h : Handle) : Ask → Memo → List Exchange → Request → Prop where
  | history {p : Period} {m : Memo} {r : Request} :
      IsChartRequest e h p.text "1d" r → Due e h (.history p) m [] r
  | dividends {m : Memo} {r : Request} : m.dividends = none →
      IsChartRequest e h "max" "1mo" r → Due e h .dividends m [] r
  /-- A summary is asked for with the session held. -/
  | held {m : Memo} {s : Session} {r : Request} : m.session = some s →
      IsSummaryRequest e h s r → Due e h .info m [] r
  /-- A cookie is asked for if no session is held. -/
  | cookie {m : Memo} {r : Request} : m.session = none →
      IsServiceRequest e.cookie none r → Due e h .info m [] r
  /-- A crumb is asked for with the cookie that was set. -/
  | crumb {m : Memo} {x : Exchange} {cookie : String} {r : Request} : m.session = none →
      Sets x cookie → IsServiceRequest e.crumb (some cookie) r → Due e h .info m [x] r
  /-- A summary is asked for with the session just negotiated. -/
  | negotiated {m : Memo} {x y : Exchange} {s : Session} {r : Request} : m.session = none →
      Agree [x, y] s → IsSummaryRequest e h s r → Due e h .info m [x, y] r

/-! ## The log -/

/-- What a log remembers: the exchanges of negotiations that were completed, well or badly, and the
statuses of summary replies. -/
inductive Event where
  | negotiated (xs : List Exchange)
  | summarized (status : Nat)

/-- The event of a summary request, if it was answered. -/
def summarized (x : Exchange) : Option Event := x.reply?.map fun reply => .summarized reply.status

/-- The events of a question that begins with a session or with none. -/
def eventsOf : Ask → Option Session → List Exchange → List Event
  | .info, none, xs => .negotiated (xs.take 2) :: (xs.drop 2).filterMap summarized
  | .info, some _, xs => xs.filterMap summarized
  | _, _, _ => []

/-- What a moment adds to the log. -/
def Moment.events (h : Handle) (m : Moment) : List Event :=
  eventsOf m.ask (held h m.before) m.exchanges

/-- The log keeps a session: the last negotiation agreed on it, and no summary was refused since. -/
def Kept (log : List Event) (s : Session) : Prop :=
  ∃ earlier xs since, log = earlier ++ .negotiated xs :: since ∧ Agree xs s ∧
    (∀ xs', .negotiated xs' ∉ since) ∧ .summarized 401 ∉ since

/-- A moment follows the protocol. -/
structure Proper (e : Endpoints) (h : Handle) (m : Moment) : Prop where
  /-- Each request that left was due. -/
  due : Conversation (Due e h m.ask (m.before.memory h.serial)) m.exchanges
  /-- No request that was due was left out, unless the network was down. -/
  complete : m.before.network.up = true →
    ∀ r, ¬ Due e h m.ask (m.before.memory h.serial) m.exchanges r
  /-- Nothing else happened on the network. -/
  network : m.after.network = m.before.network.sends (m.exchanges.map Exchange.request)
  /-- A session is replaced or dropped by nothing but a negotiation and a refusal. -/
  unchanged : (∀ xs s, Agree xs s → .negotiated xs ∉ m.events h) →
    .summarized 401 ∉ m.events h → held h m.after = held h m.before

/-- The moments after a log follow the protocol, and a handle holds what the log keeps. -/
def Follows (e : Endpoints) (h : Handle) : List Event → List Moment → Prop
  | _, [] => True
  | log, m :: ms => Proper e h m ∧
      (∀ s, held h m.after = some s ↔ Kept (log ++ m.events h) s) ∧
      Follows e h (log ++ m.events h) ms

/-! ## What a log keeps -/

/-- The cookie that the client finds in an exchange. -/
def cookie? (x : Exchange) : Option String := x.reply?.bind Reply.cookie?

/-- The crumb that the client finds in an exchange. -/
def crumb? (symbol : Symbol) (x : Exchange) : Option String :=
  x.reply?.bind fun reply => (crumbOf? symbol reply).toOption

/-- The session that the client makes of exchanges. -/
def agreed? (symbol : Symbol) : List Exchange → Option Session
  | [x, y] => (cookie? x).bind fun cookie => (crumb? symbol y).map fun crumb => ⟨cookie, crumb⟩
  | _ => none

section Logs

variable {symbol : Symbol} {x : Exchange} {xs : List Exchange} {s : Session} {log : List Event}

theorem reply?_eq_some_iff {r : Reply} : x.reply? = some r ↔ x.delivery = .reply r := by
  rw [Exchange.reply?]
  cases x.delivery <;> simp [Delivery.reply?]

theorem sets_iff {cookie : String} : Sets x cookie ↔ cookie? x = some cookie := by
  simp only [Sets, cookie?, Option.bind_eq_some_iff, reply?_eq_some_iff, cookie?_eq_some_iff]

theorem gives_iff {crumb : String} : Gives x crumb ↔ crumb? symbol x = some crumb := by
  have taken : ∀ r, (crumbOf? symbol r).toOption = some crumb ↔ r.GivesCrumb crumb := by
    intro r
    have same : crumbOf? symbol r = .ok crumb ↔ r.GivesCrumb crumb := crumbOf?_eq_ok_iff
    rw [← same]
    cases crumbOf? symbol r <;> simp [Except.toOption]
  simp only [Gives, crumb?, Option.bind_eq_some_iff, reply?_eq_some_iff, taken]

/-- The client makes of exchanges the session on which they agree. -/
theorem agree_iff : Agree xs s ↔ agreed? symbol xs = some s := by
  unfold Agree agreed?
  split
  next x y =>
    simp only [List.cons.injEq, and_true, Option.bind_eq_some_iff, Option.map_eq_some_iff]
    constructor
    · rintro ⟨_, _, ⟨rfl, rfl⟩, sets, gives⟩
      exact ⟨_, sets_iff.1 sets, _, gives_iff.1 gives, rfl⟩
    · rintro ⟨cookie, sets, crumb, gives, rfl⟩
      exact ⟨x, y, ⟨rfl, rfl⟩, sets_iff.2 sets, gives_iff.2 gives⟩
  next other =>
    constructor
    · rintro ⟨x, y, rfl, -⟩
      exact absurd rfl (other x y)
    · nofun

/-- What an event makes of the session held. -/
def Event.apply (symbol : Symbol) : Option Session → Event → Option Session
  | _, .negotiated xs => agreed? symbol xs
  | s, .summarized status => if status = 401 then none else s

theorem not_kept_nil (s : Session) : ¬ Kept [] s := by
  rintro ⟨earlier, xs, since, split, -⟩
  simp at split

theorem kept_concat_negotiated : Kept (log ++ [.negotiated xs]) s ↔ Agree xs s := by
  constructor
  · rintro ⟨earlier, xs', since, split, agree, last, -⟩
    rcases concat_eq_split_iff.1 split with ⟨-, same, -⟩ | ⟨since', rfl, -⟩
    · cases same
      exact agree
    · exact absurd (List.mem_append_right _ (List.mem_singleton.2 rfl)) (last xs)
  · exact fun agree => ⟨log, xs, [], rfl, agree, by simp, by simp⟩

theorem kept_concat_summarized {status : Nat} :
    Kept (log ++ [.summarized status]) s ↔ status ≠ 401 ∧ Kept log s := by
  constructor
  · rintro ⟨earlier, xs, since, split, agree, last, accepted⟩
    rcases concat_eq_split_iff.1 split with ⟨-, same, -⟩ | ⟨since', rfl, rfl⟩
    · cases same
    · rw [List.mem_append, not_or] at accepted
      refine ⟨?_, earlier, xs, since', rfl, agree, ?_, accepted.1⟩
      · rintro rfl
        exact accepted.2 (List.mem_singleton.2 rfl)
      · exact fun xs' mem => last xs' (List.mem_append_left _ mem)
  · rintro ⟨other, earlier, xs, since, rfl, agree, last, accepted⟩
    refine ⟨earlier, xs, since ++ [.summarized status], by simp, agree, by simpa using last, ?_⟩
    rw [List.mem_append, not_or, List.mem_singleton, Event.summarized.injEq]
    exact ⟨accepted, Ne.symm other⟩

/-- The session that is left when the events of a log are applied one by one is the one that the
log keeps. -/
theorem foldl_apply_eq_some_iff (symbol : Symbol) (log : List Event) (s : Session) :
    log.foldl (Event.apply symbol) none = some s ↔ Kept log s := by
  induction log using List.reverseRecOn with
  | nil =>
    constructor
    · intro h
      cases h
    · exact fun h => absurd h (not_kept_nil s)
  | append_singleton log event ih =>
    rw [List.foldl_append]
    cases event with
    | negotiated xs => exact agree_iff.symm.trans kept_concat_negotiated.symm
    | summarized status =>
      rw [kept_concat_summarized, ← ih]
      show (if status = 401 then none else log.foldl (Event.apply symbol) none) = some s ↔ _
      split
      next refused => simp [refused]
      next other => simp [other]

end Logs

/-! ## Questions -/

section Questions

variable {e : Endpoints} {h : Handle} {w v : World} {xs : List Exchange}
  {due : List Exchange → Request → Prop}

@[simp] theorem outcome_memo (h : Handle) (w : World) :
    (memo h).outcome w = (.ok (w.memory h.serial), w) := rfl

@[simp] theorem outcome_remember (h : Handle) (change : Memo → Memo) (w : World) :
    (remember h change).outcome w = (.ok (), w.remember h change) := rfl

theorem held_remember (h : Handle) (change : Memo → Memo) (w : World) :
    held h (w.remember h change) = (change (w.memory h.serial)).session :=
  congrArg Memo.session (if_pos rfl)

theorem held_congr (same : v.memory = w.memory) : held h v = held h w := by
  rw [held, same, held]

/-- A chart is asked for at most once, and exactly once if it can be asked for. -/
theorem fetchChart_stage {range interval : String}
    (h' : ∀ r, due [] r ↔ IsChartRequest e h range interval r)
    (w : World) :
    ∃ o v xs, (fetchChart e h range interval).outcome w = (o, v) ∧ Stage due w xs v ∧
      v.memory = w.memory ∧
      ((xs = [] ∧ (w.network.up = true → ∀ r, ¬ due [] r)) ∨ ∃ x, xs = [x]) := by
  rw [fetchChart_eq]
  rcases Stage.start.request (fun r => (h' r).2)
    (requestSymbol_requested e.chart h.symbol (chartParameters range interval) none w) with
    ⟨f, failed, none⟩ | ⟨x, u, stage, same, ⟨f, failed, -⟩ | ⟨reply, answered, -⟩⟩
  · rw [Query.outcome_bind_error failed]
    exact ⟨_, w, [], rfl, .start, rfl, Or.inl ⟨rfl, fun up r => (h' r).not.2 (none up r)⟩⟩
  · rw [Query.outcome_bind_error failed]
    exact ⟨_, u, [x], rfl, stage, same, Or.inr ⟨x, rfl⟩⟩
  · rw [Query.outcome_bind_ok answered, orFail, Query.outcome_ofExcept]
    exact ⟨_, u, [x], rfl, stage, same, Or.inr ⟨x, rfl⟩⟩

/-- The question was asked in the exchanges `xs` and left `v`. -/
structure Asked (e : Endpoints) (h : Handle) (ask : Ask) (w : World) (xs : List Exchange)
    (v : World) : Prop where
  stage : Stage (Due e h ask (w.memory h.serial)) w xs v
  complete : w.network.up = true → ∀ r, ¬ Due e h ask (w.memory h.serial) xs r
  session : held h v = (eventsOf ask (held h w) xs).foldl (Event.apply h.symbol) (held h w)

theorem history_asked (e : Endpoints) (h : Handle) (period : Period) (w : World) :
    ∃ xs, Asked e h (.history period) w xs ((Ask.perform e h (.history period)).outcome w).2 := by
  have first : ∀ r, Due e h (.history period) (w.memory h.serial) [] r ↔
      IsChartRequest e h period.text "1d" r := by
    intro r
    constructor
    · intro due
      cases due with
      | history sent => exact sent
    · exact .history
  obtain ⟨o, v, xs, outcome, stage, same, sent⟩ := fetchChart_stage first w
  have after : ((Ask.perform e h (.history period)).outcome w).2 = v := by
    show ((_ <$> (fetchChart e h period.text "1d" >>= _)).outcome w).2 = v
    rw [Query.outcome_map, Query.outcome_bind, outcome]
    cases o <;> rfl
  rw [after]
  refine ⟨xs, stage, ?_, held_congr same⟩
  rcases sent with ⟨rfl, none⟩ | ⟨x, rfl⟩
  · exact none
  · rintro - r ⟨⟩

theorem dividends_asked (e : Endpoints) (h : Handle) (w : World) :
    ∃ xs, Asked e h .dividends w xs ((Ask.perform e h .dividends).outcome w).2 := by
  cases kept : (w.memory h.serial).dividends with
  | some ds =>
    have after : ((Ask.perform e h .dividends).outcome w).2 = w := by
      show ((_ <$> (memo h >>= _)).outcome w).2 = w
      rw [Query.outcome_map, Query.outcome_bind_ok (outcome_memo h w), kept]
      rfl
    rw [after]
    refine ⟨[], .start, ?_, rfl⟩
    intro _ r due
    cases due with
    | dividends unkept sent =>
      rw [kept] at unkept
      cases unkept
  | none =>
    have first : ∀ r, Due e h .dividends (w.memory h.serial) [] r ↔
        IsChartRequest e h Period.max.text "1mo" r := by
      intro r
      constructor
      · intro due
        cases due with
        | dividends _ sent => exact sent
      · exact .dividends kept
    obtain ⟨o, v, xs, outcome, stage, same, sent⟩ := fetchChart_stage first w
    have complete : w.network.up = true → ∀ r, ¬ Due e h .dividends (w.memory h.serial) xs r := by
      rcases sent with ⟨rfl, none⟩ | ⟨x, rfl⟩
      · exact none
      · rintro - r ⟨⟩
    have after : ((Ask.perform e h .dividends).outcome w).2 =
        ((fetchChart e h Period.max.text "1mo" >>= fun chart => do
          remember h fun m => { m with dividends := some chart.dividends }
          pure (Frame.ofDividends chart.dividends)).outcome w).2 := by
      show ((_ <$> (memo h >>= _)).outcome w).2 = _
      rw [Query.outcome_map, Query.outcome_bind_ok (outcome_memo h w), kept]
    rw [after]
    cases o with
    | error f =>
      rw [Query.outcome_bind_error outcome]
      exact ⟨xs, stage, complete, held_congr same⟩
    | ok chart =>
      rw [Query.outcome_bind_ok outcome, Query.outcome_bind_ok (outcome_remember _ _ _),
        Query.outcome_pure]
      dsimp only
      refine ⟨xs, stage.remember _ _, complete, ?_⟩
      rw [held_remember]
      exact held_congr same

/-- Asks for the modules of a symbol under a session. -/
def summarize (e : Endpoints) (h : Handle) (s : Session) : Query World Modules := do
  let reply ← requestSymbol e.quoteSummary h.symbol (summaryParameters s) (some s.cookie)
  if reply.status = 401 then remember h fun m => { m with session := none }
  orFail (modulesOf? h.symbol reply)

theorem fetchModules_eq (e : Endpoints) (h : Handle) :
    fetchModules e h = session e h >>= summarize e h := by
  unfold fetchModules summarize requestSymbol
  simp only [bind_assoc]

/-- A summary is asked for at most once, and exactly once if it can be asked for; one that is
refused makes the handle drop its session. -/
theorem summarize_stage {s : Session} {u : World}
    (h' : ∀ r, due xs r ↔ IsSummaryRequest e h s r) (stage : Stage due w xs v)
    (after : ((summarize e h s).outcome v).2 = u) :
    (Stage due w xs u ∧ held h u = held h v ∧ (w.network.up = true → ∀ r, ¬ due xs r)) ∨
      ∃ x, Stage due w (xs ++ [x]) u ∧
        held h u = ([x].filterMap summarized).foldl (Event.apply h.symbol) (held h v) := by
  unfold summarize at after
  rcases stage.request (fun r => (h' r).2)
    (requestSymbol_requested e.quoteSummary h.symbol (summaryParameters s) (some s.cookie) v) with
    ⟨f, failed, none⟩ | ⟨x, t, stage', same, ⟨f, failed, silent⟩ | ⟨reply, answered, replied⟩⟩
  · rw [Query.outcome_bind_error failed] at after
    subst after
    exact Or.inl ⟨stage, rfl, fun up r => (h' r).not.2 (none up r)⟩
  · rw [Query.outcome_bind_error failed] at after
    subst after
    refine Or.inr ⟨x, stage', ?_⟩
    rw [held_congr same, List.filterMap_cons, summarized, silent]
    rfl
  · rw [Query.outcome_bind_ok answered] at after
    have events : [x].filterMap summarized = [.summarized reply.status] := by
      rw [List.filterMap_cons, summarized, replied]
      rfl
    refine Or.inr ⟨x, ?_⟩
    rw [events]
    dsimp only at after
    by_cases refused : reply.status = 401
    · rw [if_pos refused, Query.outcome_bind_ok (outcome_remember _ _ _), orFail,
        Query.outcome_ofExcept] at after
      dsimp only at after
      subst after
      refine ⟨stage'.remember _ _, ?_⟩
      rw [held_remember]
      exact (if_pos refused).symm
    · rw [if_neg refused, orFail, Query.outcome_ofExcept] at after
      subst after
      exact ⟨stage', (held_congr same).trans (if_neg refused).symm⟩

/-- A negotiation fails after at most two exchanges, when no request is due any more, or it gives
the session on which two exchanges agree. -/
theorem negotiate_stage (e : Endpoints) (unheld : (w.memory h.serial).session = none) :
    ∃ o v xs, (negotiate e h).outcome w = (o, v) ∧
      Stage (Due e h .info (w.memory h.serial)) w xs v ∧ v.memory = w.memory ∧
      ((∃ f, o = .error f ∧ agreed? h.symbol xs = none ∧ xs.length ≤ 2 ∧
          (w.network.up = true → ∀ r, ¬ Due e h .info (w.memory h.serial) xs r)) ∨
        ∃ s x y, o = .ok s ∧ xs = [x, y] ∧ Agree [x, y] s) := by
  have due_cookie : ∀ r, Due e h .info (w.memory h.serial) [] r →
      IsServiceRequest e.cookie none r := by
    intro r due
    cases due with
    | held some sent =>
      rw [unheld] at some
      cases some
    | cookie _ sent => exact sent
  have due_crumb : ∀ x r, Due e h .info (w.memory h.serial) [x] r →
      ∃ cookie, cookie? x = some cookie ∧ IsServiceRequest e.crumb (some cookie) r := by
    intro x r due
    cases due with
    | crumb _ sets sent => exact ⟨_, sets_iff.1 sets, sent⟩
  have due_summary : ∀ x y r, Due e h .info (w.memory h.serial) [x, y] r →
      ∃ s, agreed? h.symbol [x, y] = some s := by
    intro x y r due
    cases due with
    | negotiated _ agree sent => exact ⟨_, agree_iff.1 agree⟩
  unfold negotiate
  rcases Stage.start.request (fun r => Due.cookie unheld)
    (requestService_requested e.cookie none w) with
    ⟨f, failed, none⟩ | ⟨x, u, stage, same, ⟨f, failed, silent⟩ | ⟨reply, answered, replied⟩⟩
  · rw [Query.outcome_bind_error failed]
    exact ⟨_, w, [], rfl, .start, rfl,
      Or.inl ⟨f, rfl, rfl, by simp, fun up r due => none up r (due_cookie r due)⟩⟩
  · rw [Query.outcome_bind_error failed]
    refine ⟨_, u, [x], rfl, stage, same, Or.inl ⟨f, rfl, rfl, by simp, ?_⟩⟩
    intro _ r due
    obtain ⟨cookie, set, -⟩ := due_crumb x r due
    rw [cookie?, silent] at set
    cases set
  rw [Query.outcome_bind_ok answered]
  have set : cookie? x = reply.cookie? := by
    rw [cookie?, replied]
    rfl
  cases kept : reply.cookie? with
  | none =>
    refine ⟨_, u, [x], rfl, stage, same, Or.inl ⟨_, rfl, rfl, by simp, ?_⟩⟩
    intro _ r due
    obtain ⟨cookie, some, -⟩ := due_crumb x r due
    rw [set, kept] at some
    cases some
  | some cookie =>
    rw [kept] at set
    rcases stage.request (fun r => Due.crumb unheld (sets_iff.2 set))
      (requestService_requested e.crumb (some cookie) u) with
      ⟨f, failed, none⟩ | ⟨y, v, stage', same', ⟨f, failed, silent⟩ | ⟨reply', answered', replied'⟩⟩
    · dsimp only
      rw [Query.outcome_bind_error failed]
      refine ⟨_, u, [x], rfl, stage, same, Or.inl ⟨f, rfl, rfl, by simp, ?_⟩⟩
      intro up r due
      obtain ⟨cookie', set', sent⟩ := due_crumb x r due
      rw [set] at set'
      cases set'
      exact none up r sent
    · dsimp only
      rw [Query.outcome_bind_error failed]
      have disagreed : agreed? h.symbol [x, y] = none := by
        rw [agreed?, crumb?, silent]
        cases cookie? x <;> rfl
      refine ⟨_, v, [x, y], rfl, stage', same'.trans same, Or.inl ⟨f, rfl, disagreed, by simp, ?_⟩⟩
      intro _ r due
      obtain ⟨s, agreed⟩ := due_summary x y r due
      rw [disagreed] at agreed
      cases agreed
    · dsimp only
      rw [Query.outcome_bind_ok answered']
      have made : agreed? h.symbol [x, y] =
          (crumbOf? h.symbol reply').toOption.map fun crumb => ⟨cookie, crumb⟩ := by
        rw [agreed?, set, crumb?, replied']
        rfl
      cases crumb : crumbOf? h.symbol reply' with
      | error f =>
        rw [crumb] at made
        refine ⟨_, v, [x, y], rfl, stage', same'.trans same, Or.inl ⟨_, rfl, made, by simp, ?_⟩⟩
        intro _ r due
        obtain ⟨s, agreed⟩ := due_summary x y r due
        rw [made] at agreed
        cases agreed
      | ok k =>
        rw [crumb] at made
        exact ⟨_, v, [x, y], rfl, stage', same'.trans same,
          Or.inr ⟨_, x, y, rfl, rfl, agree_iff.2 made⟩⟩

theorem session_of_held {s : Session} (e : Endpoints)
    (held : (w.memory h.serial).session = some s) : (session e h).outcome w = (.ok s, w) := by
  unfold session
  rw [Query.outcome_bind_ok (outcome_memo h w), held]
  rfl

theorem session_of_unheld (e : Endpoints) (unheld : (w.memory h.serial).session = none) :
    (session e h).outcome w =
      (negotiate e h >>= fun s => do
        remember h fun m => { m with session := some s }
        pure s).outcome w := by
  unfold session
  rw [Query.outcome_bind_ok (outcome_memo h w), unheld]

theorem perform_info (e : Endpoints) (h : Handle) (w : World) :
    ((Ask.perform e h .info).outcome w).2 =
      ((session e h >>= summarize e h).outcome w).2 := by
  show ((_ <$> (fetchModules e h >>= _)).outcome w).2 = _
  rw [Query.outcome_map, fetchModules_eq, Query.outcome_bind]
  cases (session e h >>= summarize e h).outcome w with
  | mk r v => cases r <;> rfl

/-- A question that begins with a session uses it. -/
theorem info_asked_of_held {s : Session} (e : Endpoints)
    (some : (w.memory h.serial).session = some s) :
    ∃ xs, Asked e h .info w xs ((Ask.perform e h .info).outcome w).2 := by
  have first : ∀ r, Due e h .info (w.memory h.serial) [] r ↔ IsSummaryRequest e h s r := by
    intro r
    constructor
    · intro due
      cases due with
      | held some' sent =>
        rw [some] at some'
        cases some'
        exact sent
      | cookie none sent =>
        rw [some] at none
        cases none
    · exact .held some
  have last : ∀ x r, ¬ Due e h .info (w.memory h.serial) [x] r := by
    intro x r due
    cases due with
    | crumb none set sent =>
      rw [some] at none
      cases none
  rw [perform_info, Query.outcome_bind_ok (session_of_held e some)]
  have holds : held h w = .some s := some
  rcases summarize_stage first Stage.start rfl with ⟨stage, same, none⟩ | ⟨x, stage, after⟩
  · refine ⟨[], stage, none, same.trans ?_⟩
    rw [holds]
    rfl
  · refine ⟨[x], stage, fun _ => last x, after.trans ?_⟩
    rw [holds]
    rfl

/-- A question that begins without a session negotiates one, and uses it. -/
theorem info_asked_of_unheld (e : Endpoints) (none : (w.memory h.serial).session = none) :
    ∃ xs, Asked e h .info w xs ((Ask.perform e h .info).outcome w).2 := by
  have holds : held h w = .none := none
  obtain ⟨o, v, xs, outcome, stage, same, ⟨f, rfl, disagreed, short, complete⟩ |
    ⟨s, x, y, rfl, rfl, agree⟩⟩ := negotiate_stage e none
  · rw [perform_info, Query.outcome_bind_error
      ((session_of_unheld e none).trans (Query.outcome_bind_error outcome _))]
    refine ⟨xs, stage, complete, (held_congr same).trans ?_⟩
    rw [holds, eventsOf, List.take_of_length_le short, List.drop_eq_nil_of_le short]
    exact disagreed.symm
  · have agreed : agreed? h.symbol [x, y] = some s := agree_iff.1 agree
    have third : ∀ r, Due e h .info (w.memory h.serial) [x, y] r ↔ IsSummaryRequest e h s r := by
      intro r
      constructor
      · intro due
        cases due with
        | negotiated _ agree' sent =>
          have agreed' : agreed? h.symbol [x, y] = _ := agree_iff.1 agree'
          rw [agreed] at agreed'
          cases agreed'
          exact sent
      · exact .negotiated none agree
    have last : ∀ z r, ¬ Due e h .info (w.memory h.serial) [x, y, z] r := by
      rintro z r ⟨⟩
    have negotiated : (session e h).outcome w =
        (.ok s, v.remember h fun m => { m with session := some s }) := by
      rw [session_of_unheld e none, Query.outcome_bind_ok outcome,
        Query.outcome_bind_ok (outcome_remember h _ v), Query.outcome_pure]
    have kept : held h (v.remember h fun m => { m with session := some s }) = some s := by
      rw [held_remember]
    have began : ∀ events : List Event, (.negotiated [x, y] :: events).foldl
        (Event.apply h.symbol) Option.none = events.foldl (Event.apply h.symbol) (some s) :=
      fun events => congrArg (fun o => events.foldl (Event.apply h.symbol) o) agreed
    rw [perform_info, Query.outcome_bind_ok negotiated]
    rcases summarize_stage third (stage.remember h _) rfl with
      ⟨stage', same', none'⟩ | ⟨z, stage', after⟩
    · refine ⟨[x, y], stage', none', same'.trans ?_⟩
      rw [kept, holds]
      exact (began []).symm
    · refine ⟨[x, y, z], stage', fun _ => last z, after.trans ?_⟩
      rw [kept, holds]
      exact (began _).symm

/-- Every question follows the protocol. -/
theorem exists_asked (e : Endpoints) (h : Handle) (ask : Ask) (w : World) :
    ∃ xs, Asked e h ask w xs ((ask.perform e h).outcome w).2 := by
  cases ask with
  | history period => exact history_asked e h period w
  | dividends => exact dividends_asked e h w
  | info =>
    cases session : (w.memory h.serial).session with
    | none => exact info_asked_of_unheld e session
    | some s => exact info_asked_of_held e session

/-! ## Runs -/

/-- The exchanges of a question are those that can be read off the network. -/
theorem Asked.exchanges_eq {ask : Ask} (a : Asked e h ask w xs v) :
    (Moment.mk ask w v).exchanges = xs := by
  show w.network.exchanges (v.network.sent.drop w.network.sent.length) = xs
  rw [a.stage.network, Network.sends_sent, List.drop_left, a.stage.matched]

/-- Summaries that are not refused leave a session as it is. -/
theorem foldl_apply_summarized {symbol : Symbol} {s : Option Session}
    (accepted : .summarized 401 ∉ xs.filterMap summarized) :
    (xs.filterMap summarized).foldl (Event.apply symbol) s = s := by
  induction xs with
  | nil => rfl
  | cons x xs ih =>
    cases reply : x.reply? with
    | none =>
      have silent : summarized x = none := by rw [summarized, reply]; rfl
      rw [List.filterMap_cons_none silent] at accepted ⊢
      exact ih accepted
    | some r =>
      have answered : summarized x = some (.summarized r.status) := by rw [summarized, reply]; rfl
      rw [List.filterMap_cons_some answered] at accepted ⊢
      rw [List.mem_cons, not_or] at accepted
      have other : r.status ≠ 401 := fun same => accepted.1 (by rw [same])
      rw [List.foldl_cons, Event.apply, if_neg other]
      exact ih accepted.2

theorem foldl_apply_of_unchanged {symbol : Symbol} {ask : Ask} {s : Option Session}
    (unmade : ∀ xs' s', Agree xs' s' → .negotiated xs' ∉ eventsOf ask s xs)
    (accepted : .summarized 401 ∉ eventsOf ask s xs) :
    (eventsOf ask s xs).foldl (Event.apply symbol) s = s := by
  cases ask with
  | history period => rfl
  | dividends => rfl
  | info =>
    cases s with
    | some s => exact foldl_apply_summarized accepted
    | none =>
      have failed : agreed? symbol (xs.take 2) = none := by
        cases agreed : agreed? symbol (xs.take 2) with
        | none => rfl
        | some s' => exact absurd List.mem_cons_self (unmade _ s' (agree_iff.2 agreed))
      rw [eventsOf, List.mem_cons, not_or] at accepted
      rw [eventsOf, List.foldl_cons, Event.apply, failed]
      exact foldl_apply_summarized accepted.2

theorem Asked.proper {ask : Ask} (a : Asked e h ask w xs v) : Proper e h ⟨ask, w, v⟩ where
  due := by
    rw [a.exchanges_eq]
    exact a.stage.conversation
  complete := by
    rw [a.exchanges_eq]
    exact a.complete
  network := by
    rw [a.exchanges_eq]
    exact a.stage.network
  unchanged none accepted := by
    rw [Moment.events, a.exchanges_eq] at none accepted
    exact a.session.trans (foldl_apply_of_unchanged none accepted)

theorem follows_of_log (e : Endpoints) (h : Handle) (asks : List Ask) {log : List Event}
    (reflects : held h w = log.foldl (Event.apply h.symbol) none) :
    Follows e h log (moments e h asks w) := by
  induction asks generalizing log w with
  | nil => trivial
  | cons ask asks ih =>
    obtain ⟨xs, asked⟩ := exists_asked e h ask w
    have after : held h ((ask.perform e h).outcome w).2 =
        (log ++ Moment.events h ⟨ask, w, ((ask.perform e h).outcome w).2⟩).foldl
          (Event.apply h.symbol) none := by
      rw [List.foldl_append, ← reflects, Moment.events, asked.exchanges_eq]
      exact asked.session
    refine ⟨asked.proper, fun s => ?_, ih after⟩
    rw [← foldl_apply_eq_some_iff h.symbol, ← after]

end Questions

/-- A network that sets a cookie, gives a crumb, and refuses the first summary. -/
def refusing : Network where
  up := true
  deliveries := [.reply ⟨404, [("Set-Cookie", "A1=x; path=/")], .complete []⟩,
    .reply ⟨200, [], .complete "Cr/1".toUTF8.toList⟩, .reply ⟨401, [], .cut⟩]
  sent := []

/-- The first question negotiates and is refused, so the last one asks for a cookie again. -/
example :
    (moments (.under "http://[::1]") ⟨0, ⟨"AAPL"⟩⟩ [.info, .dividends, .info]
      (World.start refusing)).map (fun m => m.exchanges.length) = [3, 1, 1] := by
  decide +kernel

end MarketDesk.Yahoo.SessionLog
