import MarketDesk.Proofs.Session.Observing
import MarketDesk.Proofs.Yahoo.SessionProtocol

/-!
# The age of dividends

A handle keeps its dividend series for good and has no clock. That a series is not used for longer
than the lifetime comes from the cache: a handle is opened before it is asked anything, and not
served any more when it has expired or was cleared. So a series that a step uses was received in
the same step, or in an earlier one whose time is less than a lifetime ago, and since which nothing
was cleared.

What a step uses is observed from outside: `heard` writes down what every question for dividends
was answered with.
-/

namespace MarketDesk

open MarketDesk.Calendar

/-- A world with the answers that questions for dividends got in it, in order. -/
structure Heard (W : Type) where
  world : W
  answers : List (Handle × Except Fault Frame)

/-- The provider with a record of its answers to questions for dividends. -/
def heard {W : Type} (p : Provider W) : Provider (Heard W) where
  create symbol := (p.create symbol).onPart Heard.world fun world r => { r with world }
  history handle period :=
    (p.history handle period).onPart Heard.world fun world r => { r with world }
  dividends handle := fun r =>
    let o := (p.dividends handle).outcome r.world
    (o.1, ⟨o.2, r.answers ++ [(handle, o.1)]⟩)
  info handle := (p.info handle).onPart Heard.world fun world r => { r with world }

/-- A record of dividend answers changes nothing. -/
theorem heard_mirrors {W : Type} (p : Provider W) : (heard p).Mirrors Heard.world p where
  create _ _ := rfl
  history _ _ _ := rfl
  dividends _ _ := rfl
  info _ _ := rfl

/-- The answers that questions for dividends got in a moment. -/
def Session.Moment.uses {W : Type} (m : Moment (Heard W)) : List (Handle × Except Fault Frame) :=
  m.after.world.answers.drop m.before.world.answers.length

/-- What was exchanged in a moment. -/
def Session.Moment.exchanges (m : Moment (Heard Yahoo.World)) : List Yahoo.Exchange :=
  m.before.world.world.network.exchanges
    (m.after.world.world.network.sent.drop m.before.world.world.network.sent.length)

namespace Yahoo.DividendAge

open MarketDesk.Session (Moment moments momentOf moments_cons Forward forward_cons)
open SessionLog (IsChartRequest)

/-- A reply to a request for the whole series of a symbol gives the dividends. -/
def Came (e : Endpoints) (h : Handle) (ds : List Dividend) (xs : List Exchange) : Prop :=
  ∃ x ∈ xs, ∃ reply chart, IsChartRequest e h Period.max.text "1mo" x.request ∧
    x.reply? = some reply ∧ chartOf? h.symbol reply = .ok chart ∧ chart.dividends = ds

/-- The dividends came in a moment, and were what the handle then answered. -/
structure Received (e : Endpoints) (h : Handle) (ds : List Dividend) (m : Moment (Heard World)) :
    Prop where
  came : Came e h ds m.exchanges
  used : (h, .ok (Frame.ofDividends ds)) ∈ m.uses

/-- The dividends came in the moment, or in one of the earlier ones whose time is less than a
lifetime ago, and nothing was cleared since then. -/
def Recent (e : Endpoints) (ttl : Nat) (earlier : List (Moment (Heard World)))
    (m : Moment (Heard World)) (h : Handle) (ds : List Dividend) : Prop :=
  Received e h ds m ∨
    ∃ first m' since, earlier = first ++ m' :: since ∧ Received e h ds m' ∧
      m.before.now.since m'.before.now < (ttl : Int) ∧ ∀ x ∈ since, x.step ≠ .clear

/-! ## What questions do to the memory -/

section Questions

variable {e : Endpoints} {h : Handle} {w u v : World} {α β : Type}

theorem remember_memory (w : World) (h : Handle) (change : Memo → Memo) :
    (w.remember h change).memory h.serial = change (w.memory h.serial) :=
  if_pos rfl

theorem remember_dividends (w : World) (h : Handle) (ds : List Dividend) :
    ((w.remember h fun m => { m with dividends := some ds }).memory h.serial).dividends =
      some ds := by
  rw [remember_memory]

/-- Nothing was opened, and no handle keeps other dividends than before. -/
structure Keeps (h : Handle) (w v : World) : Prop where
  opened : v.opened = w.opened
  others : ∀ n, n ≠ h.serial → v.memory n = w.memory n
  dividends : (v.memory h.serial).dividends = (w.memory h.serial).dividends

/-- The query leaves the dividends that are kept as they are. -/
def KeepsDividends (h : Handle) (q : Query World α) : Prop := ∀ w, Keeps h w (q.outcome w).2

theorem Keeps.refl (h : Handle) (w : World) : Keeps h w w := ⟨rfl, fun _ _ => rfl, rfl⟩

theorem Keeps.trans (first : Keeps h w u) (second : Keeps h u v) : Keeps h w v where
  opened := second.opened.trans first.opened
  others n other := (second.others n other).trans (first.others n other)
  dividends := second.dividends.trans first.dividends

/-- Asking for something leaves all that is kept as it is. -/
theorem Keeps.of_requested {is : Request → Prop} {w : World} {o : Except Fault Reply × World}
    (asked : Requested w is o) : Keeps h w o.2 :=
  ⟨asked.opened, fun n _ => congrFun asked.memory n, by rw [asked.memory]⟩

namespace KeepsDividends

theorem ofExcept (r : Except Fault α) : KeepsDividends h (Query.ofExcept r) := by
  intro w
  rw [Query.outcome_ofExcept]
  exact .refl h w

theorem pure (a : α) : KeepsDividends h (Pure.pure a : Query World α) := .refl h

theorem bind {q : Query World α} {k : α → Query World β} (first : KeepsDividends h q)
    (rest : ∀ a, KeepsDividends h (k a)) : KeepsDividends h (q >>= k) := by
  intro w
  have step := first w
  rw [Query.outcome_bind]
  split
  next a t asked =>
    rw [asked] at step
    exact step.trans (rest a t)
  next f t asked =>
    rw [asked] at step
    exact step

theorem requested {is : Request → Prop} {q : Query World Reply}
    (asked : ∀ w, Requested w is (q.outcome w)) : KeepsDividends h q :=
  fun w => .of_requested (asked w)

theorem remember {change : Memo → Memo} (same : ∀ m, (change m).dividends = m.dividends) :
    KeepsDividends h (remember h change) := by
  intro w
  have changed : (w.remember h change).memory h.serial = change (w.memory h.serial) :=
    remember_memory w h change
  refine ⟨rfl, fun n other => if_neg other, ?_⟩
  exact (congrArg Memo.dividends changed).trans (same _)

theorem fetchChart (e : Endpoints) (range interval : String) :
    KeepsDividends h (fetchChart e h range interval) := by
  rw [fetchChart_eq]
  exact (requested (requestSymbol_requested _ _ _ _)).bind fun reply => .ofExcept _

theorem history (e : Endpoints) (period : Period) : KeepsDividends h (history e h period) :=
  (fetchChart e _ _).bind fun _ => .pure _

theorem negotiate (e : Endpoints) : KeepsDividends h (negotiate e h) := by
  refine (requested (requestService_requested _ _)).bind fun reply => ?_
  split
  · exact .ofExcept (.error _)
  · exact (requested (requestService_requested _ _)).bind fun reply =>
      (ofExcept _).bind fun crumb => .pure _

theorem session (e : Endpoints) : KeepsDividends h (session e h) := by
  have memo : KeepsDividends h (memo h) := .refl h
  refine memo.bind fun m => ?_
  split
  · exact .pure _
  · refine (negotiate e).bind fun s => ?_
    refine bind ?_ fun _ => .pure s
    exact remember fun _ => rfl

theorem summarize (e : Endpoints) (s : Session) :
    KeepsDividends h (SessionLog.summarize e h s) := by
  refine (requested (requestSymbol_requested _ _ _ _)).bind fun reply => ?_
  split
  · refine bind ?_ fun _ => .ofExcept _
    exact remember fun _ => rfl
  · exact (pure ()).bind fun _ => .ofExcept _

theorem info (e : Endpoints) : KeepsDividends h (info e h) := by
  rw [Yahoo.info, SessionLog.fetchModules_eq]
  exact ((session e).bind (summarize e)).bind fun modules => .pure _

end KeepsDividends

/-- What questions through a handle did: the requests that they sent, and the answers that
questions for dividends got. A series that the handle keeps is kept for good, and is what the handle
answers; one that it did not keep before came in a reply. -/
structure Told (e : Endpoints) (h : Handle) (w : Heard World) (rs : List Request)
    (log : List (Handle × Except Fault Frame)) (v : Heard World) : Prop where
  network : v.world.network = w.world.network.sends rs
  answers : v.answers = w.answers ++ log
  opened : v.world.opened = w.world.opened
  others : ∀ n, n ≠ h.serial → v.world.memory n = w.world.memory n
  kept : ∀ ds, (w.world.memory h.serial).dividends = some ds →
    (v.world.memory h.serial).dividends = some ds
  came : ∀ ds, (v.world.memory h.serial).dividends = some ds →
    (w.world.memory h.serial).dividends = some ds ∨
      Came e h ds (w.world.network.exchanges rs) ∧ (h, .ok (Frame.ofDividends ds)) ∈ log
  used : ∀ h' frame, (h', .ok frame) ∈ log →
    h' = h ∧ ∃ ds, frame = Frame.ofDividends ds ∧ (v.world.memory h.serial).dividends = some ds

namespace Told

variable {w u v : Heard World} {rs rs' : List Request}
  {log log' : List (Handle × Except Fault Frame)}

theorem refl (e : Endpoints) (h : Handle) (w : Heard World) : Told e h w [] [] w where
  network := rfl
  answers := (List.append_nil _).symm
  opened := rfl
  others _ _ := rfl
  kept _ kept := kept
  came _ kept := Or.inl kept
  used _ _ used := by cases used

theorem trans (first : Told e h w rs log u) (second : Told e h u rs' log' v) :
    Told e h w (rs ++ rs') (log ++ log') v where
  network := by rw [second.network, first.network, Network.sends_append]
  answers := by rw [second.answers, first.answers, List.append_assoc]
  opened := second.opened.trans first.opened
  others n other := (second.others n other).trans (first.others n other)
  kept ds kept := second.kept ds (first.kept ds kept)
  came ds kept := by
    rw [Network.exchanges_append, ← first.network]
    rcases second.came ds kept with kept | ⟨⟨x, mem, reply⟩, answered⟩
    · rcases first.came ds kept with kept | ⟨⟨x, mem, reply⟩, answered⟩
      · exact Or.inl kept
      · exact Or.inr ⟨⟨x, List.mem_append_left _ mem, reply⟩, List.mem_append_left _ answered⟩
    · exact Or.inr ⟨⟨x, List.mem_append_right _ mem, reply⟩, List.mem_append_right _ answered⟩
  used h' frame used := by
    rcases List.mem_append.1 used with used | used
    · obtain ⟨same, ds, rfl, kept⟩ := first.used h' frame used
      exact ⟨same, ds, rfl, second.kept ds kept⟩
    · exact second.used h' frame used

/-- A question that leaves the dividends as they are. -/
theorem of_keeps {w' : World} (network : w'.network = w.world.network.sends rs)
    (keeps : Keeps h w.world w') : Told e h w rs [] { w with world := w' } where
  network := network
  answers := (List.append_nil _).symm
  opened := keeps.opened
  others := keeps.others
  kept ds kept := keeps.dividends.trans kept
  came ds kept := Or.inl (keeps.dividends.symm.trans kept)
  used _ _ used := by cases used

/-- Dividends that are kept are the answer. -/
theorem of_held {ds : List Dividend} (held : (w.world.memory h.serial).dividends = some ds) :
    Told e h w [] [(h, .ok (Frame.ofDividends ds))]
      ⟨w.world, w.answers ++ [(h, .ok (Frame.ofDividends ds))]⟩ where
  network := rfl
  answers := rfl
  opened := rfl
  others _ _ := rfl
  kept _ kept := kept
  came _ kept := Or.inl kept
  used h' frame used := by
    cases List.mem_singleton.1 used
    exact ⟨rfl, ds, rfl, held⟩

/-- A question for dividends that failed. -/
theorem of_failed {w' : World} {f : Fault} (network : w'.network = w.world.network.sends rs)
    (keeps : Keeps h w.world w') :
    Told e h w rs [(h, .error f)] ⟨w', w.answers ++ [(h, .error f)]⟩ where
  network := network
  answers := rfl
  opened := keeps.opened
  others := keeps.others
  kept ds kept := keeps.dividends.trans kept
  came ds kept := Or.inl (keeps.dividends.symm.trans kept)
  used h' frame used := by cases List.mem_singleton.1 used

/-- Dividends that came in a reply are the answer and are kept. -/
theorem of_reply {r : Request} {reply : Reply} {chart : Chart}
    (unheld : (w.world.memory h.serial).dividends = none)
    (sent : IsChartRequest e h Period.max.text "1mo" r)
    (answered : w.world.network.answer.reply? = some reply)
    (read : chartOf? h.symbol reply = .ok chart) :
    Told e h w [r] [(h, .ok (Frame.ofDividends chart.dividends))]
      ⟨World.remember { w.world with network := w.world.network.sending r } h
          fun m => { m with dividends := some chart.dividends },
        w.answers ++ [(h, .ok (Frame.ofDividends chart.dividends))]⟩ where
  network := rfl
  answers := rfl
  opened := rfl
  others n other := if_neg other
  kept ds kept := by
    rw [unheld] at kept
    cases kept
  came ds kept := by
    have same : some chart.dividends = some ds :=
      (remember_dividends _ h chart.dividends).symm.trans kept
    cases same
    exact Or.inr ⟨⟨_, List.mem_singleton.2 rfl, reply, chart, sent, answered, read, rfl⟩,
      List.mem_singleton.2 rfl⟩
  used h' frame used := by
    cases List.mem_singleton.1 used
    exact ⟨rfl, chart.dividends, rfl, remember_dividends _ h chart.dividends⟩

end Told

/-- A handle that keeps no dividends asks for them, and keeps those in the reply. -/
theorem dividends_of_unheld (e : Endpoints) {w : World}
    (unheld : (w.memory h.serial).dividends = none) :
    (dividends e h).outcome w =
      (requestSymbol e.chart h.symbol (chartParameters Period.max.text "1mo") none >>= fun reply =>
        orFail (chartOf? h.symbol reply) >>= fun chart => do
          remember h fun m => { m with dividends := some chart.dividends }
          pure (Frame.ofDividends chart.dividends)).outcome w := by
  have memo : (memo h).outcome w = (.ok (w.memory h.serial), w) := rfl
  rw [dividends, Query.outcome_bind_ok memo, unheld]
  simp only [fetchChart_eq, bind_assoc]

/-- A question for dividends is answered with those that are kept, or with those in the reply, which
are kept then. -/
theorem dividends_told (e : Endpoints) (h : Handle) (w : Heard World) :
    ∃ rs log, Told e h w rs log (((heard (provider e)).dividends h).outcome w).2 := by
  have outcome : ((heard (provider e)).dividends h).outcome w =
      (((dividends e h).outcome w.world).1, ⟨((dividends e h).outcome w.world).2,
        w.answers ++ [(h, ((dividends e h).outcome w.world).1)]⟩) := rfl
  rw [outcome]
  cases held : (w.world.memory h.serial).dividends with
  | some ds =>
    have memo : (memo h).outcome w.world = (.ok (w.world.memory h.serial), w.world) := rfl
    have answer : (dividends e h).outcome w.world = (.ok (Frame.ofDividends ds), w.world) := by
      rw [dividends, Query.outcome_bind_ok memo, held]
      rfl
    rw [answer]
    exact ⟨[], [(h, .ok (Frame.ofDividends ds))], .of_held held⟩
  | none =>
    rw [dividends_of_unheld e held]
    have asked := requestSymbol_requested e.chart h.symbol (chartParameters Period.max.text "1mo")
      none w.world
    generalize result : (requestSymbol e.chart h.symbol (chartParameters Period.max.text "1mo")
      none).outcome w.world = o at asked
    have keeps : Keeps h w.world o.2 := .of_requested asked
    cases asked with
    | unsent down =>
      rw [Query.outcome_bind_error result]
      exact ⟨[], _, .of_failed rfl keeps⟩
    | @unanswered f r sent none =>
      rw [Query.outcome_bind_error result]
      exact ⟨[r], _, .of_failed rfl keeps⟩
    | @answered reply r sent some =>
      rw [Query.outcome_bind_ok result, orFail]
      cases read : chartOf? h.symbol reply with
      | error err => exact ⟨[r], _, .of_failed rfl keeps⟩
      | ok chart => exact ⟨[r], _, .of_reply held sent some read⟩

/-- Questions through a handle tell what `Told` says. -/
theorem asking_told {q : Query (Heard World) α} (asking : Asking (heard (provider e)) h q)
    (w : Heard World) : ∃ rs log, Told e h w rs log (q.outcome w).2 := by
  induction asking generalizing w with
  | ofExcept r =>
    rw [Query.outcome_ofExcept]
    exact ⟨[], [], .refl e h w⟩
  | bind _ _ ih ihk =>
    obtain ⟨rs, log, first⟩ := ih w
    rw [Query.outcome_bind]
    split
    next a t asked =>
      rw [asked] at first
      obtain ⟨rs', log', second⟩ := ihk a t
      exact ⟨_, _, first.trans second⟩
    next f t asked =>
      rw [asked] at first
      exact ⟨_, _, first⟩
  | history period =>
    obtain ⟨xs, asked⟩ := SessionLog.exists_asked e h (.history period) w.world
    have sent := asked.stage.network
    rw [SessionLog.Ask.perform, Query.outcome_map] at sent
    exact ⟨_, [], .of_keeps sent (KeepsDividends.history e period w.world)⟩
  | dividends => exact dividends_told e h w
  | info =>
    obtain ⟨xs, asked⟩ := SessionLog.exists_asked e h .info w.world
    have sent := asked.stage.network
    rw [SessionLog.Ask.perform, Query.outcome_map] at sent
    exact ⟨_, [], .of_keeps sent (KeepsDividends.info e w.world)⟩

end Questions

/-! ## The handles of a desk -/

section Runs

variable {e : Endpoints} {past : List (Moment (Heard World))} {m : Moment (Heard World)}
  {d d' : Desk (Heard World)} {s : Symbol} {h : Handle} {opening : Instant} {ds : List Dividend}

/-- The dividends came in one of the moments, not before a time, and nothing was cleared since. -/
def Sourced (e : Endpoints) (past : List (Moment (Heard World))) (h : Handle)
    (ds : List Dividend) (opening : Instant) : Prop :=
  ∃ first m since, past = first ++ m :: since ∧ Received e h ds m ∧
    opening.nanos ≤ m.before.now.nanos ∧ ∀ x ∈ since, x.step ≠ .clear

theorem Sourced.concat (sourced : Sourced e past h ds opening) (kept : m.step ≠ .clear) :
    Sourced e (past ++ [m]) h ds opening := by
  obtain ⟨first, m', since, rfl, received, after, uncleared⟩ := sourced
  refine ⟨first, m', since ++ [m], by simp, received, after, fun x mem => ?_⟩
  rcases List.mem_append.1 mem with mem | mem
  · exact uncleared x mem
  · rw [List.mem_singleton.1 mem]
    exact kept

theorem Sourced.of_received (received : Received e h ds m)
    (after : opening.nanos ≤ m.before.now.nanos) : Sourced e (past ++ [m]) h ds opening :=
  ⟨past, m, [], rfl, received, after, fun x mem => by cases mem⟩

/-- Each stored handle is for its symbol and has its own memory, and the dividends there came after
it was opened. -/
structure Accounted (e : Endpoints) (past : List (Moment (Heard World)))
    (d : Desk (Heard World)) : Prop where
  keyed : d.cache.Keyed
  symbol : ∀ s x, (s, x) ∈ d.cache.entries → x.handle.symbol = s
  opened : ∀ s x, (s, x) ∈ d.cache.entries → x.handle.serial < d.world.world.opened
  created : ∀ s x, (s, x) ∈ d.cache.entries → x.created.nanos ≤ d.now.nanos
  distinct : ∀ s x s' x', (s, x) ∈ d.cache.entries → (s', x') ∈ d.cache.entries →
    x.handle.serial = x'.handle.serial → s = s'
  unopened : ∀ n, d.world.world.opened ≤ n → (d.world.world.memory n).dividends = none
  sourced : ∀ s x ds, (s, x) ∈ d.cache.entries →
    (d.world.world.memory x.handle.serial).dividends = some ds →
    Sourced e past x.handle ds x.created

theorem accounted_start (e : Endpoints) (network : Network) (clock : Clock)
    (lifetime : Lifetime) :
    Accounted e [] (Session.fresh clock lifetime ⟨.start network, []⟩) where
  keyed := Cache.keyed_empty lifetime
  symbol _ _ stored := by cases stored
  opened _ _ stored := by cases stored
  created _ _ stored := by cases stored
  distinct _ _ _ _ stored := by cases stored
  unopened _ _ := rfl
  sourced _ _ _ stored := by cases stored

theorem not_mem_upkeep_clear {step : Step} {x : Symbol × Entry}
    (stored : x ∈ (step.upkeep d).cache.entries) : step ≠ .clear := by
  rintro rfl
  cases stored

/-- Upkeep stores nothing new, and stores nothing at all if it clears. -/
theorem Accounted.upkeep (a : Accounted e past d) {step : Step} (same : m.step = step)
    (forward : d.now.nanos ≤ (step.upkeep d).now.nanos) :
    Accounted e (past ++ [m]) (step.upkeep d) where
  keyed := step.upkeep_keyed a.keyed
  symbol s x stored := a.symbol s x (Step.mem_of_mem_upkeep stored)
  opened s x stored := by
    rw [Step.upkeep_world]
    exact a.opened s x (Step.mem_of_mem_upkeep stored)
  created s x stored := Int.le_trans (a.created s x (Step.mem_of_mem_upkeep stored)) forward
  distinct s x s' x' stored stored' :=
    a.distinct s x s' x' (Step.mem_of_mem_upkeep stored) (Step.mem_of_mem_upkeep stored')
  unopened := by
    rw [Step.upkeep_world]
    exact a.unopened
  sourced s x ds stored kept := by
    rw [Step.upkeep_world] at kept
    have sourced := a.sourced s x ds (Step.mem_of_mem_upkeep stored) kept
    exact sourced.concat (same ▸ not_mem_upkeep_clear stored)

/-- A new handle has a memory of its own, which is empty. -/
theorem Accounted.newHandle (a : Accounted e past d) (s : Symbol) :
    Accounted e past
      { d with
        world := ⟨{ d.world.world with opened := d.world.world.opened + 1 }, d.world.answers⟩
        cache := d.cache.insert s ⟨⟨d.world.world.opened, s⟩, d.now⟩ } where
  keyed := a.keyed.insert s _
  symbol k x stored := by
    rcases Cache.mem_insert_iff.1 stored with ⟨rfl, rfl⟩ | ⟨-, stored⟩
    · rfl
    · exact a.symbol k x stored
  opened k x stored := by
    rcases Cache.mem_insert_iff.1 stored with ⟨rfl, rfl⟩ | ⟨-, stored⟩
    · exact Nat.lt_succ_self _
    · exact Nat.lt_succ_of_lt (a.opened k x stored)
  created k x stored := by
    rcases Cache.mem_insert_iff.1 stored with ⟨rfl, rfl⟩ | ⟨-, stored⟩
    · exact Int.le_refl _
    · exact a.created k x stored
  distinct k x k' x' stored stored' same := by
    rcases Cache.mem_insert_iff.1 stored with ⟨rfl, rfl⟩ | ⟨-, old⟩
    · rcases Cache.mem_insert_iff.1 stored' with ⟨rfl, rfl⟩ | ⟨-, old'⟩
      · rfl
      · exact absurd same.symm (Nat.ne_of_lt (a.opened k' x' old'))
    · rcases Cache.mem_insert_iff.1 stored' with ⟨rfl, rfl⟩ | ⟨-, old'⟩
      · exact absurd same (Nat.ne_of_lt (a.opened k x old))
      · exact a.distinct k x k' x' old old' same
  unopened n le := a.unopened n (Nat.le_of_succ_le le)
  sourced k x ds stored kept := by
    rcases Cache.mem_insert_iff.1 stored with ⟨rfl, rfl⟩ | ⟨-, stored⟩
    · have empty := a.unopened d.world.world.opened (Nat.le_refl _)
      cases empty.symm.trans kept
    · exact a.sourced k x ds stored kept

/-- A handle has been acquired at a time: it is stored, and it is young or has been asked nothing
yet. -/
structure Acquired (e : Endpoints) (past : List (Moment (Heard World))) (s : Symbol)
    (d d' : Desk (Heard World)) (h : Handle) (opening : Instant) : Prop where
  accounted : Accounted e past d'
  clock : d'.clock = d.clock
  network : d'.world.world.network = d.world.world.network
  answers : d'.world.answers = d.world.answers
  stored : (s, ⟨h, opening⟩) ∈ d'.cache.entries
  young : d.now.since opening < d.cache.lifetime.nanos ∨
    (d'.world.world.memory h.serial).dividends = none

/-- Acquiring always gives a handle. -/
theorem Accounted.acquire (a : Accounted e past d) (s : Symbol) :
    ∃ h d' opening, (Desk.acquire (heard (provider e)) s).outcome d = (.ok h, d') ∧
      Acquired e past s d d' h opening := by
  cases fresh : d.cache.fresh? d.now s with
  | some h =>
    obtain ⟨opening, stored, young⟩ := (Cache.fresh?_eq_some_iff a.keyed).1 fresh
    exact ⟨h, d, opening, Desk.acquire_of_fresh fresh, a, rfl, rfl, rfl, stored, Or.inl young⟩
  | none =>
    have unasked := a.unopened d.world.world.opened (Nat.le_refl _)
    refine ⟨⟨d.world.world.opened, s⟩, _, d.now, Desk.acquire_of_not_fresh fresh, ?_⟩
    exact ⟨a.newHandle s, rfl, rfl, rfl, Cache.mem_insert_iff.2 (Or.inl ⟨rfl, rfl⟩), Or.inr unasked⟩

namespace Acquired

variable {rs : List Request} {log : List (Handle × Except Fault Frame)} {v : Heard World}

theorem uses_eq (q : Acquired e past s d d' h opening) (told : Told e h d'.world rs log v)
    (before : m.before = d) (after : m.after = { d' with world := v }) : m.uses = log := by
  rw [Moment.uses, before, after]
  show List.drop _ v.answers = log
  rw [told.answers, q.answers, List.drop_left]

theorem exchanges_eq (q : Acquired e past s d d' h opening) (told : Told e h d'.world rs log v)
    (before : m.before = d) (after : m.after = { d' with world := v }) :
    m.exchanges = d'.world.world.network.exchanges rs := by
  rw [Moment.exchanges, before, after]
  show d.world.world.network.exchanges (v.world.network.sent.drop _) = _
  rw [told.network, Network.sends_sent, q.network, List.drop_left]

/-- Dividends that the handle keeps after it was asked came in the moment, or it kept them
before. -/
theorem came (q : Acquired e past s d d' h opening) (told : Told e h d'.world rs log v)
    (before : m.before = d) (after : m.after = { d' with world := v })
    (kept : (v.world.memory h.serial).dividends = some ds) :
    Received e h ds m ∨ (d'.world.world.memory h.serial).dividends = some ds := by
  rcases told.came ds kept with kept | ⟨came, answered⟩
  · exact Or.inr kept
  · refine Or.inl ⟨?_, ?_⟩
    · rw [q.exchanges_eq told before after]
      exact came
    · rw [q.uses_eq told before after]
      exact answered

/-- Dividends that are used are recent. -/
theorem recent (q : Acquired e past s d d' h opening) (told : Told e h d'.world rs log v)
    (before : m.before = d) (after : m.after = { d' with world := v })
    {ttl : Nat} (lifetime : ∀ t, d.now.since t < d.cache.lifetime.nanos → d.now.since t < (ttl : Int))
    {h' : Handle} {frame : Frame} (used : (h', .ok frame) ∈ m.uses) :
    h'.symbol = s ∧ ∃ ds, frame = Frame.ofDividends ds ∧ Recent e ttl past m h' ds := by
  rw [q.uses_eq told before after] at used
  obtain ⟨rfl, ds, rfl, kept⟩ := told.used h' frame used
  refine ⟨q.accounted.symbol s _ q.stored, ds, rfl, ?_⟩
  rcases q.came told before after kept with received | kept
  · exact Or.inl received
  · rcases q.young with young | unasked
    · obtain ⟨first, m', since, split, received, later, uncleared⟩ :=
        q.accounted.sourced s _ ds q.stored kept
      refine Or.inr ⟨first, m', since, split, received, ?_, uncleared⟩
      have young := lifetime opening young
      rw [before]
      simp only [Instant.since] at young later ⊢
      omega
    · cases unasked.symm.trans kept

/-- After the questions, everything is accounted for. -/
theorem accounted_after (q : Acquired e past s d d' h opening)
    (told : Told e h d'.world rs log v) (before : m.before = d)
    (after : m.after = { d' with world := v }) (uncleared : m.step ≠ .clear) :
    Accounted e (past ++ [m]) { d' with world := v } where
  keyed := q.accounted.keyed
  symbol := q.accounted.symbol
  opened k x stored := by
    rw [told.opened]
    exact q.accounted.opened k x stored
  created := q.accounted.created
  distinct := q.accounted.distinct
  unopened n le := by
    rw [told.opened] at le
    have other : n ≠ h.serial := (Nat.lt_of_lt_of_le (q.accounted.opened s _ q.stored) le).ne'
    rw [told.others n other]
    exact q.accounted.unopened n le
  sourced k x ds stored kept := by
    by_cases asked : x.handle.serial = h.serial
    · obtain rfl : k = s := q.accounted.distinct k x s _ stored q.stored asked
      obtain rfl : x = ⟨h, opening⟩ := q.accounted.keyed.eq_of_mem stored q.stored
      rcases q.came told before after kept with received | kept
      · refine .of_received received ?_
        have created : opening.nanos ≤ d'.clock.now.nanos := q.accounted.created k _ stored
        rw [q.clock] at created
        rw [before]
        exact created
      · exact (q.accounted.sourced k _ ds stored kept).concat uncleared
    · have same : v.world.memory x.handle.serial = d'.world.world.memory x.handle.serial :=
        told.others x.handle.serial asked
      have kept : (v.world.memory x.handle.serial).dividends = some ds := kept
      rw [same] at kept
      exact (q.accounted.sourced k x ds stored kept).concat uncleared

end Acquired

/-- A step uses recent dividends only, and accounts for those that came in it. -/
theorem Accounted.step (a : Accounted e past d) {ttl : Nat}
    (lifetime : ∀ now t : Instant, now.since t < d.cache.lifetime.nanos →
      now.since t < (ttl : Int)) (step : Step)
    (forward : d.now.nanos ≤ (momentOf (heard (provider e)) step d).after.now.nanos) :
    (∀ h frame, (h, .ok frame) ∈ (momentOf (heard (provider e)) step d).uses →
      step.symbol? = some h.symbol ∧ ∃ ds, frame = Frame.ofDividends ds ∧
        Recent e ttl past (momentOf (heard (provider e)) step d) h ds) ∧
      Accounted e (past ++ [momentOf (heard (provider e)) step d])
        (momentOf (heard (provider e)) step d).after := by
  cases asked : step.symbol? with
  | none =>
    have after : (momentOf (heard (provider e)) step d).after = step.upkeep d :=
      Session.after_of_no_symbol _ asked d
    have unused : (momentOf (heard (provider e)) step d).uses = [] := by
      rw [Moment.uses, after, Step.upkeep_world]
      exact List.drop_length
    refine ⟨fun h frame used => ?_, ?_⟩
    · rw [unused] at used
      cases used
    · rw [after] at forward ⊢
      exact a.upkeep rfl forward
  | some s =>
    have uncleared : step ≠ .clear := by
      rintro rfl
      cases asked
    obtain ⟨α, q, report, ⟨ask, asking, rfl⟩, outcome⟩ :=
      Session.outcome_of_symbol? (heard (provider e)) asked
    obtain ⟨h, d', opening, run, acquired⟩ := a.acquire s
    obtain ⟨rs, log, told⟩ := asking_told (asking h) d'.world
    have after : (momentOf (heard (provider e)) step d).after =
        { d' with world := ((ask h).outcome d'.world).2 } := by
      have second : (momentOf (heard (provider e)) step d).after = _ :=
        congrArg Prod.snd (outcome d)
      rw [second, Query.outcome_bind_ok run, Desk.outcome_onWorld]
    refine ⟨fun h' frame used => ?_, ?_⟩
    · obtain ⟨rfl, recent⟩ := acquired.recent told rfl after (lifetime d.now) used
      exact ⟨rfl, recent⟩
    · have next := acquired.accounted_after told rfl after uncleared
      rw [after]
      exact next

/-- In a run from a desk that is accounted for, dividends that are used are recent. -/
theorem Accounted.run {ttl : Nat} (steps : List Step) :
    ∀ {past : List (Moment (Heard World))} {d : Desk (Heard World)}, Accounted e past d →
      (∀ now t : Instant, now.since t < d.cache.lifetime.nanos → now.since t < (ttl : Int)) →
      Forward (moments (heard (provider e)) steps d) →
      ∀ {earlier later : List (Moment (Heard World))} {m : Moment (Heard World)},
        moments (heard (provider e)) steps d = earlier ++ m :: later →
        ∀ {h : Handle} {frame : Frame}, (h, .ok frame) ∈ m.uses →
          m.step.symbol? = some h.symbol ∧ ∃ ds, frame = Frame.ofDividends ds ∧
            Recent e ttl (past ++ earlier) m h ds := by
  induction steps with
  | nil =>
    intro past d _ _ _ earlier later m split
    simp [moments] at split
  | cons step steps ih =>
    intro past d a lifetime forward earlier later m split h frame used
    rw [moments_cons, forward_cons] at forward
    obtain ⟨here, next⟩ := a.step lifetime step forward.1
    rw [moments_cons] at split
    cases earlier with
    | nil =>
      obtain ⟨rfl, -⟩ := List.cons.inj split
      rw [List.append_nil]
      exact here h frame used
    | cons first earlier =>
      obtain ⟨rfl, rest⟩ := List.cons.inj split
      rw [← Session.lifetime_after (heard (provider e)) step d] at lifetime
      rw [List.append_cons]
      exact ih next lifetime forward.2 rest used

end Runs

/-- **Dividends that are used are recent.** In every session over the Yahoo services in which the
clock never moves backward, whatever the network delivers: a step that uses dividends asks about
their symbol, and they came in a reply for the whole series of the symbol, in the same step or in
one whose time is less than the lifetime ago, and nothing was cleared since. -/
theorem used_dividends_are_recent (e : Endpoints) (network : Network) (clock : Clock)
    (seconds nanos : Nat) (steps : List Step)
    (forward : Forward (moments (heard (provider e)) steps
      (Session.fresh clock (.ofParts seconds nanos) ⟨.start network, []⟩)))
    {earlier later : List (Moment (Heard World))} {m : Moment (Heard World)}
    (run : moments (heard (provider e)) steps
      (Session.fresh clock (.ofParts seconds nanos) ⟨.start network, []⟩) = earlier ++ m :: later)
    {h : Handle} {frame : Frame} (used : (h, .ok frame) ∈ m.uses) :
    m.step.symbol? = some h.symbol ∧ ∃ ds, frame = Frame.ofDividends ds ∧
      Recent e (seconds * 1000000000 + nanos) earlier m h ds := by
  have start := accounted_start e network clock (.ofParts seconds nanos)
  exact start.run steps (fun now t => (Lifetime.since_lt_ofParts_iff now t seconds nanos).1)
    forward run used

/-- A network that delivers one chart, without dividends. -/
def oneChart : Network where
  up := true
  deliveries := [.reply ⟨200, [], .complete
    "\x7b\"chart\":\x7b\"result\":[\x7b\"indicators\":\x7b\x7d\x7d]\x7d\x7d".toUTF8.toList⟩]
  sent := []

/-- A provider over a network that delivers one chart. -/
def oneChartProvider : Provider (Heard World) := heard (provider (.under "http://[::1]"))

/-- A desk in front of a network that delivers one chart. -/
def oneChartDesk : Desk (Heard World) :=
  Session.fresh ⟨.epoch, true⟩ (.ofParts 2 0) ⟨.start oneChart, []⟩

/-- The desk after dividends were asked for, and a second went by. -/
def askedDesk : Desk (Heard World) :=
  (momentOf oneChartProvider (.advance 1000000000)
    (momentOf oneChartProvider (.dividends ⟨"A"⟩) oneChartDesk).after).after

/-- A series that came in the first step is used in the third. -/
theorem used_dividends_are_recent_kept :
    ∃ frame, (⟨0, ⟨"A"⟩⟩, .ok frame) ∈ (momentOf oneChartProvider (.dividends ⟨"A"⟩) askedDesk).uses ∧
      ∃ ds, frame = Frame.ofDividends ds ∧
        Recent (.under "http://[::1]") 2000000000
          [momentOf oneChartProvider (.dividends ⟨"A"⟩) oneChartDesk,
            momentOf oneChartProvider (.advance 1000000000)
              (momentOf oneChartProvider (.dividends ⟨"A"⟩) oneChartDesk).after]
          (momentOf oneChartProvider (.dividends ⟨"A"⟩) askedDesk) ⟨0, ⟨"A"⟩⟩ ds := by
  have answered : (momentOf oneChartProvider (.dividends ⟨"A"⟩) askedDesk).uses.map
      (fun x => (x.1, x.2.isOk)) = [(⟨0, ⟨"A"⟩⟩, true)] := by
    decide +kernel
  obtain ⟨⟨h, r⟩, only, same⟩ := List.map_eq_singleton_iff.1 answered
  cases r with
  | error f => cases same
  | ok frame =>
    cases same
    have used : (⟨0, ⟨"A"⟩⟩, .ok frame) ∈
        (momentOf oneChartProvider (.dividends ⟨"A"⟩) askedDesk).uses := by
      rw [only]
      exact List.mem_cons_self
    have run : moments oneChartProvider
        [.dividends ⟨"A"⟩, .advance 1000000000, .dividends ⟨"A"⟩] oneChartDesk =
          [momentOf oneChartProvider (.dividends ⟨"A"⟩) oneChartDesk,
            momentOf oneChartProvider (.advance 1000000000)
              (momentOf oneChartProvider (.dividends ⟨"A"⟩) oneChartDesk).after] ++
            momentOf oneChartProvider (.dividends ⟨"A"⟩) askedDesk :: [] := rfl
    have recent := used_dividends_are_recent (.under "http://[::1]") oneChart ⟨.epoch, true⟩ 2 0
      [.dividends ⟨"A"⟩, .advance 1000000000, .dividends ⟨"A"⟩] (by decide +kernel) run used
    exact ⟨frame, used, recent.2⟩

end Yahoo.DividendAge

end MarketDesk
