import MarketDesk.Proofs.Query
import MarketDesk.Proofs.Url.Form
import MarketDesk.Yahoo.Client

/-!
# Requests and what they are answered with

What a client did can be read off the network: the requests that were logged, each with the
delivery that it took. A `Conversation` is a list of such exchanges in which every request was due
after the exchanges before it. `Stage.request` carries a conversation over one more request,
whether the address is unusable, the network down, the request unanswered or answered.
-/

namespace MarketDesk.Yahoo

/-- The reply of a delivery, if it is one. -/
def Delivery.reply? : Delivery → Option Reply
  | .reply r => some r
  | .closed => none
  | .stalled => none

/-- A request with what it was answered with. -/
structure Exchange where
  request : Request
  delivery : Delivery

/-- The reply of an exchange, if there was one. -/
def Exchange.reply? (x : Exchange) : Option Reply := x.delivery.reply?

namespace Network

/-- What the next request is answered with. -/
def answer (n : Network) : Delivery := n.deliveries.headD .closed

/-- The network after a request. -/
def sending (n : Network) (r : Request) : Network :=
  { n.log r with deliveries := n.deliveries.tail }

/-- The network after requests. -/
def sends (n : Network) (rs : List Request) : Network := rs.foldl sending n

/-- The exchanges of requests, from a state of the network on. -/
def exchanges (n : Network) : List Request → List Exchange
  | [] => []
  | r :: rs => ⟨r, n.answer⟩ :: (n.sending r).exchanges rs

variable {n : Network} {r : Request} {rs : List Request}

/-- A request takes the next delivery. -/
theorem exchange_eq : n.exchange r = (n.answer, n.sending r) := by
  obtain ⟨up, deliveries, sent⟩ := n
  cases deliveries with
  | nil => rfl
  | cons d ds => rfl

theorem sends_concat : n.sends (rs ++ [r]) = (n.sends rs).sending r := by
  rw [sends, List.foldl_append]
  rfl

theorem sends_append {rs' : List Request} : n.sends (rs ++ rs') = (n.sends rs).sends rs' :=
  List.foldl_append

theorem exchanges_append {rs' : List Request} :
    n.exchanges (rs ++ rs') = n.exchanges rs ++ (n.sends rs).exchanges rs' := by
  induction rs generalizing n with
  | nil => rfl
  | cons first rs ih => exact congrArg (_ :: ·) ih

theorem exchanges_concat :
    n.exchanges (rs ++ [r]) = n.exchanges rs ++ [⟨r, (n.sends rs).answer⟩] := by
  induction rs generalizing n with
  | nil => rfl
  | cons first rs ih => exact congrArg (_ :: ·) ih

@[simp] theorem sends_sent : (n.sends rs).sent = n.sent ++ rs := by
  induction rs generalizing n with
  | nil => simp [sends]
  | cons first rs ih =>
    show ((n.sending first).sends rs).sent = _
    rw [ih]
    simp [sending, log]

@[simp] theorem sends_up : (n.sends rs).up = n.up := by
  induction rs generalizing n with
  | nil => rfl
  | cons first rs ih => exact ih

end Network

/-! ## Which request asks for what -/

/-- The request that leaves for a prepared address. -/
def requestFor (url : Url) (cookie : Option String) : Request :=
  ⟨"GET", url.withoutFragment.text, cookie⟩

/-- Parameters as lists of characters. -/
def parameterChars (ps : List (String × String)) : List (List Char × List Char) :=
  ps.map fun p => (p.1.toList, p.2.toList)

/-- The request asks for an address without its user info, with parameters added to its query. -/
def IsRequest (url : Url) (ps : List (String × String)) (cookie : Option String)
    (r : Request) : Prop :=
  ∃ full, requestUrl? url ps = .ok full ∧
    url.withoutUserInfo.Extends full (parameterChars ps) ∧ r = requestFor full cookie

/-- The request asks for a service whose address is given as text. -/
def IsServiceRequest (address : String) (cookie : Option String) (r : Request) : Prop :=
  ∃ url, Url.ofText? address = .ok url ∧ IsRequest url [] cookie r

/-- The request asks a service for a symbol. -/
def IsSymbolRequest (base : String) (symbol : Symbol) (ps : List (String × String))
    (cookie : Option String) (r : Request) : Prop :=
  ∃ url, symbolUrl? base symbol = .ok url ∧ IsRequest url ps cookie r

theorem eq_append_of_requestUrl? {url full : Url} {ps : List (String × String)}
    (h : requestUrl? url ps = .ok full) :
    full = url.withoutUserInfo.append (parameterChars ps) := by
  unfold requestUrl? at h
  split at h
  · cases h
  dsimp only at h
  split at h
  · cases h
    rfl
  · cases h

theorem requestUrl?_extends {url full : Url} {ps : List (String × String)}
    (h : requestUrl? url ps = .ok full) :
    url.withoutUserInfo.Extends full (parameterChars ps) := by
  rw [eq_append_of_requestUrl? h]
  exact Url.append_extends _ _

/-! ## Outcomes of requests -/

/-- How asking for something ends, when `is` says which requests ask for it. -/
inductive Requested (w : World) (is : Request → Prop) : Except Fault Reply × World → Prop where
  | unsent {f : Fault} (down : w.network.up = true → ∀ r, ¬ is r) : Requested w is (.error f, w)
  | unanswered {f : Fault} {r : Request} (sent : is r)
      (h : w.network.answer.reply? = none) :
      Requested w is (.error f, { w with network := w.network.sending r })
  | answered {reply : Reply} {r : Request} (sent : is r)
      (h : w.network.answer.reply? = some reply) :
      Requested w is (.ok reply, { w with network := w.network.sending r })

section Requests

variable {w : World} {cookie : Option String} {ps : List (String × String)}

/-- A prepared request is sent unless the network is down. -/
theorem send_requested (url : Url) (cookie : Option String) (w : World) :
    Requested w (· = requestFor url cookie)
      ((Query.onPart World.network (fun network w => { w with network })
        (send url cookie)).outcome w) := by
  rw [Query.outcome_onPart, send, Query.outcome_bind_ok (Query.outcome_get _)]
  cases up : w.network.up with
  | false =>
    rw [if_pos (by decide)]
    refine .unsent fun h => ?_
    rw [up] at h
    cases h
  | true =>
    rw [if_neg (by decide), Network.exchange_eq]
    cases answer : w.network.answer with
    | closed => exact .unanswered rfl (congrArg Delivery.reply? answer)
    | stalled => exact .unanswered rfl (congrArg Delivery.reply? answer)
    | reply reply => exact .answered rfl (congrArg Delivery.reply? answer)

/-- Other words for the same requests. -/
theorem Requested.congr {is is' : Request → Prop} {o : Except Fault Reply × World}
    (same : ∀ r, is r ↔ is' r) (h : Requested w is o) : Requested w is' o := by
  cases h with
  | unsent down => exact .unsent fun up r sent => down up r ((same r).2 sent)
  | unanswered sent h => exact .unanswered ((same _).1 sent) h
  | answered sent h => exact .answered ((same _).1 sent) h

/-- An address that may be unusable is requested if it is usable. -/
theorem Requested.orFail {a : Except DataError Url} {q : Url → Query World Reply}
    {is : Url → Request → Prop} (h : ∀ url, Requested w (is url) ((q url).outcome w)) :
    Requested w (fun r => ∃ url, a = .ok url ∧ is url r)
      ((Yahoo.orFail a >>= q).outcome w) := by
  cases a with
  | error e =>
    have unusable :
        (Yahoo.orFail (.error e) : Query World Url).outcome w = (.error (.error e), w) := rfl
    rw [Query.outcome_bind_error unusable]
    refine .unsent ?_
    rintro - r ⟨url, h, -⟩
    cases h
  | ok url =>
    have usable : (Yahoo.orFail (.ok url) : Query World Url).outcome w = (.ok url, w) := rfl
    rw [Query.outcome_bind_ok usable]
    refine (h url).congr fun r => ?_
    constructor
    · exact fun sent => ⟨url, rfl, sent⟩
    · rintro ⟨url', h, sent⟩
      cases h
      exact sent

theorem request_requested (url : Url) (ps : List (String × String)) (cookie : Option String)
    (w : World) : Requested w (IsRequest url ps cookie) ((request url ps cookie).outcome w) := by
  have sent := Requested.orFail (w := w) (a := requestUrl? url ps)
    fun full => send_requested full cookie w
  refine sent.congr fun r => ?_
  constructor
  · rintro ⟨full, prepared, rfl⟩
    exact ⟨full, prepared, requestUrl?_extends prepared, rfl⟩
  · rintro ⟨full, prepared, -, rfl⟩
    exact ⟨full, prepared, rfl⟩

theorem requestService_requested (address : String) (cookie : Option String) (w : World) :
    Requested w (IsServiceRequest address cookie)
      ((requestService address cookie).outcome w) := by
  have sent := Requested.orFail (w := w)
    (a := (Url.ofText? address).mapError fun _ => unbuildable none)
    fun url => request_requested url [] cookie w
  refine sent.congr fun r => ?_
  unfold IsServiceRequest
  cases Url.ofText? address with
  | error e =>
    constructor
    · rintro ⟨url, h, -⟩
      cases h
    · rintro ⟨url, h, -⟩
      cases h
  | ok url =>
    constructor
    · rintro ⟨url, h, sent⟩
      cases h
      exact ⟨url, rfl, sent⟩
    · rintro ⟨url, h, sent⟩
      cases h
      exact ⟨url, rfl, sent⟩

/-- Asks a service for a symbol. -/
def requestSymbol (base : String) (symbol : Symbol) (ps : List (String × String))
    (cookie : Option String) : Query World Reply := do
  let url ← orFail (symbolUrl? base symbol)
  request url ps cookie

theorem requestSymbol_requested (base : String) (symbol : Symbol) (ps : List (String × String))
    (cookie : Option String) (w : World) :
    Requested w (IsSymbolRequest base symbol ps cookie)
      ((requestSymbol base symbol ps cookie).outcome w) :=
  Requested.orFail fun url => request_requested url ps cookie w

/-- Asking changes nothing that a handle keeps. -/
theorem Requested.memory {is : Request → Prop} {o : Except Fault Reply × World}
    (h : Requested w is o) : o.2.memory = w.memory := by
  cases h <;> rfl

/-- Asking opens nothing. -/
theorem Requested.opened {is : Request → Prop} {o : Except Fault Reply × World}
    (h : Requested w is o) : o.2.opened = w.opened := by
  cases h <;> rfl

theorem fetchChart_eq (e : Endpoints) (h : Handle) (range interval : String) :
    fetchChart e h range interval =
      requestSymbol e.chart h.symbol (chartParameters range interval) none >>= fun reply =>
        Yahoo.orFail (chartOf? h.symbol reply) := by
  unfold fetchChart requestSymbol
  rw [bind_assoc]

theorem fetchChart_memory (e : Endpoints) (h : Handle) (range interval : String) (w : World) :
    ((fetchChart e h range interval).outcome w).2.memory = w.memory := by
  have same := (requestSymbol_requested e.chart h.symbol (chartParameters range interval) none
    w).memory
  rw [fetchChart_eq, Query.outcome_bind]
  cases asked :
      (requestSymbol e.chart h.symbol (chartParameters range interval) none).outcome w with
  | mk r v =>
    rw [asked] at same
    cases r with
    | error f => exact same
    | ok reply =>
      dsimp only
      rw [Yahoo.orFail, Query.outcome_ofExcept]
      exact same

end Requests

/-! ## Conversations -/

/-- Exchanges in which each request was due after those before it. -/
inductive Conversation (due : List Exchange → Request → Prop) : List Exchange → Prop where
  | silent : Conversation due []
  | more {xs : List Exchange} {x : Exchange} (earlier : Conversation due xs)
      (h : due xs x.request) : Conversation due (xs ++ [x])

/-- The network of `v` is reached from that of `w` by a conversation, and by nothing else. -/
structure Stage (due : List Exchange → Request → Prop) (w : World) (xs : List Exchange)
    (v : World) : Prop where
  conversation : Conversation due xs
  matched : w.network.exchanges (xs.map Exchange.request) = xs
  network : v.network = w.network.sends (xs.map Exchange.request)

section Stages

variable {due : List Exchange → Request → Prop} {w v : World} {xs : List Exchange}

theorem Stage.start : Stage due w [] w := ⟨.silent, rfl, rfl⟩

theorem Stage.sending (s : Stage due w xs v) {r : Request} (h : due xs r) :
    Stage due w (xs ++ [⟨r, v.network.answer⟩]) { v with network := v.network.sending r } where
  conversation := .more s.conversation h
  matched := by
    rw [List.map_append, List.map_singleton, Network.exchanges_concat, s.matched, ← s.network]
  network := by
    rw [List.map_append, List.map_singleton, Network.sends_concat, ← s.network]

/-- What a handle keeps does not touch the network. -/
theorem Stage.remember (s : Stage due w xs v) (handle : Handle) (change : Memo → Memo) :
    Stage due w xs (v.remember handle change) :=
  ⟨s.conversation, s.matched, s.network⟩

/-- A conversation goes on by one exchange, unless the network is down or the address unusable;
there is a reply if the exchange has one. -/
theorem Stage.request (s : Stage due w xs v) {is : Request → Prop} (h : ∀ r, is r → due xs r)
    {o : Except Fault Reply × World} (asked : Requested v is o) :
    (∃ f, o = (.error f, v) ∧ (w.network.up = true → ∀ r, ¬ is r)) ∨
      ∃ x u, Stage due w (xs ++ [x]) u ∧ u.memory = v.memory ∧
        ((∃ f, o = (.error f, u) ∧ x.reply? = none) ∨
          ∃ reply, o = (.ok reply, u) ∧ x.reply? = some reply) := by
  cases asked with
  | @unsent f down =>
    rw [s.network, Network.sends_up] at down
    exact Or.inl ⟨f, rfl, down⟩
  | @unanswered f r sent none =>
    exact Or.inr ⟨_, _, s.sending (h r sent), rfl, Or.inl ⟨f, rfl, none⟩⟩
  | @answered reply r sent some =>
    exact Or.inr ⟨_, _, s.sending (h r sent), rfl, Or.inr ⟨reply, rfl, some⟩⟩

end Stages

end MarketDesk.Yahoo
