import MarketDesk.Proofs.Yahoo.ChartTrace

/-!
# What replies stand for

A reply can be wrong in several ways at once: a status that is no success, a body that does not
arrive or cannot be read, an error payload, no result. `rules` lists what each of them stands for,
every rule with its own condition and blind to the others, and the first rule that applies decides.
Charts and summaries share the list; they differ in the envelope, in how a result is read, and in
what an error payload stands for. `queries_follow_rules` says that every question of a handle has
the outcome that the rules give for what its request is answered with, and what it keeps then.
-/

namespace MarketDesk.Yahoo.Classification

open MarketDesk.Json
open SessionLog (held outcome_memo outcome_remember held_remember)
open ChartTrace (chartUrl? kept)

/-- A service that answers with an envelope around results or an error. -/
structure Service (α : Type) where
  /-- The member that holds the envelope. -/
  key : String
  /-- How one result is read. -/
  read : Raw → Option α
  /-- What an error payload stands for, by its code and its description. -/
  blame : Symbol → String → String → DataError

/-- The chart service. It reports an unknown symbol in an error payload. -/
def charts : Service Chart where
  key := "chart"
  read := Chart.ofJson?
  blame symbol code description :=
    if code = "Not Found" then .symbolNotFound symbol.text
    else .provider (code ++ ": " ++ description)

/-- The summary service. -/
def summaries : Service Modules where
  key := "quoteSummary"
  read := Raw.map? (Raw.value? moduleRoom)
  blame _ code description := .provider (code ++ ": " ++ description)

/-- The code and the description that an error payload gives. Both members have to be there, and
have to be strings. -/
def reported? (payload : Raw) : Option (String × String) := do
  let m ← payload.members? ["code", "description"]
  let code ← (m.get? "code").bind Raw.string?
  let description ← (m.get? "description").bind Raw.string?
  pure (code, description)

namespace Service

variable {α : Type} (service : Service α)

/-- The envelope of a document. -/
def envelopeOf? (document : Raw) : Option Members := do
  let outer ← document.members? [service.key]
  outer.required? service.key (Raw.members? ["result", "error"])

/-- The envelope of a delivery, if a body with one arrives. -/
def envelope? : Delivery → Option Members
  | .reply r => (r.bytes?.toOption.bind Raw.ofBytes?).bind service.envelopeOf?
  | _ => none

/-- The envelope can be read: each of its members is `null` or as it should be, all results
included, and none is missing from a list. -/
def accepts (m : Members) : Bool :=
  (m.optional? "result" (Raw.list? service.read)).isSome &&
    (m.optional? "error" reported?).isSome

end Service

/-! ## The rules -/

/-- A rule gives an outcome for the deliveries that it applies to. -/
abbrev Rule (α : Type) := Delivery → Option (Except DataError α)

section Rules

variable {α : Type} (service : Service α) (symbol : Symbol) (url : Url)

/-- The connection closes without a reply. -/
def closed : Rule α
  | .closed => some (.error (.network (unanswered url)))
  | _ => none

/-- No reply comes in time. -/
def stalled : Rule α
  | .stalled => some (.error (.timeout (unanswered url)))
  | _ => none

/-- A status stands for an error, whatever the body. -/
def onStatus (applies : Nat → Bool) (error : Nat → DataError) : Rule α
  | .reply r => if applies r.status then some (.error (error r.status)) else none
  | _ => none

/-- The service asks for fewer requests. -/
def tooMany : Rule α := onStatus (· == 429) fun _ => .rateLimited "Yahoo Finance"

/-- The service does not know the symbol. -/
def unknown : Rule α := onStatus (· == 404) fun _ => .symbolNotFound symbol.text

/-- The service reports no success. -/
def unsuccessful : Rule α :=
  onStatus (fun status => decide (status < 200) || decide (300 ≤ status)) fun status =>
    .network ("HTTP " ++ toString status ++ " " ++ Http.reason status ++ " for " ++ symbol.text)

/-- The body does not arrive in time. -/
def bodyStalled : Rule α
  | .reply r =>
    if !r.isBodiless && r.body == .stalled then some (.error (.timeout Reply.bodyMessage)) else none
  | _ => none

/-- The body is cut or cannot be read. -/
def undecodable : Rule α
  | .reply r =>
    if (service.envelope? (.reply r)).any service.accepts then none
    else some (.error (.parse Reply.bodyMessage))
  | _ => none

/-- The envelope holds an error payload. -/
def payload : Rule α := fun d =>
  (service.envelope? d).bind fun m =>
    ((m.get? "error").bind reported?).map fun (code, description) =>
      .error (service.blame symbol code description)

/-- The envelope holds no result. -/
def noResult : Rule α := fun d =>
  (service.envelope? d).bind fun m =>
    match m.get? "result" with
    | none | some .null | some (.list []) => some (.error (.symbolNotFound symbol.text))
    | _ => none

/-- The envelope holds a result; the first one counts. -/
def firstResult : Rule α := fun d =>
  (service.envelope? d).bind fun m =>
    match m.get? "result" with
    | some (.list (first :: _)) => (service.read first).map .ok
    | _ => none

/-- The rules, in the order in which they are tried. -/
def rules : List (Rule α) :=
  [closed url, stalled url, tooMany, unknown symbol, unsuccessful symbol, bodyStalled,
    undecodable service, payload service symbol, noResult service symbol, firstResult service]

/-- What a delivery stands for: what the first rule that applies to it says. -/
def classify? (d : Delivery) : Option (Except DataError α) :=
  (rules service symbol url).findSome? fun rule => rule d

end Rules

/-! ## Reading an envelope -/

section Envelopes

variable {α : Type} {service : Service α} {symbol : Symbol} {m : Members}

/-- The code and the description of an error that was read. -/
def Payload.report (p : Payload) : String × String := (p.code, p.description)

theorem Payload.ofJson?_report (r : Raw) : (Payload.ofJson? r).map report = reported? r := by
  unfold Payload.ofJson? reported? Members.required?
  simp only [Option.bind_eq_bind, Option.pure_def, Option.map_eq_bind, Option.bind_assoc,
    Option.bind_some, Function.comp_def, report]

/-- What is read in a member that may be `null` can be changed afterwards. -/
theorem optional?_map {β γ : Type} {read : Raw → Option β} {read' : Raw → Option γ} {f : β → γ}
    (same : ∀ r, (read r).map f = read' r) (m : Members) (name : String) :
    (m.optional? name read).map (Option.map f) = m.optional? name read' := by
  have afterwards : ∀ r, ((read r).map some).map (Option.map f) = (read' r).map some := by
    intro r
    rw [← same, Option.map_map, Option.map_map]
    rfl
  unfold Members.optional?
  cases m.get? name with
  | none => cases m.positional <;> rfl
  | some r =>
    cases r with
    | null => rfl
    | bool | number | text | list | record => exact afterwards _

/-- The results of an envelope, and what its error reports. -/
def Service.parts? (service : Service α) (m : Members) :
    Option (Option (List α) × Option (String × String)) :=
  (m.optional? "result" (Raw.list? service.read)).bind fun results =>
    (m.optional? "error" reported?).map fun error => (results, error)

theorem ChartReply.parts (document : Raw) :
    (ChartReply.ofJson? document).map
        (fun reply => (reply.results, reply.error.map Payload.report)) =
      (charts.envelopeOf? document).bind charts.parts? := by
  unfold ChartReply.ofJson? Service.parts? Service.envelopeOf? Members.required? charts
  simp only [← optional?_map Payload.ofJson?_report, Option.bind_eq_bind, Option.pure_def,
    Option.map_eq_bind, Option.bind_assoc, Option.bind_some, Function.comp_def]

theorem SummaryReply.parts (document : Raw) :
    (SummaryReply.ofJson? document).map
        (fun reply => (reply.results, reply.error.map Payload.report)) =
      (summaries.envelopeOf? document).bind summaries.parts? := by
  unfold SummaryReply.ofJson? Service.parts? Service.envelopeOf? Members.required? summaries
  simp only [← optional?_map Payload.ofJson?_report, Option.bind_eq_bind, Option.pure_def,
    Option.map_eq_bind, Option.bind_assoc, Option.bind_some, Function.comp_def]

/-- A member that may be `null` holds what its reader gives for it. -/
theorem bind_get?_of_optional? {β : Type} {name : String} {read : Raw → Option β} {o : Option β}
    (null : read .null = none) (h : m.optional? name read = some o) :
    (m.get? name).bind read = o := by
  unfold Members.optional? at h
  cases found : m.get? name with
  | none =>
    rw [found] at h
    dsimp only at h
    split at h
    · cases h
    · cases h
      rfl
  | some r =>
    rw [found] at h
    cases r with
    | null =>
      cases h
      exact null
    | _ =>
      obtain ⟨b, read, rfl⟩ := Option.map_eq_some_iff.1 h
      exact read

/-- An envelope is accepted exactly if it has parts. -/
theorem Service.parts?_cases (service : Service α) (m : Members) :
    (service.accepts m = false ∧ service.parts? m = none) ∨
      ∃ results error, service.accepts m = true ∧ service.parts? m = some (results, error) ∧
        m.optional? "result" (Raw.list? service.read) = some results ∧
        m.optional? "error" reported? = some error := by
  unfold Service.accepts Service.parts?
  cases m.optional? "result" (Raw.list? service.read) with
  | none => exact Or.inl ⟨rfl, rfl⟩
  | some results =>
    cases m.optional? "error" reported? with
    | none => exact Or.inl ⟨rfl, rfl⟩
    | some error => exact Or.inr ⟨results, error, rfl, rfl, rfl, rfl⟩

/-- An accepted envelope holds no result, or a first one that can be read. -/
theorem results_cases {read : Raw → Option α} {results : Option (List α)}
    (h : m.optional? "result" (Raw.list? read) = some results) :
    ((m.get? "result" = none ∨ m.get? "result" = some .null ∨ m.get? "result" = some (.list [])) ∧
        ∀ a as, results ≠ some (a :: as)) ∨
      ∃ first rest a as, m.get? "result" = some (.list (first :: rest)) ∧ read first = some a ∧
        results = some (a :: as) := by
  unfold Members.optional? at h
  cases found : m.get? "result" with
  | none =>
    rw [found] at h
    dsimp only at h
    split at h
    · cases h
    · cases h
      exact Or.inl ⟨Or.inl rfl, nofun⟩
  | some r =>
    rw [found] at h
    match r with
    | .null =>
      cases h
      exact Or.inl ⟨Or.inr (Or.inl rfl), nofun⟩
    | .list [] =>
      cases h
      exact Or.inl ⟨Or.inr (Or.inr rfl), nofun⟩
    | .list (first :: rest) =>
      obtain ⟨items, listed, rfl⟩ := Option.map_eq_some_iff.1 h
      have listed : (first :: rest).mapM read = some items := listed
      rw [List.mapM_cons] at listed
      obtain ⟨a, here, listed⟩ := Option.bind_eq_some_iff.1 listed
      obtain ⟨as, -, listed⟩ := Option.bind_eq_some_iff.1 listed
      cases listed
      exact Or.inr ⟨first, rest, a, as, rfl, here, rfl⟩
    | .bool _ | .number _ | .text _ | .record _ => cases h

variable {d : Delivery} {url : Url}

/-- The last two rules give the first result of an envelope, if it has one. -/
theorem findSome?_results {results : Option (List α)} (found : service.envelope? d = some m)
    (h : m.optional? "result" (Raw.list? service.read) = some results) :
    [noResult service symbol, firstResult service].findSome? (fun rule => rule d) =
      some (firstResult? symbol results) := by
  simp only [List.findSome?_cons, List.findSome?_nil, noResult, firstResult, found,
    Option.bind_some]
  rcases results_cases h with ⟨absent, none⟩ | ⟨first, rest, a, as, here, read, rfl⟩
  · have unfound : firstResult? symbol results = .error (.symbolNotFound symbol.text) := by
      unfold firstResult?
      split
      next a as => exact absurd rfl (none a as)
      next => rfl
    rw [unfound]
    rcases absent with absent | absent | absent <;> rw [absent]
  · rw [here]
    dsimp only
    rw [read]
    rfl

end Envelopes

/-! ## One delivery -/

section Deliveries

variable {α ρ : Type} {service : Service α} {symbol : Symbol} {url : Url} {r : Reply}

/-- What a reader that knows the parts of a document makes of a reply. -/
def takeFirst (service : Service α) (symbol : Symbol)
    (parts : Option (List α) × Option (String × String)) : Except DataError α :=
  match parts.2 with
  | some (code, description) => .error (service.blame symbol code description)
  | none => firstResult? symbol parts.1

/-- The rules before those for the body decide if the status stands for an error, and do not apply
otherwise. -/
theorem classify?_reply (service : Service α) (symbol : Symbol) (url : Url) (r : Reply) :
    classify? service symbol url (.reply r) =
      match statusError? symbol r.status with
      | some e => some (.error e)
      | none => [bodyStalled, undecodable service, payload service symbol, noResult service symbol,
          firstResult service].findSome? fun rule => rule (.reply r) := by
  unfold classify? rules statusError?
  simp only [List.findSome?_cons, closed, stalled, tooMany, unknown, unsuccessful, onStatus,
    beq_iff_eq]
  by_cases many : r.status = 429
  · simp [many, providerName]
  by_cases missing : r.status = 404
  · simp [missing]
  by_cases success : 200 ≤ r.status ∧ r.status < 300
  · have low : ¬ r.status < 200 := by omega
    have high : ¬ 300 ≤ r.status := by omega
    simp [many, missing, success, low, high]
  · have outside : r.status < 200 ∨ 300 ≤ r.status := by omega
    simp [many, missing, success, outside]

/-- The rules after those for the body give what an accepted envelope holds. -/
theorem findSome?_parts {d : Delivery} {m : Members} {results : Option (List α)}
    {error : Option (String × String)} (found : service.envelope? d = some m)
    (h : m.optional? "result" (Raw.list? service.read) = some results)
    (h' : m.optional? "error" reported? = some error) :
    [payload service symbol, noResult service symbol, firstResult service].findSome?
        (fun rule => rule d) = some (takeFirst service symbol (results, error)) := by
  have reported : payload service symbol d =
      error.map fun (code, description) => .error (service.blame symbol code description) := by
    unfold payload
    rw [found, Option.bind_some, bind_get?_of_optional? rfl h']
  rw [List.findSome?_cons, reported]
  cases error with
  | some p => rfl
  | none => exact findSome?_results found h

/-- What a body that arrives stands for. -/
theorem findSome?_of_arrived {bytes : List UInt8} (arrived : r.bytes? = .ok bytes) :
    ([bodyStalled, undecodable service, payload service symbol, noResult service symbol,
      firstResult service].findSome? fun rule => rule (.reply r)) =
      some (match ((Raw.ofBytes? bytes).bind service.envelopeOf?).bind service.parts? with
        | some parts => takeFirst service symbol parts
        | none => .error (.parse Reply.bodyMessage)) := by
  have inTime : (bodyStalled (.reply r) : Option (Except DataError α)) = none := by
    unfold bodyStalled
    unfold Reply.bytes? at arrived
    split at arrived
    next bodiless => simp [bodiless]
    next => split at arrived <;> simp_all
  have envelope : service.envelope? (.reply r) =
      (Raw.ofBytes? bytes).bind service.envelopeOf? := by
    show (r.bytes?.toOption.bind Raw.ofBytes?).bind service.envelopeOf? = _
    rw [arrived]
    rfl
  rw [List.findSome?_cons, inTime, ← envelope, List.findSome?_cons, undecodable]
  cases found : service.envelope? (.reply r) with
  | none => rfl
  | some m =>
    rw [Option.any_some, Option.bind_some]
    rcases service.parts?_cases m with ⟨refused, none⟩ | ⟨results, error, accepted, some, h, h'⟩
    · rw [refused, none]
      rfl
    · rw [accepted, some, if_pos rfl]
      exact findSome?_parts found h h'

/-- What a body that does not arrive stands for. -/
theorem findSome?_of_lost {f : DataError} (lost : r.bytes? = .error f) :
    ([bodyStalled, undecodable service, payload service symbol, noResult service symbol,
      firstResult service].findSome? fun rule => rule (.reply r)) = some (.error f) := by
  have none : service.envelope? (.reply r) = none := by
    show (r.bytes?.toOption.bind Raw.ofBytes?).bind service.envelopeOf? = _
    rw [lost]
    rfl
  rw [List.findSome?_cons, List.findSome?_cons, undecodable, none, bodyStalled]
  unfold Reply.bytes? at lost
  split at lost
  next => cases lost
  next bodied =>
    split at lost
    next => cases lost
    next cut =>
      cases lost
      simp [cut]
    next stalled =>
      cases lost
      simp [stalled, bodied]

/-- A document that arrives with success is what is read in its bytes. -/
theorem document?_of_arrived {read : Raw → Option ρ} {bytes : List UInt8}
    (success : statusError? symbol r.status = none) (arrived : r.bytes? = .ok bytes) :
    document? symbol read r =
      ((Raw.ofBytes? bytes).bind read).elim (.error (.parse Reply.bodyMessage)) .ok := by
  rw [document?, success, arrived]
  dsimp only [bind, Except.bind]
  cases (Raw.ofBytes? bytes).bind read <;> rfl

/-- What a request is answered with, as its sender sees it. -/
def received (url : Url) : Delivery → Except DataError Reply
  | .closed => .error (.network (unanswered url))
  | .stalled => .error (.timeout (unanswered url))
  | .reply r => .ok r

/-- A reader that takes the first result of a document with parts gives what the rules say. -/
theorem classify?_eq {read : Raw → Option ρ}
    {parts : ρ → Option (List α) × Option (String × String)} {of? : Reply → Except DataError α}
    (same : ∀ document, (read document).map parts =
      (service.envelopeOf? document).bind service.parts?)
    (takes : ∀ r, of? r = document? symbol read r >>= fun a => takeFirst service symbol (parts a))
    (d : Delivery) : classify? service symbol url d = some (received url d >>= of?) := by
  cases d with
  | closed => rfl
  | stalled => rfl
  | reply r =>
    show _ = some (of? r)
    rw [classify?_reply, takes]
    cases success : statusError? symbol r.status with
    | some f =>
      rw [document?, success]
      rfl
    | none =>
      cases arrived : r.bytes? with
      | error f =>
        rw [document?, success, arrived]
        exact findSome?_of_lost arrived
      | ok bytes =>
        have decoded : ((Raw.ofBytes? bytes).bind service.envelopeOf?).bind service.parts? =
            ((Raw.ofBytes? bytes).bind read).map parts := by
          cases Raw.ofBytes? bytes with
          | none => rfl
          | some document => exact (same document).symm
        rw [document?_of_arrived success arrived]
        dsimp only
        rw [findSome?_of_arrived arrived, decoded]
        cases (Raw.ofBytes? bytes).bind read <;> rfl

/-- The rules for charts give the chart of a reply. -/
theorem classify?_charts (symbol : Symbol) (url : Url) (d : Delivery) :
    classify? charts symbol url d = some (received url d >>= chartOf? symbol) := by
  apply classify?_eq ChartReply.parts
  intro r
  unfold chartOf? takeFirst
  refine congrArg (document? symbol ChartReply.ofJson? r >>= ·) (funext fun reply => ?_)
  cases reply.error <;> rfl

/-- The rules for summaries give the modules of a reply. -/
theorem classify?_summaries (symbol : Symbol) (url : Url) (d : Delivery) :
    classify? summaries symbol url d = some (received url d >>= modulesOf? symbol) := by
  apply classify?_eq SummaryReply.parts
  intro r
  unfold modulesOf? takeFirst
  refine congrArg (document? symbol SummaryReply.ofJson? r >>= ·) (funext fun reply => ?_)
  cases reply.error <;> rfl

end Deliveries

/-! ## Questions -/

/-- What the next request is answered with; a network that is down does not answer. -/
def delivered (n : Network) : Delivery := if n.up then n.answer else .closed

/-- The network after a request; from one that is down none leaves. -/
def afterwards (n : Network) (r : Request) : Network := if n.up then n.sending r else n

/-- The address at which a service is asked for a symbol. -/
def serviceUrl? (base : String) (symbol : Symbol) (ps : List (String × String)) :
    Except DataError Url := do
  let url ← symbolUrl? base symbol
  requestUrl? url ps

/-- What the rules say of a request. -/
def verdict? {α : Type} (service : Service α) (symbol : Symbol) (url : Url) (n : Network) :
    Option (Except DataError α) :=
  classify? service symbol url (delivered n)

/-- A question with the result `result`, which left the network `after`, has the outcome that the
rules give for its request. -/
def Decided {α β : Type} (service : Service α) (symbol : Symbol) (url : Url)
    (cookie : Option String) (before : Network) (use : α → β) (result : Except Fault β)
    (after : Network) : Prop :=
  ∃ o, verdict? service symbol url before = some o ∧
    result = (o.map use).mapError Fault.error ∧ after = afterwards before (requestFor url cookie)

section Questions

variable {e : Endpoints} {h : Handle} {w : World} {url : Url}

/-- A prepared request gives what it is answered with. -/
theorem send_received (url : Url) (cookie : Option String) (n : Network) :
    (send url cookie).outcome n =
      ((received url (delivered n)).mapError Fault.error,
        afterwards n (requestFor url cookie)) := by
  rw [send, Query.outcome_bind_ok (Query.outcome_get _)]
  unfold delivered afterwards
  cases up : n.up with
  | false => rfl
  | true =>
    rw [if_neg (by decide), if_pos rfl, if_pos rfl, Network.exchange_eq]
    cases n.answer <;> rfl

theorem requestSymbol_received {base : String} {symbol : Symbol} {ps : List (String × String)}
    (cookie : Option String) (prepared : serviceUrl? base symbol ps = .ok url) (w : World) :
    (requestSymbol base symbol ps cookie).outcome w =
      ((received url (delivered w.network)).mapError Fault.error,
        { w with network := afterwards w.network (requestFor url cookie) }) := by
  unfold serviceUrl? at prepared
  cases based : symbolUrl? base symbol with
  | error f =>
    rw [based] at prepared
    cases prepared
  | ok target =>
    rw [based] at prepared
    have prepared : requestUrl? target ps = .ok url := prepared
    have usable : ∀ {u : Url}, (orFail (.ok u) : Query World Url).outcome w = (.ok u, w) := rfl
    rw [requestSymbol, based, Query.outcome_bind_ok usable, request, prepared,
      Query.outcome_bind_ok usable, Query.outcome_onPart, send_received]

/-- A question that asks a service for a symbol, and uses what its reader makes of the reply, is
decided by the rules. -/
theorem decided_of_requestSymbol {α β : Type} {service : Service α} {base : String}
    {symbol : Symbol} {ps : List (String × String)} {cookie : Option String}
    {of? : Reply → Except DataError α} {use : α → β} {q : Reply → Query World β}
    (rules : ∀ d, classify? service symbol url d = some (received url d >>= of?))
    (prepared : serviceUrl? base symbol ps = .ok url)
    (answers : ∀ reply v, ((q reply).outcome v).1 = ((of? reply).map use).mapError Fault.error ∧
      ((q reply).outcome v).2.network = v.network) (w : World) :
    Decided service symbol url cookie w.network use
      ((requestSymbol base symbol ps cookie >>= q).outcome w).1
      ((requestSymbol base symbol ps cookie >>= q).outcome w).2.network := by
  refine ⟨_, rules _, ?_⟩
  have asked := requestSymbol_received cookie prepared w
  cases came : received url (delivered w.network) with
  | error f =>
    rw [came] at asked
    rw [Query.outcome_bind_error asked]
    exact ⟨rfl, rfl⟩
  | ok reply =>
    rw [came] at asked
    rw [Query.outcome_bind_ok asked]
    exact answers reply _

/-- A question that uses a chart is decided by the rules for charts. -/
theorem decided_of_fetchChart {β : Type} {use : Chart → β} {q : Chart → Query World β}
    {range interval : String} (prepared : chartUrl? e h.symbol range interval = .ok url)
    (answers : ∀ c v, ((q c).outcome v).1 = .ok (use c) ∧
      ((q c).outcome v).2.network = v.network) (w : World) :
    Decided charts h.symbol url none w.network use
      ((fetchChart e h range interval >>= q).outcome w).1
      ((fetchChart e h range interval >>= q).outcome w).2.network := by
  rw [fetchChart_eq, bind_assoc]
  refine decided_of_requestSymbol (classify?_charts h.symbol url) prepared (fun reply v => ?_) w
  rw [Query.outcome_bind, orFail, Query.outcome_ofExcept]
  cases chartOf? h.symbol reply with
  | error f => exact ⟨rfl, rfl⟩
  | ok c => exact answers c v

theorem info_decided {s : Session} {v : World} (held : (session e h).outcome w = (.ok s, v))
    (prepared : serviceUrl? e.quoteSummary h.symbol (summaryParameters s) = .ok url) :
    Decided summaries h.symbol url (some s.cookie) v.network flatten
      ((info e h).outcome w).1 ((info e h).outcome w).2.network := by
  rw [info, SessionLog.fetchModules_eq, bind_assoc, Query.outcome_bind_ok held,
    SessionLog.summarize, bind_assoc]
  apply decided_of_requestSymbol (classify?_summaries h.symbol url) prepared
  intro reply u
  -- A refused session is dropped before the reply is used; neither touches the network.
  by_cases refused : reply.status = 401
  · rw [if_pos refused, bind_assoc, Query.outcome_bind_ok (outcome_remember h _ u),
      Query.outcome_bind, orFail, Query.outcome_ofExcept]
    cases modulesOf? h.symbol reply <;> exact ⟨rfl, rfl⟩
  · rw [if_neg refused, Query.outcome_bind, orFail, Query.outcome_ofExcept]
    cases modulesOf? h.symbol reply <;> exact ⟨rfl, rfl⟩

/-- What the rules say of a question to a handle, and what the handle keeps then. -/
structure Classified (e : Endpoints) (h : Handle) (w : World) : Prop where
  /-- A history is made of the chart for which the reply stands. -/
  history : ∀ period url, chartUrl? e h.symbol period.text "1d" = .ok url →
    Decided charts h.symbol url none w.network (fun c => Frame.ofBars c.bars)
      ((Yahoo.history e h period).outcome w).1 ((Yahoo.history e h period).outcome w).2.network
  /-- So are dividends, unless some are kept. -/
  dividends : ∀ url, kept h w = none →
    chartUrl? e h.symbol Period.max.text "1mo" = .ok url →
    Decided charts h.symbol url none w.network (fun c => Frame.ofDividends c.dividends)
      ((Yahoo.dividends e h).outcome w).1 ((Yahoo.dividends e h).outcome w).2.network
  /-- Fields are those of the modules for which the reply stands, once there is a session. -/
  info : ∀ s v url, (session e h).outcome w = (.ok s, v) →
    serviceUrl? e.quoteSummary h.symbol (summaryParameters s) = .ok url →
    Decided summaries h.symbol url (some s.cookie) v.network flatten
      ((Yahoo.info e h).outcome w).1 ((Yahoo.info e h).outcome w).2.network
  /-- A history changes nothing that is kept. -/
  history_keeps : ∀ period, ((Yahoo.history e h period).outcome w).2.memory = w.memory
  /-- Dividends do not change the session, whatever comes. -/
  dividends_session : held h ((Yahoo.dividends e h).outcome w).2 = held h w
  /-- Dividends that fail change nothing that is kept. -/
  dividends_keeps : ∀ f, ((Yahoo.dividends e h).outcome w).1 = .error f →
    ((Yahoo.dividends e h).outcome w).2.memory = w.memory
  /-- Fields do not change the dividends that are kept. -/
  info_keeps : kept h ((Yahoo.info e h).outcome w).2 = kept h w

theorem history_keeps (e : Endpoints) (h : Handle) (period : Period) (w : World) :
    ((history e h period).outcome w).2.memory = w.memory := by
  have same := fetchChart_memory e h period.text "1d" w
  rw [history, Query.outcome_bind]
  cases asked : (fetchChart e h period.text "1d").outcome w with
  | mk o v =>
    rw [asked] at same
    cases o <;> exact same

/-- Asking for dividends leaves what is kept as it is, except that dividends may come to be kept. -/
theorem dividends_memory (e : Endpoints) (h : Handle) (w : World) :
    ((dividends e h).outcome w).2.memory = w.memory ∨
      ∃ (ds : List Dividend) (u : World), (dividends e h).outcome w = (.ok (Frame.ofDividends ds),
        u.remember h fun m => { m with dividends := some ds }) ∧ u.memory = w.memory := by
  cases holds : kept h w with
  | some ds =>
    rw [ChartTrace.dividends_of_kept holds]
    exact Or.inl rfl
  | none =>
    have same := fetchChart_memory e h Period.max.text "1mo" w
    rw [DividendAge.dividends_of_unheld e holds, ← bind_assoc, ← fetchChart_eq]
    cases asked : (fetchChart e h Period.max.text "1mo").outcome w with
    | mk o v =>
      rw [asked] at same
      cases o with
      | error f =>
        rw [Query.outcome_bind_error asked]
        exact Or.inl same
      | ok c =>
        refine Or.inr ⟨c.dividends, v, ?_, same⟩
        rw [Query.outcome_bind_ok asked, Query.outcome_bind_ok (outcome_remember h _ v)]
        rfl

end Questions

/-- **What replies stand for.** Over every network and in every world, the questions of a handle
have the outcomes that the rules give for what their requests are answered with; no question for a
chart changes the session, and no question that fails changes the dividends that are kept. -/
theorem questions_follow_rules (e : Endpoints) (h : Handle) (w : World) : Classified e h w where
  history period url prepared :=
    decided_of_fetchChart prepared (fun _ _ => ⟨rfl, rfl⟩) w
  dividends url unkept prepared := by
    rw [DividendAge.dividends_of_unheld e unkept, ← bind_assoc, ← fetchChart_eq]
    apply decided_of_fetchChart prepared
    intro c v
    rw [Query.outcome_bind_ok (outcome_remember h _ v)]
    exact ⟨rfl, rfl⟩
  info s v url := info_decided
  history_keeps period := history_keeps e h period w
  dividends_session := by
    rcases dividends_memory e h w with same | ⟨ds, u, outcome, same⟩
    · exact SessionLog.held_congr same
    · rw [outcome, held_remember]
      exact SessionLog.held_congr same
  dividends_keeps f failed := by
    rcases dividends_memory e h w with same | ⟨ds, u, outcome, -⟩
    · exact same
    · rw [outcome] at failed
      cases failed
  info_keeps := ChartTrace.kept_of_keepsDividends (DividendAge.KeepsDividends.info e) w

/-- A reply with a status that holds a result and an error. -/
def contradictory (status : Nat) : Reply :=
  ⟨status, [], .complete ("\x7b\"chart\":\x7b\"result\":[\x7b\"indicators\":[]\x7d]," ++
    "\"error\":\x7b\"code\":\"Not Found\",\"description\":\"\"\x7d\x7d\x7d").toUTF8.toList⟩

/-- A network that asks for fewer requests in such a reply. -/
def contradicting : Network where
  up := true
  deliveries := [.reply (contradictory 429)]
  sent := []

/-- A world over that network, in which a handle has a session. -/
def contradictingWorld : World :=
  (World.start contradicting).remember ⟨0, ⟨"AAPL"⟩⟩ fun m =>
    { m with session := some ⟨"A1=x", "Cr"⟩ }

theorem exists_url_of_isOk {r : Except DataError Url} (ok : r.isOk = true) :
    ∃ url, r = .ok url := by
  cases r with
  | error f => cases ok
  | ok url => exact ⟨url, rfl⟩

/-- The rules decide a history, dividends and fields over that network. -/
theorem questions_follow_rules_contradicting :
    let e : Endpoints := .under "http://[::1]"
    let h : Handle := ⟨0, ⟨"AAPL"⟩⟩
    let w := contradictingWorld
    (∃ url, Decided charts h.symbol url none w.network (fun c => Frame.ofBars c.bars)
      ((history e h .oneYear).outcome w).1 ((history e h .oneYear).outcome w).2.network) ∧
    (∃ url, Decided charts h.symbol url none w.network (fun c => Frame.ofDividends c.dividends)
      ((dividends e h).outcome w).1 ((dividends e h).outcome w).2.network) ∧
    (∃ url, Decided summaries h.symbol url (some "A1=x") w.network flatten
      ((info e h).outcome w).1 ((info e h).outcome w).2.network) ∧
    ((dividends e h).outcome w).1 = .error (.error (.rateLimited "Yahoo Finance")) ∧
      ((dividends e h).outcome w).2.memory = w.memory := by
  intro e h w
  have classified := questions_follow_rules e h w
  obtain ⟨url, prepared⟩ := exists_url_of_isOk
    (r := chartUrl? e h.symbol Period.oneYear.text "1d") (by decide +kernel)
  obtain ⟨url', prepared'⟩ := exists_url_of_isOk
    (r := chartUrl? e h.symbol Period.max.text "1mo") (by decide +kernel)
  obtain ⟨url'', prepared''⟩ := exists_url_of_isOk
    (r := serviceUrl? e.quoteSummary h.symbol (summaryParameters ⟨"A1=x", "Cr"⟩))
    (by decide +kernel)
  have held : (session e h).outcome w = (.ok ⟨"A1=x", "Cr"⟩, w) := SessionLog.session_of_held e rfl
  have limited : ((dividends e h).outcome w).1 =
      .error (.error (.rateLimited "Yahoo Finance")) := by
    have failed : (((dividends e h).outcome w).1.map fun _ => ()) =
        .error (.error (.rateLimited "Yahoo Finance")) := by decide +kernel
    cases outcome : ((dividends e h).outcome w).1 <;> rw [outcome] at failed <;> cases failed
    rfl
  exact ⟨⟨url, classified.history .oneYear url prepared⟩,
    ⟨url', classified.dividends url' rfl prepared'⟩,
    ⟨url'', classified.info _ w url'' held prepared''⟩, limited,
    classified.dividends_keeps _ limited⟩

/-- Without that status the error counts, although there is a result. -/
example :
    ((chartOf? ⟨"AAPL"⟩ (contradictory 200)).map fun _ => ()) =
      .error (.symbolNotFound "AAPL") := by
  decide +kernel

end MarketDesk.Yahoo.Classification
