import MarketDesk.Frame.Series
import MarketDesk.Provider
import MarketDesk.Url.Parse
import MarketDesk.Yahoo.Network
import MarketDesk.Yahoo.Summary

/-!
# The Yahoo client

The client asks a chart service for prices and dividends and a summary service for fields. The
summary service wants a session, a cookie and a crumb that belongs to it; a handle negotiates one
when it first needs it and keeps it until the service answers 401. A handle also keeps the first
dividend series that it got. Nothing else is kept, and a failure keeps nothing.
-/

namespace MarketDesk.Yahoo

open MarketDesk.Json MarketDesk.Text

/-- The addresses of the services. A symbol is appended to the first two as a segment. -/
structure Endpoints where
  chart : String
  quoteSummary : String
  cookie : String
  crumb : String
  deriving DecidableEq, Repr

namespace Endpoints

/-- The public services. -/
def default : Endpoints where
  chart := "https://query1.finance.yahoo.com/v8/finance/chart"
  quoteSummary := "https://query2.finance.yahoo.com/v10/finance/quoteSummary"
  cookie := "https://fc.yahoo.com"
  crumb := "https://query1.finance.yahoo.com/v1/test/getcrumb"

/-- All services under one address; slashes at its end do not count. -/
def under (base : String) : Endpoints :=
  let base := String.ofList ((base.toList.reverse.dropWhile (· == '/')).reverse)
  { chart := base ++ "/v8/finance/chart"
    quoteSummary := base ++ "/v10/finance/quoteSummary"
    cookie := base ++ "/"
    crumb := base ++ "/v1/test/getcrumb" }

end Endpoints

/-- A cookie and the crumb that belongs to it. -/
structure Session where
  cookie : String
  crumb : String
  deriving DecidableEq, Repr

/-- What a handle keeps. -/
structure Memo where
  session : Option Session
  dividends : Option (List Dividend)

/-- A handle that has asked nothing yet keeps nothing. -/
def Memo.empty : Memo := ⟨none, none⟩

/-- The network, the number of handles opened, and what each handle keeps. -/
structure World where
  network : Network
  opened : Nat
  memory : Nat → Memo

/-- A world in which nothing has happened yet. -/
def World.start (network : Network) : World := ⟨network, 0, fun _ => .empty⟩

/-- Changes what a handle keeps. -/
def World.remember (w : World) (handle : Handle) (change : Memo → Memo) : World :=
  { w with
    memory := fun n => if n = handle.serial then change (w.memory n) else w.memory n }

/-- What a handle keeps. -/
def memo (handle : Handle) : Query World Memo := return (← get).memory handle.serial

/-- Changes what a handle keeps. -/
def remember (handle : Handle) (change : Memo → Memo) : Query World Unit :=
  modify fun w => w.remember handle change

/-- The name under which the provider is reported. -/
def providerName : String := "Yahoo Finance"

/-- The modules that are asked for. -/
def infoModules : String :=
  "price,summaryDetail,defaultKeyStatistics,financialData,assetProfile,calendarEvents"

/-- The address of a service with a symbol appended. -/
def symbolUrl? (base : String) (symbol : Symbol) : Except DataError Url :=
  match Url.ofText? base with
  | .error e => .error (.other (base ++ ": " ++ e.message))
  | .ok url =>
    match url.push? symbol.text.toList with
    | some url => .ok url
    | none => .error (.other (base ++ ": cannot be a base URL"))

/-- Takes a result that may be an error. -/
def orFail {σ α : Type} (r : Except DataError α) : Query σ α :=
  Query.ofExcept (r.mapError Fault.error)

/-- Requests an address. -/
def request (url : Url) (parameters : List (String × String)) (cookie : Option String) :
    Query World Reply := do
  let url ← orFail (requestUrl? url parameters)
  Query.onPart World.network (fun network w => { w with network }) (send url cookie)

/-- Requests a service whose address is given as text. -/
def requestService (address : String) (cookie : Option String) : Query World Reply := do
  let url ← orFail ((Url.ofText? address).mapError fun _ => unbuildable none)
  request url [] cookie

/-- The error that a status stands for. -/
def statusError? (symbol : Symbol) (status : Nat) : Option DataError :=
  if status = 429 then some (.rateLimited providerName)
  else if status = 404 then some (.symbolNotFound symbol.text)
  else if 200 ≤ status ∧ status < 300 then none
  else
    some (.network ("HTTP " ++ toString status ++ " " ++ Http.reason status ++ " for " ++
      symbol.text))

/-- The document in the body of a successful reply. -/
def document? {α : Type} (symbol : Symbol) (read : Raw → Option α) (r : Reply) :
    Except DataError α :=
  match statusError? symbol r.status with
  | some e => .error e
  | none => do
    let bytes ← r.bytes?
    match (Raw.ofBytes? bytes).bind read with
    | some a => pure a
    | none => throw (.parse Reply.bodyMessage)

/-- The first of the results, if there is one. -/
def firstResult? {α : Type} (symbol : Symbol) (results : Option (List α)) :
    Except DataError α :=
  match results with
  | some (a :: _) => .ok a
  | _ => .error (.symbolNotFound symbol.text)

/-- The chart that a reply gives. -/
def chartOf? (symbol : Symbol) (r : Reply) : Except DataError Chart := do
  let reply ← document? symbol ChartReply.ofJson? r
  match reply.error with
  | some p =>
    throw (if p.code = "Not Found" then .symbolNotFound symbol.text else .provider p.text)
  | none => firstResult? symbol reply.results

/-- The modules that a reply gives. -/
def modulesOf? (symbol : Symbol) (r : Reply) : Except DataError Modules := do
  let reply ← document? symbol SummaryReply.ofJson? r
  match reply.error with
  | some p => throw (.provider p.text)
  | none => firstResult? symbol reply.results

/-- The parameters of a chart request. -/
def chartParameters (range interval : String) : List (String × String) :=
  [("range", range), ("interval", interval), ("events", "div")]

/-- Asks for a chart. -/
def fetchChart (e : Endpoints) (handle : Handle) (range interval : String) :
    Query World Chart := do
  let url ← orFail (symbolUrl? e.chart handle.symbol)
  let reply ← request url (chartParameters range interval) none
  orFail (chartOf? handle.symbol reply)

/-- The crumb that a reply gives. -/
def crumbOf? (symbol : Symbol) (r : Reply) : Except DataError String :=
  match statusError? symbol r.status with
  | some e => .error e
  | none => do
    let crumb := trim (← r.text?)
    if crumb.isEmpty ∨ crumb.toList.contains '<' then throw (.provider "Invalid Yahoo crumb")
    else pure crumb

/-- Negotiates a session. Any reply to the first request may set the cookie. -/
def negotiate (e : Endpoints) (handle : Handle) : Query World Session := do
  let reply ← requestService e.cookie none
  match reply.cookie? with
  | none => Query.fail (.provider "Missing Yahoo session cookie")
  | some cookie =>
    let reply ← requestService e.crumb (some cookie)
    let crumb ← orFail (crumbOf? handle.symbol reply)
    pure ⟨cookie, crumb⟩

/-- The session of a handle, negotiated if it has none. -/
def session (e : Endpoints) (handle : Handle) : Query World Session := do
  match (← memo handle).session with
  | some s => pure s
  | none =>
    let s ← negotiate e handle
    remember handle fun m => { m with session := some s }
    pure s

/-- The parameters of a summary request. -/
def summaryParameters (s : Session) : List (String × String) :=
  [("modules", infoModules), ("crumb", s.crumb)]

/-- Asks for the modules of a symbol. A session that the service rejects is dropped. -/
def fetchModules (e : Endpoints) (handle : Handle) : Query World Modules := do
  let s ← session e handle
  let url ← orFail (symbolUrl? e.quoteSummary handle.symbol)
  let reply ← request url (summaryParameters s) (some s.cookie)
  if reply.status = 401 then remember handle fun m => { m with session := none }
  orFail (modulesOf? handle.symbol reply)

/-- Opens a handle; nothing is requested. -/
def create (symbol : Symbol) : Query World Handle := do
  let w ← get
  set { w with opened := w.opened + 1 }
  pure ⟨w.opened, symbol⟩

/-- The daily prices of a period. -/
def history (e : Endpoints) (handle : Handle) (period : Period) : Query World Frame := do
  let chart ← fetchChart e handle period.text "1d"
  pure (Frame.ofBars chart.bars)

/-- The dividend series, which is asked for until an answer has been kept. -/
def dividends (e : Endpoints) (handle : Handle) : Query World Frame := do
  match (← memo handle).dividends with
  | some ds => pure (Frame.ofDividends ds)
  | none =>
    let chart ← fetchChart e handle Period.max.text "1mo"
    let ds := chart.dividends
    remember handle fun m => { m with dividends := some ds }
    pure (Frame.ofDividends ds)

/-- The fields of quote and fundamentals. -/
def info (e : Endpoints) (handle : Handle) : Query World Snapshot := do
  let modules ← fetchModules e handle
  pure (flatten modules)

/-- The provider over these services. -/
def provider (e : Endpoints) : Provider World where
  create := create
  history := history e
  dividends := dividends e
  info := info e

end MarketDesk.Yahoo
