import MarketDesk.Desk.Fetch
import MarketDesk.Http.Response
import MarketDesk.Http.Target
import MarketDesk.Quote.Document
import MarketDesk.Text.Blank
import MarketDesk.Text.Percent

/-!
# Routes

Paths are matched segment by segment as they are written; only then are the segments behind a
symbol and a period decoded. A segment that does not decode, or a period that does not exist, is
refused before the desk is asked. A refusal shows the segment with its broken bytes replaced.
-/

namespace MarketDesk.Http

open MarketDesk.Text

/-- What a path asks for. Segments are kept as written. -/
inductive Route where
  | history (symbol period : List Char)
  | dividends (symbol : List Char)
  | info (symbol : List Char)
  | health
  | unknown
  deriving DecidableEq, Repr

/-- The route of a path. The last segment of a path must not be empty; the symbol of a history may
be. -/
def Route.ofPath (path : List Char) : Route :=
  match (splitOn '/' path).map String.ofList with
  | ["", "health"] => .health
  | ["", "info", symbol] => if symbol = "" then .unknown else .info symbol.toList
  | ["", "dividends", symbol] => if symbol = "" then .unknown else .dividends symbol.toList
  | ["", "history", symbol, period] =>
    if period = "" then .unknown else .history symbol.toList period.toList
  | _ => .unknown

/-- The nonempty segment with an index, with broken bytes replaced; an absent one is empty. -/
def lossySegment (path : List Char) (index : Nat) : String :=
  let segments := (splitOn '/' path).filter (!·.isEmpty)
  String.ofList (Percent.decodeLossy (segments[index]?.getD []))

/-- A segment decoded, if its bytes are a text. -/
def segment? (cs : List Char) : Option String := (Percent.decode? cs).map String.ofList

/-- How many seconds a history may be cached. -/
def historyMaxAge : Period → Nat
  | .oneDay => 120
  | .fiveDays => 300
  | .oneMonth | .threeMonths | .yearToDate => 3600
  | .sixMonths => 7200
  | .oneYear => 14400
  | .twoYears => 43200
  | .fiveYears | .tenYears | .max => 86400

/-- How many seconds an overview may be cached. -/
def infoMaxAge : Nat := 300

/-- How many seconds dividends may be cached. -/
def dividendsMaxAge : Nat := 3600

/-- The version that the server reports. -/
def version : String := "0.1.0"

/-- The period that a text names, or the refusal of it. -/
def period? (s : String) : Except ApiError Period :=
  match Period.ofText? s with
  | some p => .ok p
  | none => .error (.data (.invalidPeriod s))

/-- Symbol and period of a history request. -/
def historyParameters (path symbol period : List Char) : Except ApiError (Symbol × Period) :=
  match segment? symbol, segment? period with
  | some symbol, some period => (period? period).map fun p => (⟨symbol⟩, p)
  | _, _ => do
    let _ ← period? (lossySegment path 2)
    throw (.invalidSymbol (lossySegment path 1))

/-- Symbol of a request that has no other parameter. -/
def symbolParameter (path symbol : List Char) : Except ApiError Symbol :=
  match segment? symbol with
  | some symbol => .ok ⟨symbol⟩
  | none => .error (.invalidSymbol (lossySegment path 1))

variable {W α : Type}

/-- Asks the desk and writes what it answers. -/
def serve (q : Query (Desk W) α) (write : α → Response) : StateM (Desk W) Response := fun d =>
  match q.outcome d with
  | (.ok a, d) => (write a, d)
  | (.error f, d) => (ofFault f, d)

/-- The response to a request for the history of a period. -/
def serveHistory (p : Provider W) (symbol : Symbol) (period : Period) :
    StateM (Desk W) Response :=
  serve (Desk.fetchHistory p symbol period) fun timeline =>
    .cached (historyMaxAge period) (.list (timeline.days.map TradingDay.toJson))

/-- The response to a request for dividends. -/
def serveDividends (p : Provider W) (symbol : Symbol) : StateM (Desk W) Response :=
  serve (Desk.fetchDividends p symbol) fun dividends =>
    .cached dividendsMaxAge (.list (dividends.map Dividend.toJson))

/-- The response to a request for an overview. -/
def serveInfo (p : Provider W) (symbol : Symbol) : StateM (Desk W) Response :=
  serve (Desk.fetchOverview p symbol) fun overview => .cached infoMaxAge overview.toJson

/-- The response to a health request. -/
def health (d : Desk W) : Response :=
  .json 200 (.record [("status", .text "ok"), ("version", .text version),
    ("cached_handles", .whole d.cache.size)])

/-- The response to a `GET` of a route. -/
def answer (p : Provider W) (path : List Char) : Route → StateM (Desk W) Response
  | .history symbol period =>
    match historyParameters path symbol period with
    | .ok (symbol, period) => serveHistory p symbol period
    | .error e => pure e.response
  | .dividends symbol =>
    match symbolParameter path symbol with
    | .ok symbol => serveDividends p symbol
    | .error e => pure e.response
  | .info symbol =>
    match symbolParameter path symbol with
    | .ok symbol => serveInfo p symbol
    | .error e => pure e.response
  | .health => do pure (health (← get))
  | .unknown => pure ApiError.notFound.response

/-- The response to a request, for any method and path. -/
def respond (p : Provider W) (method : Method) (path : List Char) :
    StateM (Desk W) Response := do
  let route := Route.ofPath path
  match method, route with
  | .get, _ => return (← answer p path route).withDefaultAge
  | .head, _ => return (← answer p path route).withDefaultAge.withoutBody
  | .other _, .unknown => return ApiError.notFound.response
  | .other _, _ => return .methodNotAllowed

end MarketDesk.Http
