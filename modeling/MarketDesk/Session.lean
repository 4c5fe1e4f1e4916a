import MarketDesk.Http.Routes

/-!
# Sessions

A session is a sequence of steps on one desk: handles are acquired, the clock moves, the cache is
purged or cleared, data is fetched, a handle is questioned directly, or a request is served. Each
step has an answer or a fault, and the desk goes on either way.
-/

namespace MarketDesk

open MarketDesk.Calendar

/-- A step of a session. -/
inductive Step where
  | acquire (symbol : Symbol)
  | advance (nanos : Int)
  | purge
  | clear
  | isEmpty
  | lifetime
  | history (symbol : Symbol) (period : String)
  | dividends (symbol : Symbol)
  | info (symbol : Symbol)
  | rawHistory (symbol : Symbol) (period : String)
  | rawDividends (symbol : Symbol)
  | rawInfo (symbol : Symbol)
  | http (method target : String)
  deriving DecidableEq, Repr

/-- What a step answers. -/
inductive Answer where
  | handle (h : Handle)
  | moved
  | removed (count : Nat)
  | empty (b : Bool)
  | lifetime (l : Lifetime)
  | timeline (t : Timeline)
  | dividends (ds : List Dividend)
  | overview (o : Overview)
  | priceFrame (f : Frame) (bars : List Bar)
  | dividendFrame (f : Frame) (ds : List Dividend)
  | snapshot (s : Snapshot)
  | response (r : Http.Response)
  | malformedRequest

namespace Session

variable {W : Type}

/-- The period that a text names. -/
def period (s : String) : Query (Desk W) Period :=
  match Period.ofText? s with
  | some p => pure p
  | none => Query.fail (.invalidPeriod s)

/-- Whether the cache has no entries. -/
def isEmpty : Query (Desk W) Answer := do
  let d ← get
  pure (.empty (d.cache.size == 0))

/-- Serves a request if its request line is valid. -/
def request (p : Provider W) (method target : String) : Query (Desk W) Answer :=
  match Http.Method.ofText? method, Http.Target.path? target.toList with
  | some method, some path => do
    let response ← (Http.respond p method path : StateM (Desk W) Http.Response)
    pure (.response response)
  | _, _ => pure .malformedRequest

/-- Asks a handle directly for the prices of a period. The period is looked at after the handle has
been acquired. -/
def rawHistory (p : Provider W) (symbol : Symbol) (text : String) : Query (Desk W) Answer := do
  let handle ← Desk.acquire p symbol
  let period ← period text
  let frame ← Desk.onWorld (p.history handle period)
  let bars ← Query.ofExcept frame.bars
  pure (.priceFrame frame bars)

/-- Asks a handle directly for its dividends. -/
def rawDividends (p : Provider W) (symbol : Symbol) : Query (Desk W) Answer := do
  let handle ← Desk.acquire p symbol
  let frame ← Desk.onWorld (p.dividends handle)
  let dividends ← Query.ofExcept frame.dividends
  pure (.dividendFrame frame dividends)

/-- Asks a handle directly for its fields. -/
def rawInfo (p : Provider W) (symbol : Symbol) : Query (Desk W) Answer := do
  let handle ← Desk.acquire p symbol
  let snapshot ← Desk.onWorld (p.info handle)
  pure (.snapshot snapshot)

/-- Carries out a step. -/
def step (p : Provider W) : Step → Query (Desk W) Answer
  | .acquire symbol => return .handle (← Desk.acquire p symbol)
  | .advance nanos => do Desk.advance nanos; pure .moved
  | .purge => return .removed (← Desk.purge)
  | .clear => do Desk.clear; isEmpty
  | .isEmpty => isEmpty
  | .lifetime => return .lifetime (← get).cache.lifetime
  | .history symbol text => do
    let period ← period text
    return .timeline (← Desk.fetchHistory p symbol period)
  | .dividends symbol => return .dividends (← Desk.fetchDividends p symbol)
  | .info symbol => return .overview (← Desk.fetchOverview p symbol)
  | .rawHistory symbol text => rawHistory p symbol text
  | .rawDividends symbol => rawDividends p symbol
  | .rawInfo symbol => rawInfo p symbol
  | .http method target => request p method target

/-- Carries out steps one after the other, and gives for each its outcome and the desk after it. -/
def run (p : Provider W) : List Step → Desk W → List (Except Fault Answer × Desk W)
  | [], _ => []
  | s :: steps, d =>
    let r := (step p s).outcome d
    r :: run p steps r.2

/-- A desk that has done nothing yet. -/
def fresh (clock : Clock) (lifetime : Lifetime) (world : W) : Desk W :=
  ⟨clock, Cache.empty lifetime, world⟩

/-- The place of a handle among the distinct handles seen so far, and those seen with it. -/
def number (seen : List Handle) (h : Handle) : Nat × List Handle :=
  match seen.findIdx? (· == h) with
  | some n => (n, seen)
  | none => (seen.length, seen ++ [h])

end Session

end MarketDesk
