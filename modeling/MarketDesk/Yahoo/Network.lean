import MarketDesk.Fault
import MarketDesk.Http.ContentType
import MarketDesk.Http.Status
import MarketDesk.Http.Target
import MarketDesk.Text.Blank
import MarketDesk.Text.Charset
import MarketDesk.Url.Extend

/-!
# The network of the Yahoo client

Requests are answered from a list of deliveries, one per request, in order; when the list is used
up, connections close without an answer. Every request that leaves is logged. A network that is
down logs nothing and refuses every request.

A delivery is what comes of sending one request, as the client is told. How the connection is made,
over `https` perhaps through a tunnel, the interim replies on it and the redirects that are followed
all lie below: a tunnel that is refused is a connection that closes, and a reply is the last one.
-/

namespace MarketDesk.Yahoo

open MarketDesk.Text

/-- A request as it was sent. -/
structure Request where
  method : String
  target : String
  cookie : Option String
  deriving DecidableEq, Repr

/-- How the body of a reply arrives. -/
inductive Body where
  | complete (bytes : List UInt8)
  | cut
  | stalled
  deriving DecidableEq, Repr

/-- A reply. -/
structure Reply where
  status : Nat
  headers : List (String × String)
  body : Body
  deriving DecidableEq, Repr

/-- What comes of sending a request. -/
inductive Delivery where
  | closed
  | stalled
  | reply (r : Reply)
  deriving DecidableEq, Repr

/-- What is to be delivered, and what has been sent. -/
structure Network where
  up : Bool
  deliveries : List Delivery
  sent : List Request
  deriving DecidableEq, Repr

/-- The network logs a request. -/
def Network.log (n : Network) (r : Request) : Network := { n with sent := n.sent ++ [r] }

/-- Sends a request and takes the next delivery. -/
def Network.exchange (n : Network) (r : Request) : Delivery × Network :=
  match n.deliveries with
  | [] => (.closed, n.log r)
  | d :: ds => (d, { n.log r with deliveries := ds })

namespace Reply

/-- The first header with a name; the case of names does not matter. -/
def header? (r : Reply) (name : String) : Option String :=
  (r.headers.find? fun h => h.1.toLower == name).map Prod.snd

/-- The value of a header if it is plain: visible ASCII, spaces and tabs. -/
def plainHeader? (r : Reply) (name : String) : Option String :=
  (r.header? name).filter fun v =>
    v.toList.all fun c => (0x20 ≤ c.toNat && c.toNat < 0x7F) || c == '\t'

/-- The session cookie that a reply sets: what stands before the first semicolon. -/
def cookie? (r : Reply) : Option String :=
  ((r.plainHeader? "set-cookie").map fun v =>
    String.ofList (trimBlank (v.toList.takeWhile (· != ';')))).filter (!·.isEmpty)

/-- Replies with these codes have no body. -/
def isBodiless (r : Reply) : Bool := r.status == 204 || r.status == 304 || r.status < 200

/-- The error text for a body that cannot be used. -/
def bodyMessage : String := "error decoding response body"

/-- The bytes of the body. -/
def bytes? (r : Reply) : Except DataError (List UInt8) :=
  if r.isBodiless then .ok []
  else
    match r.body with
    | .complete bytes => .ok bytes
    | .cut => .error (.parse bodyMessage)
    | .stalled => .error (.timeout bodyMessage)

/-- The character set of the body. -/
def charset (r : Reply) : Charset :=
  let label? := (r.plainHeader? "content-type").bind Http.ContentType.charset?
  (label?.bind Charset.ofLabel?).getD .utf8

/-- The body as text. -/
def text? (r : Reply) : Except DataError String := do
  let bytes ← r.bytes?
  pure (String.ofList (r.charset.decode bytes))

end Reply

/-! ## Requests by address -/

/-- The error for a request that cannot be built. -/
def unbuildable (url : Option Url) : DataError :=
  .network ("builder error" ++
    match url with
    | some u => " for url (" ++ u.text ++ ")"
    | none => "")

/-- The text for a request without an answer. -/
def unanswered (url : Url) : String := "error sending request for url (" ++ url.text ++ ")"

/-- The scheme is one that the client speaks. -/
def isHttp (url : Url) : Bool := url.scheme == "http".toList || url.scheme == "https".toList

/-- The address of a request: without user info, with the parameters in its query. It needs a host,
a scheme that the client speaks, and characters that a request target may have. -/
def requestUrl? (url : Url) (parameters : List (String × String)) : Except DataError Url :=
  if url.host?.isNone then .error (unbuildable (some url))
  else
    let parameters := parameters.map fun (name, value) => (name.toList, value.toList)
    let full := url.withoutUserInfo.append parameters
    if isHttp full ∧ (Http.Target.path? full.chars).isSome then .ok full
    else .error (unbuildable (some full))

/-- Sends a request to an address that has been prepared, and gives the reply. -/
def send (url : Url) (cookie : Option String) : Query Network Reply := do
  let network ← get
  if !network.up then Query.fail (.network (unanswered url))
  else
    let (delivery, network) := network.exchange ⟨"GET", url.withoutFragment.text, cookie⟩
    set network
    match delivery with
    | .closed => Query.fail (.network (unanswered url))
    | .stalled => Query.fail (.timeout (unanswered url))
    | .reply r => pure r

end MarketDesk.Yahoo
