import MarketDesk.Fault
import MarketDesk.Json.Value

/-!
# Responses

What the server answers. Failures are answered with a JSON object that has one member, `error`. A
refusal names what was wrong with the request; every other failure is answered with one fixed
text, so nothing of its cause reaches the client. What a breakdown leaves behind goes to the log
alone.
-/

namespace MarketDesk.Http

open MarketDesk.Json

/-- A response. -/
structure Response where
  status : Nat
  /-- How many seconds the response may be cached, if at all. -/
  maxAge : Option Nat
  contentType : Option String
  /-- The methods that would be allowed. -/
  allow : Option String
  body : String
  deriving DecidableEq, Repr

namespace Response

/-- The status says success. -/
def isSuccess (r : Response) : Bool := decide (200 ≤ r.status) && decide (r.status < 300)

/-- The value of the header `Cache-Control`. -/
def cacheControl (r : Response) : Option String :=
  r.maxAge.map fun n => "public, max-age=" ++ toString n

/-- A response with a JSON body. -/
def json (status : Nat) (body : Value) : Response :=
  ⟨status, none, some "application/json", none, body.render⟩

/-- A success that may be cached. -/
def cached (maxAge : Nat) (body : Value) : Response := { json 200 body with maxAge := some maxAge }

/-- A failure with a message. -/
def failure (status : Nat) (message : String) : Response :=
  json status (.record [("error", .text message)])

/-- The message of every failure that is not a refusal. -/
def internalMessage : String := "An internal error occurred"

/-- The answer to every failure that is not a refusal, aborts included. -/
def internal : Response := failure 500 internalMessage

/-- The answer to a known path with a method that it does not serve. -/
def methodNotAllowed : Response := ⟨405, none, none, some "GET,HEAD", ""⟩

/-- The response without its body. -/
def withoutBody (r : Response) : Response := { r with body := "" }

/-- How long a success may be cached if nothing else was said. -/
def defaultMaxAge : Nat := 60

/-- Allows a success without an age to be cached for the default time. -/
def withDefaultAge (r : Response) : Response :=
  if r.isSuccess ∧ r.maxAge.isNone then { r with maxAge := some defaultMaxAge } else r

end Response

/-- Why a request is not answered with data. -/
inductive ApiError where
  | data (e : DataError)
  | invalidSymbol (symbol : String)
  | notFound
  deriving DecidableEq, Repr

namespace ApiError

/-- The text that an error shows. -/
def message : ApiError → String
  | .data e => e.message
  | .invalidSymbol s => "Invalid symbol: " ++ s
  | .notFound => "Not found"

/-- The response to an error. -/
def response (e : ApiError) : Response :=
  match e with
  | .data d => if d.isValidation then .failure 400 e.message else .internal
  | .invalidSymbol _ => .failure 400 e.message
  | .notFound => .failure 404 e.message

end ApiError

/-- What a breakdown leaves behind: a text, or something else. -/
inductive Breakdown where
  | text (detail : String)
  | other
  deriving DecidableEq, Repr

namespace Breakdown

/-- What the server notes about a breakdown, for itself. -/
def detail : Breakdown → String
  | .text t => t
  | .other => "unknown panic payload"

/-- The response to a breakdown, beside what the server notes about it. -/
def answer (b : Breakdown) : Response × String := (.internal, b.detail)

/-- The response to a breakdown. -/
def response (b : Breakdown) : Response := b.answer.1

end Breakdown

/-- The response to a fault of the data layer. An abort is answered as a breakdown that leaves no
text: what it left is noted and goes no further. -/
def ofFault : Fault → Response
  | .error e => (ApiError.data e).response
  | .abort => Breakdown.other.response

end MarketDesk.Http
