/-!
# Failures

`DataError` lists the causes for which a market-data operation reports an error, each with the
text that it shows. A `Fault` is an error or an abort: an abort is a breakdown of the operation
itself. No operation reads what a breakdown leaves behind, so an abort does not carry it; what the
server makes of it is part of `Http.Response`. A `Query` runs over a state that keeps its changes
when the query fails.
-/

namespace MarketDesk

/-- Why a market-data operation failed. -/
inductive DataError where
  | invalidPeriod (text : String)
  | network (text : String)
  | timeout (text : String)
  | rateLimited (provider : String)
  | symbolNotFound (symbol : String)
  | provider (text : String)
  | parse (text : String)
  | frame (text : String)
  | other (text : String)
  deriving DecidableEq, Repr

namespace DataError

/-- The text that an error shows. -/
def message : DataError → String
  | .invalidPeriod t => "Invalid period: " ++ t
  | .network t => "Network error: " ++ t
  | .timeout t => "Upstream request timed out: " ++ t
  | .rateLimited p => "Rate limited by " ++ p
  | .symbolNotFound s => "Symbol not found: " ++ s
  | .provider t => "Upstream error: " ++ t
  | .parse t => "Parse error: " ++ t
  | .frame t => "Frame error: " ++ t
  | .other t => t

/-- The error is the caller's: the request itself was not valid. -/
def isValidation : DataError → Bool
  | .invalidPeriod _ => true
  | _ => false

end DataError

/-- How an operation can fail. -/
inductive Fault where
  | error (e : DataError)
  | abort
  deriving DecidableEq, Repr

/-- An operation over a state; what it changed before a failure stays changed. -/
abbrev Query (σ α : Type) := ExceptT Fault (StateM σ) α

namespace Query

variable {σ τ α : Type}

/-- Fails with an error. -/
def fail (e : DataError) : Query σ α := throw (.error e)

/-- Breaks down. -/
def abort : Query σ α := throw .abort

/-- Runs a query, giving its outcome and the state after it. -/
def outcome (q : Query σ α) (s : σ) : Except Fault α × σ := q.run.run s

/-- Takes a result that may be a fault. -/
def ofExcept (r : Except Fault α) : Query σ α :=
  match r with
  | .ok a => pure a
  | .error f => throw f

/-- Runs a query on a part of the state. -/
def onPart (get : τ → σ) (set : σ → τ → τ) (q : Query σ α) : Query τ α := fun t =>
  let r := q.outcome (get t)
  (r.1, set r.2 t)

end Query

end MarketDesk
