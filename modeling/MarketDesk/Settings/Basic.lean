import MarketDesk.Net.SocketAddress
import MarketDesk.Text.Blank

/-!
# Server settings

Five variables configure the server. Each setting depends on its own variable alone: the trimmed
text counts if it is a number that fits, and otherwise, or if the variable is not set, the default
stands. Loading therefore never fails.
-/

namespace MarketDesk

open MarketDesk.Net MarketDesk.Text

/-- The settings of the server. Durations are in seconds. -/
structure Settings where
  host : String
  port : UInt16
  cacheLifetime : UInt64
  requestTimeout : UInt64
  /-- How often expired handles are purged in the background, if at all. -/
  cacheSweep : Option UInt64
  deriving DecidableEq, Repr

namespace Settings

/-- The settings when no variable is set. -/
def default : Settings := ⟨"0.0.0.0", 7776, 300, 30, none⟩

/-- The number that a trimmed text denotes, if it is below a bound. -/
def numberBelow? (bound : Nat) (s : String) : Option Nat :=
  (unsigned? (trimBlank s.toList)).filter fun n => decide (n < bound)

/-- An unsigned 16-bit number. -/
def unsigned16? (s : String) : Option UInt16 := (numberBelow? Word.size16 s).map UInt16.ofNat

/-- An unsigned 64-bit number. -/
def unsigned64? (s : String) : Option UInt64 := (numberBelow? Word.size64 s).map UInt64.ofNat

/-- Settings from the variables that `lookup` knows. -/
def load (lookup : String → Option String) : Settings where
  host := (((lookup "STOCKDATA_HOST").map trim).filter (!·.isEmpty)).getD default.host
  port := ((lookup "STOCKDATA_PORT").bind unsigned16?).getD default.port
  cacheLifetime :=
    ((lookup "STOCKDATA_CACHE_TTL_SECS").bind unsigned64?).getD default.cacheLifetime
  requestTimeout :=
    ((lookup "STOCKDATA_UPSTREAM_TIMEOUT_SECS").bind unsigned64?).getD default.requestTimeout
  cacheSweep :=
    ((lookup "STOCKDATA_CACHE_SWEEP_SECS").bind unsigned64?).filter fun n => decide (0 < n)

/-- The address to bind: host and port, read together as one text. -/
def socketAddress? (s : Settings) : Option SocketAddress :=
  SocketAddress.parse? (s.host.toList ++ ':' :: natChars s.port.toNat)

end Settings

end MarketDesk
