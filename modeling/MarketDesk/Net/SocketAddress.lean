import MarketDesk.Net.Address
import MarketDesk.Word

/-!
# Socket addresses

An address and a port, read from `1.2.3.4:80` or `[::1%3]:80` and written in one canonical form.
The number after a percent sign is a scope.
-/

namespace MarketDesk.Net

open MarketDesk.Text

/-- An address with a port, and for IPv6 with a scope, which is zero if there is none. -/
inductive SocketAddress where
  | v4 (address : Ipv4) (port : UInt16)
  | v6 (address : Ipv6) (scope : UInt32) (port : UInt16)
  deriving DecidableEq, Repr

namespace SocketAddress

/-- Takes a decimal number below a bound. -/
def takeBelow (bound : Nat) : Piecewise Nat := fun cs => do
  let ((n, _), rest) ← takeNumber digit? 10 cs
  if n < bound then pure (n, rest) else none

/-- Takes a scope after a percent sign; without a valid one it takes nothing. -/
def takeScope (cs : List Char) : UInt32 × List Char :=
  match (do let ((), cs) ← takeChar '%' cs; takeBelow Word.size32 cs) with
  | some (n, rest) => (UInt32.ofNat n, rest)
  | none => (0, cs)

/-- Takes a port after a colon. -/
def takePort : Piecewise UInt16 := fun cs => do
  let ((), cs) ← takeChar ':' cs
  let (n, cs) ← takeBelow Word.size16 cs
  pure (UInt16.ofNat n, cs)

/-- Takes an IPv4 address with a port. -/
def takeV4 : Piecewise SocketAddress := fun cs => do
  let (address, cs) ← takeIpv4 cs
  let (port, cs) ← takePort cs
  pure (.v4 address port, cs)

/-- Takes an IPv6 address in brackets with a port. -/
def takeV6 : Piecewise SocketAddress := fun cs => do
  let ((), cs) ← takeChar '[' cs
  let (address, cs) ← takeIpv6 cs
  let (scope, cs) := takeScope cs
  let ((), cs) ← takeChar ']' cs
  let (port, cs) ← takePort cs
  pure (.v6 address scope port, cs)

/-- Reads a whole text as a socket address. -/
def parse? (cs : List Char) : Option SocketAddress :=
  match takeV4 cs <|> takeV6 cs with
  | some (address, []) => some address
  | _ => none

/-- Reads a socket address from a string. -/
def ofText? (s : String) : Option SocketAddress := parse? s.toList

/-- The written form of a socket address. -/
def chars : SocketAddress → List Char
  | .v4 address port => ipv4Chars address ++ ':' :: natChars port.toNat
  | .v6 address scope port =>
    '[' :: ipv6Chars address ++ (if scope = 0 then [] else '%' :: natChars scope.toNat) ++
      ']' :: ':' :: natChars port.toNat

/-- The written form of a socket address, as a string. -/
def text (a : SocketAddress) : String := String.ofList a.chars

/-- The port of a socket address. -/
def port : SocketAddress → UInt16
  | .v4 _ port => port
  | .v6 _ _ port => port

end SocketAddress

end MarketDesk.Net
