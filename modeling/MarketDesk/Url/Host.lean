import MarketDesk.Domain.Basic
import MarketDesk.Net.Address
import MarketDesk.Text.Blank
import MarketDesk.Url.Basic

/-!
# Hosts

The host of an address under a special scheme is a domain, an IPv4 address in any of its number
forms, or an IPv6 address in brackets. It is brought into one written form: lower case, Punycode
for labels beyond ASCII, dotted decimals, compressed groups. Under other schemes a host is kept as
it is, with controls escaped.
-/

namespace MarketDesk.Url

open MarketDesk.Text MarketDesk.Net

/-- Why a text is no address. -/
inductive ParseError where
  | relative
  | emptyHost
  | domain
  | domainCharacter
  | ipv4
  | ipv6
  | port
  deriving DecidableEq, Repr

/-- The text that an error shows. -/
def ParseError.message : ParseError → String
  | .relative => "relative URL without a base"
  | .emptyHost => "empty host"
  | .domain => "invalid international domain name"
  | .domainCharacter => "invalid domain character"
  | .ipv4 => "invalid IPv4 address"
  | .ipv6 => "invalid IPv6 address"
  | .port => "invalid port number"

namespace Host

/-- The character must not stand in the host of a scheme that is not special. -/
def isForbiddenFlat (c : Char) : Bool :=
  "\x00\t\n\r #/:<>?@[\\]^|".toList.contains c

/-- A domain in its written form. -/
def domain? (cs : List Char) : Except ParseError (List Char) :=
  match (Percent.decode? cs).bind Domain.ascii? with
  | none => .error .domain
  | some [] => .error .emptyHost
  | some domain => .ok domain

/-- The number that a part of an IPv4 address denotes: decimal, octal after `0`, hexadecimal
after `0x`. -/
def part? (cs : List Char) : Option Nat :=
  let within (base : Nat) (ds : List Char) : Option Nat :=
    (ds.mapM fun c => (hexDigit? c).filter (· < base)).map (ofDigits base)
  match cs with
  | [] => none
  | '0' :: 'x' :: ds => within 16 ds
  | '0' :: 'X' :: ds => within 16 ds
  | '0' :: d :: ds => within 8 (d :: ds)
  | ds => within 10 ds

/-- The labels of a domain without an empty one at the end. -/
def parts (domain : List Char) : List (List Char) :=
  let labels := splitOn '.' domain
  if 1 < labels.length ∧ labels.getLast? = some [] then labels.dropLast else labels

/-- The last label of a domain makes it an IPv4 address. -/
def endsInNumber (domain : List Char) : Bool :=
  match (parts domain).getLast? with
  | some label => (!label.isEmpty && label.all isDigit) || (part? label).isSome
  | none => false

/-- The IPv4 address of a domain that ends in a number, as a 32-bit number. -/
def ipv4? (domain : List Char) : Option Nat := do
  let numbers ← (parts domain).mapM part?
  let last ← numbers.getLast?
  let front := numbers.dropLast
  if 4 < numbers.length ∨ front.any (255 < ·) ∨ Nat.pow 256 (4 - front.length) ≤ last then none
  else
    pure (front.zipIdx.foldl (fun total (n, i) => total + n * Nat.pow 256 (3 - i)) last)

/-- The written form of a 32-bit number as an IPv4 address. -/
def ipv4Text (n : Nat) : List Char :=
  ipv4Chars ⟨UInt8.ofNat (n / 0x1000000 % 256), UInt8.ofNat (n / 0x10000 % 256),
    UInt8.ofNat (n / 0x100 % 256), UInt8.ofNat (n % 256)⟩

/-- Reads what stands in brackets. -/
def bracketed? (cs : List Char) : Except ParseError (List Char) :=
  match cs.getLast?, takeIpv6 cs.dropLast with
  | some ']', some (address, []) => .ok ('[' :: compressedChars address.groups ++ [']'])
  | _, _ => .error .ipv6

/-- Reads the host of a special scheme. -/
def special? (cs : List Char) : Except ParseError (List Char) :=
  match cs with
  | '[' :: rest => bracketed? rest
  | _ => do
    let domain ← domain? cs
    if endsInNumber domain then
      match ipv4? domain with
      | some n => pure (ipv4Text n)
      | none => throw .ipv4
    else pure domain

/-- Reads the host of a scheme that is not special. -/
def flat? (cs : List Char) : Except ParseError (List Char) :=
  match cs with
  | '[' :: rest => bracketed? rest
  | _ =>
    if cs.any isForbiddenFlat then .error .domainCharacter
    else .ok (Percent.encode keptInFlat cs)

end Host

end MarketDesk.Url
