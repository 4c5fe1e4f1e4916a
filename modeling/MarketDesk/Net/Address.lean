import MarketDesk.Text.Digits

/-!
# Internet addresses

IPv4 and IPv6 addresses, read from the front of a text. Each reader takes what belongs to it and
gives the rest. The octets of an IPv4 address have no superfluous zeros; a group of an IPv6
address has up to four digits; `::` stands for at least one group of zeros; the last two groups
may be written as an IPv4 address.
-/

namespace MarketDesk.Net

open MarketDesk.Text

/-- An IPv4 address. -/
structure Ipv4 where
  a : UInt8
  b : UInt8
  c : UInt8
  d : UInt8
  deriving DecidableEq, Repr

/-- An IPv6 address: eight groups of 16 bits. -/
structure Ipv6 where
  groups : List UInt16
  eight : groups.length = 8
  deriving DecidableEq, Repr

/-- What a reader takes from the front of a text, and the rest of it. -/
abbrev Piecewise (α : Type) := List Char → Option (α × List Char)

/-- Takes one character. -/
def takeChar (mark : Char) : Piecewise Unit
  | c :: cs => if c = mark then some ((), cs) else none
  | [] => none

/-- Takes all digits in front, of which there has to be one. -/
def takeNumber (value : Char → Option Nat) (base : Nat) (cs : List Char) :
    Option ((Nat × List Char) × List Char) :=
  let run := cs.takeWhile fun c => (value c).isSome
  if run.isEmpty then none
  else some ((ofDigits base (run.filterMap value), run), cs.drop run.length)

/-- Takes an octet: up to three digits without a superfluous zero. -/
def takeOctet : Piecewise UInt8 := fun cs => do
  let ((n, run), rest) ← takeNumber digit? 10 cs
  if run.length ≤ 3 ∧ (run.length = 1 ∨ run.head? ≠ some '0') ∧ n < 256 then
    pure (UInt8.ofNat n, rest)
  else none

/-- Takes a group: up to four hexadecimal digits. -/
def takeGroup : Piecewise UInt16 := fun cs => do
  let ((n, run), rest) ← takeNumber hexDigit? 16 cs
  if run.length ≤ 4 then pure (UInt16.ofNat n, rest) else none

/-- Takes an IPv4 address. -/
def takeIpv4 : Piecewise Ipv4 := fun cs => do
  let (a, cs) ← takeOctet cs
  let ((), cs) ← takeChar '.' cs
  let (b, cs) ← takeOctet cs
  let ((), cs) ← takeChar '.' cs
  let (c, cs) ← takeOctet cs
  let ((), cs) ← takeChar '.' cs
  let (d, cs) ← takeOctet cs
  pure (⟨a, b, c, d⟩, cs)

/-- The two groups that an IPv4 address fills. -/
def Ipv4.asGroups (v : Ipv4) : List UInt16 :=
  [UInt16.ofNat (256 * v.a.toNat + v.b.toNat), UInt16.ofNat (256 * v.c.toNat + v.d.toNat)]

/-- Takes the separator that stands before every group but the first. -/
def takeSeparator (first : Bool) : Piecewise Unit := fun cs =>
  if first then some ((), cs) else takeChar ':' cs

/-- Takes at most `room` groups. An IPv4 address counts as two and ends the groups; the second
result says whether there was one. -/
def takeGroups : (room : Nat) → (first : Bool) → List Char → (List UInt16 × Bool) × List Char
  | 0, _, cs => (([], false), cs)
  | room + 1, first, cs =>
    match takeSeparator first cs with
    | none => (([], false), cs)
    | some ((), inner) =>
      match (if 0 < room then takeIpv4 inner else none) with
      | some (address, rest) => ((Ipv4.asGroups address, true), rest)
      | none =>
        match takeGroup inner with
        | none => (([], false), cs)
        | some (g, rest) =>
          let ((gs, dotted), rest) := takeGroups room false rest
          ((g :: gs, dotted), rest)

/-- The address of groups, if there are eight. -/
def ofGroups? (groups : List UInt16) : Option Ipv6 :=
  if h : groups.length = 8 then some ⟨groups, h⟩ else none

/-- Takes an IPv6 address: eight groups, or fewer around `::`. -/
def takeIpv6 : Piecewise Ipv6 := fun cs => do
  let ((front, dotted), cs) := takeGroups 8 true cs
  if front.length = 8 then
    let address ← ofGroups? front
    pure (address, cs)
  else if dotted then none
  else
    let ((), cs) ← takeChar ':' cs
    let ((), cs) ← takeChar ':' cs
    let ((back, _), cs) := takeGroups (7 - front.length) true cs
    let zeros := List.replicate (8 - front.length - back.length) 0
    let address ← ofGroups? (front ++ zeros ++ back)
    pure (address, cs)

/-- The written form of an IPv4 address. -/
def ipv4Chars (v : Ipv4) : List Char :=
  natChars v.a.toNat ++ '.' :: natChars v.b.toNat ++ '.' :: natChars v.c.toNat ++
    '.' :: natChars v.d.toNat

/-- A group in hexadecimal, without leading zeros. -/
def groupChars (g : UInt16) : List Char := Nat.toDigits 16 g.toNat

/-- Groups with colons between them. -/
def groupsChars : List UInt16 → List Char
  | [] => []
  | [g] => groupChars g
  | g :: gs => groupChars g ++ ':' :: groupsChars gs

/-- The number of zero groups in front. -/
def zeroRun (gs : List UInt16) : Nat := (gs.takeWhile (· == 0)).length

/-- Start and length of the longest run of zeros among groups counted from `start` on;
of runs of one length the first one. -/
def longestRun (start : Nat) : List UInt16 → Nat × Nat
  | [] => (start, 0)
  | g :: gs =>
    let here := zeroRun (g :: gs)
    let later := longestRun (start + 1) gs
    if later.2 ≤ here then (start, here) else later

/-- Groups in written form; the longest run of at least two zero groups is left out. -/
def compressedChars (groups : List UInt16) : List Char :=
  let (start, length) := longestRun 0 groups
  if 1 < length then
    groupsChars (groups.take start) ++ ':' :: ':' :: groupsChars (groups.drop (start + length))
  else groupsChars groups

/-- The written form of an IPv6 address; one that maps an IPv4 address shows that address. -/
def ipv6Chars (v : Ipv6) : List Char :=
  match v.groups with
  | [0, 0, 0, 0, 0, 0xFFFF, g, h] =>
    "::ffff:".toList ++
      ipv4Chars ⟨UInt8.ofNat (g.toNat / 256), UInt8.ofNat (g.toNat % 256),
        UInt8.ofNat (h.toNat / 256), UInt8.ofNat (h.toNat % 256)⟩
  | groups => compressedChars groups

end MarketDesk.Net
