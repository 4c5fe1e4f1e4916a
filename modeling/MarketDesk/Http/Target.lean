import MarketDesk.Text.Digits
import MarketDesk.Text.Utf8

/-!
# Request lines

Which methods and request targets are valid, and what path a target asks for. A target is a path
with an optional query, a star, a whole address with a scheme, or a bare authority, which has an
empty path. Paths may hold any character outside ASCII, and a few inside it that they should
escape.
-/

namespace MarketDesk.Http

open MarketDesk.Text

/-- A request method. -/
inductive Method where
  | get
  | head
  | other (name : String)
  deriving DecidableEq, Repr

/-- The character may stand in a token. -/
def isTokenChar (c : Char) : Bool := isLetter c || isDigit c || "!#$%&'*+-.^_`|~".toList.contains c

/-- Reads a method: a nonempty token. -/
def Method.ofText? (s : String) : Option Method :=
  let cs := s.toList
  if cs.isEmpty ∨ !cs.all isTokenChar then none
  else if s = "GET" then some .get
  else if s = "HEAD" then some .head
  else some (.other s)

namespace Target

/-- The greatest length of a target, in bytes. -/
def maxLength : Nat := 65534

/-- The character lies in one of the ranges of code points. -/
def isIn (ranges : List (Nat × Nat)) (c : Char) : Bool :=
  ranges.any fun r => decide (r.1 ≤ c.toNat) && decide (c.toNat ≤ r.2)

/-- The character may stand in a path. -/
def isPathChar (c : Char) : Bool :=
  isIn [(0x21, 0x22), (0x24, 0x3B), (0x3D, 0x3D), (0x40, 0x5F), (0x61, 0x7E), (0x7F, 0x10FFFF)] c

/-- The character may stand in a query. -/
def isQueryChar (c : Char) : Bool :=
  isIn [(0x21, 0x21), (0x24, 0x3B), (0x3D, 0x3D), (0x3F, 0x10FFFF)] c

/-- Reads a path and an optional query, up to a fragment, and gives the path. -/
def pathAndQuery? (cs : List Char) : Option (List Char) :=
  let path := cs.takeWhile fun c => c != '?' && c != '#'
  let rest := cs.dropWhile fun c => c != '?' && c != '#'
  let query :=
    match rest with
    | '?' :: rest => rest.takeWhile (· != '#')
    | _ => []
  if path.all isPathChar && query.all isQueryChar then some path else none

/-- The character may stand in an address without an escape. -/
def isAddressChar (c : Char) : Bool :=
  isLetter c || isDigit c || "!#$&'()*+,-./:;=?@[]_~".toList.contains c

/-- What the characters of an authority have shown so far. -/
structure AuthorityState where
  colons : Nat
  opened : Bool
  closed : Bool
  percent : Bool
  /-- The last character was an at sign. -/
  atSign : Bool
  deriving DecidableEq, Repr

/-- Reads a character of an authority. A closing bracket and an at sign make colons and percent
signs before them harmless. -/
def AuthorityState.feed? (s : AuthorityState) (c : Char) : Option AuthorityState :=
  let s' := { s with atSign := c == '@' }
  if c = ':' then if 8 ≤ s.colons then none else some { s' with colons := s.colons + 1 }
  else if c = '[' then if s.percent ∨ s.opened then none else some { s' with opened := true }
  else if c = ']' then
    if !s.opened ∨ s.closed then none
    else some { s' with closed := true, colons := 0, percent := false }
  else if c = '@' then some { s' with colons := 0, percent := false }
  else if c = '%' then some { s' with percent := true }
  else if isAddressChar c then some s'
  else none

/-- The characters form an authority. -/
def isAuthority (cs : List Char) : Bool :=
  match cs.foldlM AuthorityState.feed? ⟨0, false, false, false, false⟩ with
  | some s => s.opened == s.closed && decide (s.colons ≤ 1) && !s.atSign && !s.percent
  | none => false

/-- The character ends an authority. -/
def endsAuthority (c : Char) : Bool := c == '/' || c == '?' || c == '#'

/-- The character may stand in a scheme. -/
def isSchemeChar (c : Char) : Bool := isLetter c || isDigit c || "+-.~".toList.contains c

/-- The text after a scheme and the two slashes that follow it, or `none` if there is no scheme. -/
def afterScheme? (cs : List Char) : Option (List Char × List Char) :=
  let scheme := cs.takeWhile isSchemeChar
  match cs.drop scheme.length with
  | ':' :: '/' :: '/' :: rest => if 3 < cs.length then some (scheme, rest) else none
  | _ => none

/-- Reads a target that does not begin with a slash. -/
def absolute? (cs : List Char) : Option (List Char) :=
  match afterScheme? cs with
  | none => if isAuthority cs && !cs.any endsAuthority then some [] else none
  | some (scheme, rest) =>
    let authority := rest.takeWhile (!endsAuthority ·)
    if 64 < scheme.length ∨ authority.isEmpty ∨ !isAuthority authority then none
    else
      (pathAndQuery? (rest.drop authority.length)).map fun path =>
        if path.isEmpty then ['/'] else path

/-- The path that a target asks for, if the target is valid. -/
def path? (cs : List Char) : Option (List Char) :=
  if maxLength < (Utf8.encode cs).length then none
  else
    match cs with
    | [] => none
    | ['*'] => some ['*']
    | '/' :: _ => pathAndQuery? cs
    | _ => absolute? cs

end Target

end MarketDesk.Http
