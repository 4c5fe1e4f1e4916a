import MarketDesk.Text.Percent

/-!
# Addresses on the web

A `Url` is an address split into its parts, each in its written form: a scheme, an optional
authority, a path, and optional query and fragment. A path is a list of segments, or flat text
for addresses such as `data:x` that nothing can be appended to. `chars` puts the parts together.
-/

namespace MarketDesk

open MarketDesk.Text

/-- User info, host and port. An address without a host has an empty one here or no authority at
all. -/
structure Authority where
  userInfo : List Char
  host : List Char
  port : Option Nat
  deriving DecidableEq, Repr

/-- The path of an address. -/
inductive UrlPath where
  | flat (text : List Char)
  | segments (list : List (List Char))
  deriving DecidableEq, Repr

/-- An address in parts. One without an authority whose path began with two slashes when it was read
is guarded: its path is written after `/.`, so that it is not taken for an authority. -/
structure Url where
  scheme : List Char
  authority : Option Authority
  guarded : Bool
  path : UrlPath
  query : Option (List Char)
  fragment : Option (List Char)
  deriving DecidableEq, Repr

namespace Url

/-- The written form of an authority. -/
def authorityChars (a : Authority) : List Char :=
  (if a.userInfo.isEmpty then [] else a.userInfo ++ ['@']) ++ a.host ++
    match a.port with
    | some p => ':' :: natChars p
    | none => []

/-- The written form of a path: a slash stands before each segment. -/
def pathChars : UrlPath → List Char
  | .flat text => text
  | .segments list => list.flatMap fun segment => '/' :: segment

/-- An optional part after its mark. -/
def marked (mark : Char) : Option (List Char) → List Char
  | some part => mark :: part
  | none => []

/-- The written form of an address up to its path. -/
def front (u : Url) : List Char :=
  u.scheme ++ ':' ::
    match u.authority with
    | some a => '/' :: '/' :: authorityChars a
    | none => if u.guarded then ['/', '.'] else []

/-- The written form of an address. -/
def chars (u : Url) : List Char :=
  u.front ++ pathChars u.path ++ marked '?' u.query ++ marked '#' u.fragment

/-- The written form of an address, as a string. -/
def text (u : Url) : String := String.ofList u.chars

/-- The host, if there is one. -/
def host? (u : Url) : Option (List Char) :=
  u.authority.bind fun a => if a.host.isEmpty then none else some a.host

/-- The user info names a user, or no user and a password, in UTF-8. -/
def hasCredentials (a : Authority) : Bool :=
  let name := a.userInfo.takeWhile (· != ':')
  let password := a.userInfo.drop name.length
  (Percent.decode? name).isSome &&
    (!name.isEmpty || (!password.isEmpty && (Percent.decode? password).isSome))

/-- The address without its user info, unless that names nobody. -/
def withoutUserInfo (u : Url) : Url :=
  { u with
    authority := u.authority.map fun a => if hasCredentials a then { a with userInfo := [] } else a }

/-- The address without its fragment. -/
def withoutFragment (u : Url) : Url := { u with fragment := none }

/-! ## Which characters a part keeps -/

/-- The character is neither a control nor one of the given marks. -/
def keeps (marks : String) (c : Char) : Bool :=
  !(Percent.isControl c || marks.toList.contains c)

/-- What stands as it is in a path. -/
def keptInPath : Char → Bool := keeps " \"#<>?`\x7b\x7d"

/-- What stands as it is in a segment that is appended; a backslash separates segments only under
a special scheme. -/
def keptInSegment (special : Bool) (c : Char) : Bool :=
  keptInPath c && c != '/' && c != '%' && !(special && c == '\\')

/-- What stands as it is in user info. -/
def keptInUserInfo : Char → Bool := keeps " \"#<>?`\x7b\x7d/:;=@[\\]^|"

/-- What stands as it is in a query. -/
def keptInQuery (special : Bool) (c : Char) : Bool :=
  keeps " \"#<>" c && !(special && c == '\'')

/-- What stands as it is in a fragment. -/
def keptInFragment : Char → Bool := keeps " \"<>`"

/-- What stands as it is in flat text and in the host of a scheme that is not special. -/
def keptInFlat : Char → Bool := keeps ""

/-- The default port of a special scheme with a host. -/
def defaultPort? (scheme : List Char) : Option Nat :=
  match String.ofList scheme with
  | "http" | "ws" => some 80
  | "https" | "wss" => some 443
  | "ftp" => some 21
  | _ => none

/-- Schemes whose addresses always have a path that begins with a slash. -/
def isSpecial (scheme : List Char) : Bool :=
  (defaultPort? scheme).isSome || scheme == "file".toList

end Url

end MarketDesk
