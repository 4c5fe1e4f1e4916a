import MarketDesk.Url.Host
import MarketDesk.Word

/-!
# Reading authorities

An authority is read from the text between two slashes and the path: user info before the last at
sign, a host, and a port after a colon. The default port of a scheme is not written.
-/

namespace MarketDesk.Url

open MarketDesk.Text

/-- The character ends an authority. -/
def endsAuthority (special : Bool) (c : Char) : Bool :=
  c == '/' || c == '?' || c == '#' || (special && c == '\\')

/-- The text before and after the last at sign, if there is one. -/
def splitUserInfo (cs : List Char) : Option (List Char) × List Char :=
  let host := (cs.reverse.takeWhile (· != '@')).reverse
  if host.length = cs.length then (none, cs)
  else (some (cs.take (cs.length - host.length - 1)), host)

/-- User info in its written form. The colon is kept only before a password. -/
def userInfoChars (cs : List Char) : List Char :=
  let user := cs.takeWhile (· != ':')
  let password := cs.drop (user.length + 1)
  Percent.encode keptInUserInfo user ++
    if password.isEmpty then [] else ':' :: Percent.encode keptInUserInfo password

/-- Splits host and port at the first colon outside brackets. -/
def splitPort (bracketed : Bool) : List Char → List Char × Option (List Char)
  | [] => ([], none)
  | c :: cs =>
    if c = ':' ∧ !bracketed then ([], some cs)
    else
      let (host, port) := splitPort ((bracketed || c == '[') && c != ']') cs
      (c :: host, port)

/-- Reads the port after a colon; no digits stand for no port. A backslash ends it, and is given
with the text after it. -/
def port? (cs : List Char) : Except ParseError (Option Nat × List Char) :=
  let digits := cs.takeWhile isDigit
  let rest := cs.drop digits.length
  if (nat? digits).any (Word.size16 ≤ ·) then .error .port
  else if rest.isEmpty ∨ rest.head? = some '\\' then .ok (nat? digits, rest)
  else .error .port

/-- Reads an authority, and gives the text that a backslash cuts from it. `more` says that something
follows: empty user info without a host is refused only then. -/
def authority? (scheme cs : List Char) (more : Bool) :
    Except ParseError (Authority × List Char) := do
  let special := isSpecial scheme
  let (info, rest) := splitUserInfo cs
  let userInfo := userInfoChars (info.getD [])
  let (host, port) := splitPort false rest
  if info = some [] ∧ rest.isEmpty ∧ more then throw .emptyHost
  if host.isEmpty ∧ (special ∨ port.isSome ∨ !userInfo.isEmpty) then throw .emptyHost
  let host ← if special then Host.special? host else Host.flat? host
  let (port, cut) ← port? (port.getD [])
  pure (⟨userInfo, host, port.filter fun n => defaultPort? scheme != some n⟩, cut)

/-- Reads the host of a file, which may be empty; the local one is. -/
def fileHost? (cs : List Char) : Except ParseError (List Char) := do
  if cs.isEmpty then pure []
  else
    let host ← Host.special? cs
    pure (if host = "localhost".toList then [] else host)

end MarketDesk.Url
