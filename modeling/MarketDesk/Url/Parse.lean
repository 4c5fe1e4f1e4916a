import MarketDesk.Url.Authority
import MarketDesk.Url.Path

/-!
# Reading addresses

An absolute address is read from any text. Controls and spaces at its ends do not count, nor do
tabs and line ends anywhere. The parts are cut out from left to right and brought into their
written forms.
-/

namespace MarketDesk.Url

open MarketDesk.Text

/-- The character is dropped at the ends of an address. -/
def isMargin (c : Char) : Bool := decide (c.toNat ≤ 0x20)

/-- A text without the characters at its ends that do not count. -/
def withoutMargins (cs : List Char) : List Char :=
  ((cs.dropWhile isMargin).reverse.dropWhile isMargin).reverse

/-- The character may stand in a scheme. -/
def isSchemeChar (c : Char) : Bool := isLetter c || isDigit c || "+-.".toList.contains c

/-- Reads a scheme in lower case and gives the text after its colon. -/
def scheme? (cs : List Char) : Option (List Char × List Char) :=
  let (scheme, rest) := splitAt (· == ':') cs
  let scheme := unbroken scheme
  if scheme.head?.any isLetter && scheme.all isSchemeChar && !rest.isEmpty then
    some (scheme.map Char.toLower, rest.tail)
  else none

/-- The text after a slash. -/
def afterSlash? (special : Bool) (cs : List Char) : Option (List Char) :=
  match cs.dropWhile isDropped with
  | c :: rest => if isSlash special c then some rest else none
  | [] => none

/-- The character ends a path. -/
def endsPath (c : Char) : Bool := c == '?' || c == '#'

/-- What has been read of an address after its scheme, and the text after that. -/
structure Hierarchy where
  authority : Option Authority
  path : UrlPath
  rest : List Char

/-- Reads authority and path after two slashes. -/
def Hierarchy.remote? (scheme cs : List Char) : Except ParseError Hierarchy := do
  let special := isSpecial scheme
  let (text, rest) := splitAt (endsAuthority special) cs
  let (authority, cut) ← authority? scheme (unbroken text) (!rest.isEmpty)
  let (path, rest) := splitAt endsPath rest
  pure ⟨some authority, .segments (pathAfterAuthority special (cut ++ path)), rest⟩

/-- Reads the path of a file on a given host. A path that names a drive is on no host. -/
def Hierarchy.file (host cs : List Char) : Hierarchy :=
  let (path, rest) := splitAt endsPath cs
  let segments := readSegments true path
  let host := if meetsDrive [] segments then [] else host
  ⟨some ⟨[], host, none⟩, .segments (withOneSlash (resolveSegments true [] segments)), rest⟩

/-- Reads host and path of a file. A drive where a host could be begins the path. -/
def Hierarchy.ofFile? (cs : List Char) : Except ParseError Hierarchy := do
  let path := (afterSlash? true cs).getD cs
  match (afterSlash? true cs).bind (afterSlash? true) with
  | none => pure (.file [] path)
  | some cs =>
    let (text, rest) := splitAt (endsAuthority true) cs
    if isDrive (unbroken text) then pure (.file [] cs)
    else
      let host ← fileHost? (unbroken text)
      pure (.file host ((afterSlash? true rest).getD rest))

/-- Reads a path without an authority, which is flat unless it begins with a slash. -/
def Hierarchy.alone (cs : List Char) : Hierarchy :=
  let (path, rest) := splitAt endsPath cs
  match afterSlash? false path with
  | some path => ⟨none, .segments (resolveSegments false [] (readSegments false path)), rest⟩
  | none => ⟨none, .flat (Percent.encode keptInFlat (unbroken path)), rest⟩

/-- Reads authority and path. -/
def hierarchy? (scheme cs : List Char) : Except ParseError Hierarchy :=
  if scheme = "file".toList then Hierarchy.ofFile? cs
  else if isSpecial scheme then
    Hierarchy.remote? scheme (cs.dropWhile fun c => isSlash true c || isDropped c)
  else
    match (afterSlash? false cs).bind (afterSlash? false) with
    | some cs => Hierarchy.remote? scheme cs
    | none => .ok (Hierarchy.alone cs)

/-- Reads an absolute address. -/
def parse? (cs : List Char) : Except ParseError Url := do
  match scheme? (withoutMargins cs) with
  | none => throw .relative
  | some (scheme, rest) =>
    let ⟨authority, path, rest⟩ ← hierarchy? scheme rest
    let (query, fragment) := splitAt (· == '#') rest
    let part (keep : Char → Bool) (cs : List Char) := Percent.encode keep (unbroken cs)
    pure {
      scheme, authority, path
      guarded := authority.isNone && ['/', '/'].isPrefixOf (pathChars path)
      query := query.tail?.map (part (keptInQuery (isSpecial scheme)))
      fragment := fragment.tail?.map (part keptInFragment) }

/-- Reads an absolute address from a string. -/
def ofText? (s : String) : Except ParseError Url := parse? s.toList

end MarketDesk.Url
