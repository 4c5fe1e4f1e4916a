import MarketDesk.Url.Path

/-!
# Extending addresses

`push?` appends one segment to a path, after dropping one empty segment at its end. The segments
`.` and `..` add nothing; tabs and line ends are dropped from a segment, and one that becomes a
dot segment by that acts as one. `append` adds parameters to a query in form encoding, in which a
space is a plus sign; `Form.pairs` reads a query back.
-/

namespace MarketDesk.Url

open MarketDesk.Text

/-- The segments without an empty one at the end, if another one is before it. -/
def dropTrailing (segments : List (List Char)) : List (List Char) :=
  if 1 < segments.length ∧ segments.getLast? = some [] then segments.dropLast else segments

/-- The segments after appending one. The path of a lone slash has no segment to append to. -/
def pushSegment (scheme : List Char) (segments : List (List Char)) (segment : List Char) :
    List (List Char) :=
  if segment = ['.'] ∨ segment = ['.', '.'] then segments
  else
    let file := scheme == "file".toList
    let before := if segments = [[]] then [] else segments
    let added := addSegment file (keptInSegment (isSpecial scheme)) before segment true
    if file then withOneSlash added else added

/-- The address with a segment appended; flat text has no segments. -/
def push? (u : Url) (segment : List Char) : Option Url :=
  match u.path with
  | .flat _ => none
  | .segments segments =>
    some { u with
      path := .segments (pushSegment u.scheme (dropTrailing segments) segment) }

namespace Form

/-- What stands as it is in a form. -/
def kept (c : Char) : Bool := isLetter c || isDigit c || "*-._".toList.contains c

/-- A text in form encoding. -/
def encode (cs : List Char) : List Char :=
  cs.flatMap fun c => if c = ' ' then ['+'] else Percent.encodeChar kept c

/-- A name and its value. -/
def pair (name value : List Char) : List Char := encode name ++ '=' :: encode value

/-- Pairs with ampersands between them. -/
def join : List (List Char × List Char) → List Char
  | [] => []
  | [(name, value)] => pair name value
  | (name, value) :: rest => pair name value ++ '&' :: join rest

/-- The text behind form encoding. -/
def decode (cs : List Char) : List Char :=
  Percent.decodeLossy (cs.map fun c => if c = '+' then ' ' else c)

/-- The pairs of a query. -/
def pairs (query : List Char) : List (List Char × List Char) :=
  ((splitOn '&' query).filter (!·.isEmpty)).map fun part =>
    let (name, value) := splitAt (· == '=') part
    (decode name, decode value.tail)

end Form

/-- The address with parameters added to its query. -/
def append (u : Url) (parameters : List (List Char × List Char)) : Url :=
  let earlier := u.query.getD []
  let added := Form.join parameters
  let query := if earlier.isEmpty then added else earlier ++ '&' :: added
  if parameters.isEmpty then u else { u with query := some query }

end MarketDesk.Url
