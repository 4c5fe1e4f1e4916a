import MarketDesk.Text.Blank
import MarketDesk.Url.Basic

/-!
# Paths

A path is read segment by segment: tabs and line ends in a segment do not count, characters that a
path does not keep are escaped, and the dot segments `.` and `..` are resolved. `..` goes up one
segment but never leaves a drive. A drive at the beginning of the path of a file is written with a
colon, and that path begins with one slash only.
-/

namespace MarketDesk.Url

open MarketDesk.Text

/-- The character is dropped wherever it stands. -/
def isDropped (c : Char) : Bool := c == '\t' || c == '\n' || c == '\r'

/-- A text without the characters that do not count. -/
def unbroken (cs : List Char) : List Char := cs.filter (!isDropped ·)

/-- The character is a slash, or under a special scheme a backslash. -/
def isSlash (special : Bool) (c : Char) : Bool := c == '/' || (special && c == '\\')

/-- Splits a text at the first of a set of marks. -/
def splitAt (isMark : Char → Bool) (cs : List Char) : List Char × List Char :=
  (cs.takeWhile (!isMark ·), cs.dropWhile (!isMark ·))

/-! ## Drives -/

/-- The segment is a letter with a colon or a bar, alone or before a backslash. -/
def beginsWithDrive : List Char → Bool
  | letter :: mark :: rest =>
    isLetter letter && (mark == ':' || mark == '|') && (rest.isEmpty || rest.head? == some '\\')
  | _ => false

/-- The segment is a letter with a colon or a bar. -/
def isDrive (segment : List Char) : Bool := segment.length == 2 && beginsWithDrive segment

/-- There is a tab or a line end right after the first colon. -/
def breaksAfterColon (segment : List Char) : Bool :=
  (segment.dropWhile (· != ':')).tail.head?.any isDropped

/-- What the first segment of the path of a file becomes, given as it is read and as it is written.
A drive has a colon. A break after the colon makes the drive a segment of its own. -/
def firstOfFile (read written : List Char) : List (List Char) :=
  match written with
  | [letter, mark] => if isDrive written then [[letter, ':']] else [[letter, mark]]
  | letter :: ':' :: rest =>
    if isLetter letter && breaksAfterColon read then [[letter, ':'], rest] else [written]
  | _ => [written]

/-! ## Segments -/

/-- The segment stands for the directory itself. -/
def isSingleDot (segment : List Char) : Bool :=
  [".", "%2e"].contains (String.ofList (segment.map Char.toLower))

/-- The segment stands for the directory above. -/
def isDoubleDot (segment : List Char) : Bool :=
  ["..", ".%2e", "%2e.", "%2e%2e"].contains (String.ofList (segment.map Char.toLower))

/-- The segments of the directory above, which is the same one for a drive. -/
def above (segments : List (List Char)) : List (List Char) :=
  if segments.getLast?.any beginsWithDrive then segments else segments.dropLast

/-- Adds a segment to those before it; `keep` says what stands in it as it is. A dot segment at the
end leaves an empty one. -/
def addSegment (file : Bool) (keep : Char → Bool) (before : List (List Char)) (segment : List Char)
    (last : Bool) : List (List Char) :=
  let close (segments : List (List Char)) := if last then segments ++ [[]] else segments
  let written := Percent.encode keep (unbroken segment)
  if isDoubleDot written then close (above before)
  else if isSingleDot written then close before
  else if file && before.isEmpty then firstOfFile segment written
  else before ++ [written]

/-- Resolves the segments of a path. -/
def resolveSegments (file : Bool) (before : List (List Char)) :
    List (List Char) → List (List Char)
  | [] => before
  | segment :: rest =>
    resolveSegments file (addSegment file keptInPath before segment rest.isEmpty) rest

/-- A drive stands at the beginning of the path of a file at some point while it is resolved. -/
def meetsDrive (before : List (List Char)) : List (List Char) → Bool
  | [] => false
  | segment :: rest =>
    (before.isEmpty && isDrive (unbroken segment)) ||
      meetsDrive (addSegment true keptInPath before segment rest.isEmpty) rest

/-- The path of a file begins with one slash. -/
def withOneSlash (segments : List (List Char)) : List (List Char) :=
  match segments.dropWhile (·.isEmpty) with
  | [] => [[]]
  | segments => segments

/-- The segments of a path as they are read, after its first slash. -/
def readSegments (special : Bool) (cs : List Char) : List (List Char) :=
  splitOn '/' (if special then cs.map fun c => if c = '\\' then '/' else c else cs)

/-- Reads the path after an authority. -/
def pathAfterAuthority (special : Bool) : List Char → List (List Char)
  | [] => if special then [[]] else []
  | c :: cs =>
    resolveSegments false [] (readSegments special (if isSlash special c then cs else c :: cs))

end MarketDesk.Url
