import MarketDesk.Text.Blank
import MarketDesk.Text.Digits

/-!
# Content types

A content type is a type and a subtype with a slash between them, and behind a semicolon or a space
its parameters, each a name and a value, which may stand in quotes. Spaces are passed over before a
name and behind a quote only. One fault makes the whole unreadable.
-/

namespace MarketDesk.Http.ContentType

open MarketDesk.Text

/-- The character may stand in a name, or in a value without quotes. -/
def isTokenChar (c : Char) : Bool :=
  isLetter c || isDigit c || "!#$%&'*+-.^_`|~".toList.contains c

/-- The character may stand in a value with quotes. -/
def isQuotable (c : Char) : Bool := 0x20 ≤ c.toNat && c.toNat != 0x7F

/-- What has been read of a parameter. -/
inductive Part where
  | name (n : List Char)
  | value (n v : List Char)
  | quoted (n v : List Char)
  /-- Nothing but spaces may stand between a quote and the next semicolon. -/
  | closed
  deriving DecidableEq, Repr

/-- The parameters that are complete, and what has been read of the next one. -/
structure Progress where
  complete : List (String × String)
  part : Part
  deriving DecidableEq, Repr

/-- Completes a parameter. -/
def Progress.add (p : Progress) (n v : List Char) (part : Part) : Progress :=
  ⟨p.complete ++ [(String.ofList n, String.ofList v)], part⟩

/-- Reads one character. A quote and a semicolon end a value only if it has a character, and so
does an equals sign with a name. -/
def Progress.next? (p : Progress) (c : Char) : Option Progress :=
  match p.part with
  | .name n =>
    if c = ' ' ∧ n = [] then some p
    else if c = '=' ∧ n ≠ [] then some { p with part := .value n [] }
    else if isTokenChar c then some { p with part := .name (n ++ [c]) }
    else none
  | .value n v =>
    if c = '"' ∧ v = [] then some { p with part := .quoted n [] }
    else if c = ';' ∧ v ≠ [] then some (p.add n v (.name []))
    else if isTokenChar c then some { p with part := .value n (v ++ [c]) }
    else none
  | .quoted n v =>
    if c = '"' ∧ v ≠ [] then some (p.add n v .closed)
    else if isQuotable c then some { p with part := .quoted n (v ++ [c]) }
    else none
  | .closed =>
    if c = ';' then some { p with part := .name [] }
    else if c = ' ' then some p
    else none

/-- The parameters at the end of the text. -/
def Progress.finish? (p : Progress) : Option (List (String × String)) :=
  match p.part with
  | .name [] | .closed => some p.complete
  | .value n v => some (p.add n v .closed).complete
  | .name _ | .quoted _ _ => none

/-- The parameters of a content type. -/
def parameters? (contentType : String) : Option (List (String × String)) :=
  match contentType.toList.span isTokenChar with
  | (_ :: _, '/' :: rest) =>
    match rest.span isTokenChar with
    | (_, []) => some []
    | (_ :: _, c :: rest) =>
      if c = ';' ∨ c = ' ' then
        (rest.foldlM Progress.next? ⟨[], .name []⟩).bind Progress.finish?
      else none
    | _ => none
  | _ => none

/-- The label of the character set that a content type names, without capital letters. -/
def charset? (contentType : String) : Option String := do
  let (_, label) ← (← parameters? contentType).find? fun (name, _) => name.toLower == "charset"
  pure (trim label).toLower

end MarketDesk.Http.ContentType
