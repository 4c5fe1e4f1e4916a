import MarketDesk.Settings.Basic
import MarketDesk.Text.Alphanumeric

/-!
# Environment files

A file of assignments `NAME=value` that complete an environment. Each logical line is one
assignment; quotes and backslashes may carry it over line ends. A variable that the environment
already has keeps its value, so of several assignments to one name the first counts. In a value,
`$NAME` and `${NAME}` stand for a variable of the environment or, failing that, for the value that
the file last gave to that name. A malformed line ends the loading; what was assigned before it
stays.
-/

namespace MarketDesk.Settings

open MarketDesk.Text

/-- Variables and their values. -/
abbrev Environment := List (String × String)

/-- The value of a variable. -/
def Environment.get? (env : Environment) (name : String) : Option String :=
  (env.find? fun v => v.1 == name).map Prod.snd

namespace EnvFile

/-! ## Logical lines -/

/-- Where in a logical line a character stands. -/
inductive Mode where
  | plain
  | escape
  | single
  | singleEscape
  | double
  | doubleEscape
  | blank
  deriving DecidableEq, Repr

/-- What a character outside quotes begins. -/
def Mode.opening (c : Char) : Mode :=
  if c = '\\' then .escape
  else if c = '"' then .double
  else if c = '\'' then .single
  else .plain

/-- The mode after a character; `none` if the character begins a comment. -/
def Mode.next? : Mode → Char → Option Mode
  | .blank, c => if c = '#' then none else some (opening c)
  | .escape, _ => some .plain
  | .plain, c =>
    if isBlank c ∧ c ≠ '\n' ∧ c ≠ '\r' then some .blank else some (opening c)
  | .double, c =>
    some (if c = '\\' then .doubleEscape else if c = '"' then .plain else .double)
  | .doubleEscape, _ => some .double
  | .single, c =>
    some (if c = '\\' then .singleEscape else if c = '\'' then .plain else .single)
  | .singleEscape, _ => some .single

/-- Reads a physical line: the characters before a comment, and the mode at its end, or `none` if
a comment ended it. -/
def Mode.run : Mode → List Char → List Char × Option Mode
  | m, [] => ([], some m)
  | m, c :: cs =>
    match m.next? c with
    | none => ([], none)
    | some m =>
      let (kept, last) := m.run cs
      (c :: kept, last)

/-- Physical lines with their line ends. -/
def physicalLines : List Char → List (List Char)
  | [] => []
  | c :: cs =>
    if c = '\n' then [c] :: physicalLines cs
    else
      match physicalLines cs with
      | [] => [[c]]
      | line :: lines => (c :: line) :: lines

/-- A line without its line end. -/
def dropLineEnd (line : List Char) : List Char :=
  match line.reverse with
  | '\n' :: '\r' :: rest => rest.reverse
  | '\n' :: rest => rest.reverse
  | _ => line

/-- The text begins, after white space, with a comment mark. -/
def isComment (cs : List Char) : Bool := (cs.dropWhile isBlank).head? == some '#'

/-- Joins physical lines to logical ones, given what has been read of the current one. A line that
the file leaves unfinished is `none`. -/
def logicalLines (mode : Mode) (buffer : List Char) : List (List Char) → List (Option (List Char))
  | [] => if mode = .plain then [] else [none]
  | line :: lines =>
    if isComment (buffer ++ line) then some [] :: logicalLines .plain [] lines
    else
      match mode.run line with
      | (kept, none) => some (buffer ++ kept) :: logicalLines .plain [] lines
      | (_, some .plain) => some (dropLineEnd (buffer ++ line)) :: logicalLines .plain [] lines
      | (_, some mode) => logicalLines mode (buffer ++ line) lines

/-! ## Values -/

/-- How far the name of a variable has been read. -/
inductive Reference where
  | outside
  | bare (name : List Char)
  | braced (name : List Char)
  deriving DecidableEq, Repr

/-- The reader of a value: what it stands in, and the text so far. -/
structure ValueState where
  single : Bool
  double : Bool
  escaped : Bool
  /-- White space has ended the value; only a comment may follow. -/
  ended : Bool
  reference : Reference
  out : List Char
  deriving DecidableEq, Repr

/-- The reader at the beginning of a value. -/
def ValueState.start : ValueState := ⟨false, false, false, false, .outside, []⟩

/-- What an escaped character stands for. -/
def unescape? (c : Char) : Option Char :=
  if c = '\\' ∨ c = '\'' ∨ c = '"' ∨ c = '$' ∨ c = ' ' then some c
  else if c = 'n' then some '\n'
  else none

namespace ValueState

variable (value : List Char → List Char)

/-- Adds text to the value. -/
def push (s : ValueState) (cs : List Char) : ValueState := { s with out := s.out ++ cs }

/-- Reads a character inside the name of a variable. -/
def inReference (s : ValueState) (c : Char) : ValueState :=
  match s.reference with
  | .outside => s
  | .bare name =>
    if isAlphanumeric c then { s with reference := .bare (name ++ [c]) }
    else if c = '\x7b' ∧ name = [] then { s with reference := .braced [] }
    else
      let s := s.push (value name)
      if c = '$' then { s with reference := .bare [] }
      else { s with reference := .outside }.push [c]
  | .braced name =>
    if c = '\x7d' then { s.push (value name) with reference := .outside }
    else { s with reference := .braced (name ++ [c]) }

/-- Reads a character outside quotes and names. -/
def inPlain (s : ValueState) (c : Char) : ValueState :=
  if c = '$' then { s with reference := .bare [] }
  else if s.double then
    if c = '"' then { s with double := false }
    else if c = '\\' then { s with escaped := true }
    else s.push [c]
  else if c = '\'' then { s with single := true }
  else if c = '"' then { s with double := true }
  else if c = '\\' then { s with escaped := true }
  else if c = ' ' ∨ c = '\t' then { s with ended := true }
  else s.push [c]

/-- Reads the rest of a value. -/
def run? (s : ValueState) : List Char → Option ValueState
  | [] => some s
  | c :: cs =>
    if s.ended then
      if c = ' ' ∨ c = '\t' then s.run? cs else if c = '#' then some s else none
    else if s.escaped then
      match unescape? c with
      | some d => ({ s with escaped := false }.push [d]).run? cs
      | none => none
    else if s.single then
      (if c = '\'' then { s with single := false } else s.push [c]).run? cs
    else if s.reference ≠ .outside then (s.inReference value c).run? cs
    else (s.inPlain c).run? cs

/-- The value that has been read, if nothing was left open. -/
def finish? (s : ValueState) : Option (List Char) :=
  if s.single ∨ s.double then none
  else
    match s.reference with
    | .outside => some s.out
    | .bare name => some (s.out ++ value name)
    | .braced _ => none

end ValueState

/-- Reads a value; `value` gives the values of variables. -/
def value? (value : List Char → List Char) (cs : List Char) : Option (List Char) :=
  (ValueState.start.run? value cs).bind (ValueState.finish? value)

/-! ## Assignments -/

/-- Reads a name and gives the rest of the line. -/
def name? (cs : List Char) : Option (List Char × List Char) :=
  match cs with
  | c :: _ =>
    if isLetter c ∨ c = '_' then
      let isPart := fun c => isLetter c || isDigit c || c == '_' || c == '.'
      some (cs.takeWhile isPart, cs.dropWhile isPart)
    else none
  | [] => none

/-- Reads an equals sign after white space. -/
def equals? (cs : List Char) : Option (List Char) :=
  match cs.dropWhile isBlank with
  | '=' :: rest => some rest
  | _ => none

/-- Reads a name and an equals sign. The word `export` may stand before the name. -/
def target? (cs : List Char) : Option (List Char × List Char) := do
  let (name, rest) ← name? cs
  match equals? rest with
  | some rest => pure (name, rest)
  | none =>
    if name = "export".toList then
      let (name, rest) ← name? (rest.dropWhile isBlank)
      let rest ← equals? rest
      pure (name, rest)
    else none

/-- What a logical line says. -/
inductive Line where
  | empty
  | assign (name : String) (value : String)
  | malformed
  deriving DecidableEq, Repr

/-- Reads a logical line. -/
def readLine (value : List Char → List Char) (line : List Char) : Line :=
  let cs := trimBlank line
  if cs.isEmpty ∨ isComment cs then .empty
  else
    match target? cs with
    | none => .malformed
    | some (name, rest) =>
      let rest := rest.dropWhile isBlank
      if rest.isEmpty ∨ isComment rest then .assign (String.ofList name) ""
      else
        match value? value rest with
        | some v => .assign (String.ofList name) (String.ofList v)
        | none => .malformed

/-- The value of a variable while a file is loaded: that of the environment, else the one that the
file gave last, else nothing. -/
def valueOf (env given : Environment) (name : List Char) : List Char :=
  let name := String.ofList name
  ((env.get? name <|> given.get? name).getD "").toList

/-- Completes an environment by logical lines; `given` holds what the file assigned, the last
assignment first. An environment cannot hold a value with a NUL, so such an assignment has no
outcome. -/
def loadLines? (env given : Environment) : List (Option (List Char)) → Option Environment
  | [] => some env
  | none :: _ => some env
  | some line :: lines =>
    match readLine (valueOf env given) line with
    | .malformed => some env
    | .empty => loadLines? env given lines
    | .assign name value =>
      let given := (name, value) :: given
      if (env.get? name).isSome then loadLines? env given lines
      else if value.toList.contains '\x00' then none
      else loadLines? (env ++ [(name, value)]) given lines

/-- The text without a byte order mark in front. -/
def dropMark : List Char → List Char
  | '\uFEFF' :: cs => cs
  | cs => cs

/-- The environment completed by a file. -/
def complete? (env : Environment) (file : String) : Option Environment :=
  loadLines? env [] (logicalLines .plain [] (physicalLines (dropMark file.toList)))

end EnvFile

/-- Settings from an environment and, if there is one, a file that completes it. -/
def ofEnvironment? (env : Environment) (file : Option String) : Option Settings :=
  match file with
  | none => some (load env.get?)
  | some file => (EnvFile.complete? env file).map fun env => load env.get?

end MarketDesk.Settings
