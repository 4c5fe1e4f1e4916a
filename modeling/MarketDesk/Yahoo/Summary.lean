import MarketDesk.Quote.Basic
import MarketDesk.Text.Digits
import MarketDesk.Yahoo.Chart

/-!
# Quote summaries

A summary reply holds modules, each a record of fields. A field may be wrapped in an object that
shows it in several forms, of which `raw` is the value; an object without `raw` holds further
fields. `flatten` makes one snapshot of all fields: a key keeps the first value that is found for
it, and a null is no value.
-/

namespace MarketDesk.Yahoo

open MarketDesk.Json

/-- The modules of a symbol by name, in key order. -/
abbrev Modules := Record Value

/-- A summary reply. -/
structure SummaryReply where
  results : Option (List Modules)
  error : Option Payload

/-- How many lists and records may nest inside a module map. The whole document may nest 127, and
four of them lie around the values. -/
def moduleRoom : Nat := 123

/-- Reads a summary reply. -/
def SummaryReply.ofJson? (r : Raw) : Option SummaryReply := do
  let m ← r.members? ["quoteSummary"]
  m.required? "quoteSummary" fun r => do
    let m ← r.members? ["result", "error"]
    pure {
      results := ← m.optional? "result" (Raw.list? (Raw.map? (Raw.value? moduleRoom)))
      error := ← m.optional? "error" Payload.ofJson? }

mutual

/-- The leaves that a member contributes, nulls included. -/
def memberLeaves (key : String) : Value → List (String × Value)
  | .record inner =>
    match Record.get? inner "raw" with
    | some raw => [(key, raw)]
    | none => leaves inner
  | .list _ => []
  | v => [(key, v)]

/-- The leaves of fields, in the order in which they are met. -/
def leaves : List (String × Value) → List (String × Value)
  | [] => []
  | (key, v) :: rest => memberLeaves key v ++ leaves rest

end

/-- The leaves of a module; a module that is no record has none. -/
def moduleLeaves : Value → List (String × Value)
  | .record fields => leaves fields
  | _ => []

/-- Adds a field unless its key is there already. -/
def addNew (s : Snapshot) (field : String × Value) : Snapshot :=
  if Record.has s field.1 then s else Record.insert field.1 field.2 s

/-- The first values of all keys, without nulls. -/
def gather (fields : List (String × Value)) : Snapshot :=
  (fields.filter fun f => !f.2.isNull).foldl addNew []

/-- The value at a path of keys and positions. -/
def descend : List String → Value → Option Value
  | [], v => some v
  | key :: path, v =>
    match v with
    | .record members => (Record.get? members key).bind (descend path)
    | .list items => ((Text.nat? key.toList).bind (items[·]?)).bind (descend path)
    | _ => none

/-- The key of the next earnings. -/
def earningsKey : String := "earningsTimestamp"

/-- The first scheduled earnings among the calendar events. -/
def scheduledEarnings? (modules : Modules) : Option Value :=
  (Record.get? modules "calendarEvents").bind
    (descend ["earnings", "earningsDate", "0", "raw"])

/-- The snapshot of all modules. Scheduled earnings stand in if no field gives them. -/
def flatten (modules : Modules) : Snapshot :=
  let fields := gather (modules.flatMap fun m => moduleLeaves m.2)
  if Record.has fields earningsKey then fields
  else
    match scheduledEarnings? modules with
    | some v => Record.insert earningsKey v fields
    | none => fields

end MarketDesk.Yahoo
