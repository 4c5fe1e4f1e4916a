import MarketDesk.Json.Reader

/-!
# Records with declared members

A record type names its members in order. It is read from an object, in which unknown members are
passed over and a known one may stand only once, or from a list that gives the values in the
declared order. An object may leave out members that may be absent; a list may not, except that it
may end before members that have a default.
-/

namespace MarketDesk.Json

/-- The members of a record as found in a document. -/
structure Members where
  /-- They came from a list. -/
  positional : Bool
  found : List (String × Raw)

/-- Collects the declared members of an object. -/
def collectMembers? (names : List String) :
    List (List Piece × Raw) → Option (List (String × Raw))
  | [] => some []
  | (key, r) :: rest => do
    let key ← stringOf? key
    let found ← collectMembers? names rest
    if key ∈ names then
      if found.any fun m => m.1 == key then none else some ((key, r) :: found)
    else some found

namespace Raw

/-- The declared members of a record. -/
def members? (names : List String) : Raw → Option Members
  | .record members => (collectMembers? names members).map fun found => ⟨false, found⟩
  | .list items =>
    if items.length ≤ names.length then some ⟨true, names.zip items⟩ else none
  | _ => none

end Raw

namespace Members

variable {α : Type}

/-- The document of a member. -/
def get? (m : Members) (name : String) : Option Raw :=
  (m.found.find? fun f => f.1 == name).map Prod.snd

/-- A member that has to be there. -/
def required? (m : Members) (name : String) (read : Raw → Option α) : Option α :=
  (m.get? name).bind read

/-- A member that may be `null`, and absent from an object. -/
def optional? (m : Members) (name : String) (read : Raw → Option α) : Option (Option α) :=
  match m.get? name with
  | some r => r.orNull? read
  | none => if m.positional then none else some none

/-- A member with a default for when it is absent. -/
def defaulted? (m : Members) (name : String) (default : α) (read : Raw → Option α) : Option α :=
  match m.get? name with
  | some r => read r
  | none => some default

end Members

end MarketDesk.Json
