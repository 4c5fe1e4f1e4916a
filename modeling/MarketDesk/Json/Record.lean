/-!
# Members by key

A record keeps its members in a list. Records that are looked into are kept in increasing order
of their keys, with one member per key; the order of strings is that of their code points, which
is also the order of their UTF-8 bytes.
-/

namespace MarketDesk.Json

/-- Named members, in the order in which they are written. -/
abbrev Record (α : Type) := List (String × α)

namespace Record

variable {α : Type}

/-- The first member with a key. -/
def get? (r : Record α) (key : String) : Option α :=
  (r.find? fun m => m.1 == key).map Prod.snd

/-- A member with the key exists. -/
def has (r : Record α) (key : String) : Bool := (r.get? key).isSome

/-- Sets a member of a record in key order, in place of an earlier one with its key. -/
def insert (key : String) (value : α) : Record α → Record α
  | [] => [(key, value)]
  | m :: rest =>
    if key < m.1 then (key, value) :: m :: rest
    else if key = m.1 then (key, value) :: rest
    else m :: insert key value rest

/-- The record in key order that keeps the last value given for each key. -/
def ofPairs (pairs : List (String × α)) : Record α :=
  pairs.foldl (fun r m => r.insert m.1 m.2) []

/-- The keys increase strictly. -/
def Ordered (r : Record α) : Prop := r.Pairwise fun a b => a.1 < b.1

end Record

end MarketDesk.Json
