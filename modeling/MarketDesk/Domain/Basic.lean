import MarketDesk.Domain.Direction
import MarketDesk.Domain.Label

/-!
# Domains

A domain is a row of labels with dots between them. `ascii?` brings one into its ASCII form, the
one that is sent over the network: each label in its one spelling, with other characters than
ASCII in Punycode. Dots of other scripts count as dots.
-/

namespace MarketDesk.Domain

open MarketDesk.Text

/-- A text between dots in its one spelling, which may have further dots in it. -/
def spelling? (cs : List Char) : Option (List Char) :=
  if cs.all Punycode.isBasic then some (cs.map Char.toLower) else map? cs

/-- The labels of a domain. -/
def labels? (cs : List Char) : Option (List Label) := do
  let pieces ← (splitOn '.' cs).mapM spelling?
  (pieces.flatMap (splitOn '.')).mapM Label.ofSpelled?

/-- The labels read in one direction, or each of them keeps its own. -/
def isReadable (labels : List Label) : Bool :=
  !labels.any (·.text.any turnsRight) || labels.all fun l => isOneWay l.text

/-- Texts with dots between them. -/
def dotted : List (List Char) → List Char
  | [] => []
  | [label] => label
  | label :: labels => label ++ '.' :: dotted labels

/-- The ASCII form of a domain. -/
def ascii? (cs : List Char) : Option (List Char) :=
  ((labels? cs).filter isReadable).map fun labels => dotted (labels.map (·.ascii))

end MarketDesk.Domain
