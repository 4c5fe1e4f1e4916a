import MarketDesk.Text.Direction

/-!
# Labels of one direction

In a domain with letters that are written from right to left, each label has to look the same in a
line of either direction. It begins with a letter, ends with a letter or a number and marks on it,
and holds letters of one direction only; a label from right to left has digits of one kind.
-/

namespace MarketDesk.Domain

open MarketDesk.Text

/-- The character makes a domain one of mixed direction. -/
def turnsRight (c : Char) : Bool := direction c == .right || direction c == .arabicNumber

/-- What may follow a first letter written from left to right, given from the end without marks. -/
def followsLeft : List Direction → Bool
  | [] => true
  | last :: before =>
    [.left, .europeanNumber].contains last &&
      before.all [.left, .europeanNumber, .neutral, .nonspacing].contains

/-- What may follow a first letter written from right to left, given from the end without marks. -/
def followsRight : List Direction → Bool
  | [] => true
  | last :: before =>
    [.right, .europeanNumber, .arabicNumber].contains last &&
      before.all [.right, .europeanNumber, .arabicNumber, .neutral, .nonspacing].contains &&
      !((last :: before).contains .europeanNumber && (last :: before).contains .arabicNumber)

/-- The label looks the same in a line of either direction. -/
def isOneWay : List Char → Bool
  | [] => true
  | first :: rest =>
    let tail := (rest.map direction).reverse.dropWhile (· == .nonspacing)
    match direction first with
    | .left => followsLeft tail
    | .right => followsRight tail
    | _ => false

end MarketDesk.Domain
