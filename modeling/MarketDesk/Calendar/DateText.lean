import MarketDesk.Calendar.Date
import MarketDesk.Text.Blank
import MarketDesk.Text.Digits

/-!
# Dates as text

A date is written `YYYY-MM-DD`; a year outside 0 to 9999 has a sign and at least four digits.
Reading is more lenient: months and days may have one digit, a year without a sign has one to
four digits and one with a sign any number, and white space may stand before each number,
before each hyphen and at the end.
-/

namespace MarketDesk.Calendar.Date

open MarketDesk.Text

/-- The year part of a written date. -/
def yearChars (year : Int) : List Char :=
  if 0 ≤ year ∧ year ≤ 9999 then paddedNat 4 year.natAbs
  else (if year < 0 then '-' else '+') :: paddedNat 4 year.natAbs

/-- The written form of a date. -/
def chars (d : Date) : List Char :=
  yearChars d.year ++ '-' :: paddedNat 2 d.month ++ '-' :: paddedNat 2 d.day

/-- The written form of a date, as a string. -/
def text (d : Date) : String := String.ofList d.chars

/-- Reads a number of at least one and at most `most` digits, and gives the rest of the text. -/
def number? (most : Nat) (cs : List Char) : Option (Nat × List Char) :=
  let run := (cs.take most).takeWhile isDigit
  (nat? run).map fun n => (n, cs.drop run.length)

/-- Reads a year after white space. -/
def year? (cs : List Char) : Option (Int × List Char) :=
  match cs.dropWhile isBlank with
  | '-' :: rest => (number? rest.length rest).map fun (n, rest) => (-(n : Int), rest)
  | '+' :: rest => (number? rest.length rest).map fun (n, rest) => ((n : Int), rest)
  | rest => (number? 4 rest).map fun (n, rest) => ((n : Int), rest)

/-- Reads a month or a day after white space, a hyphen and white space. -/
def part? (cs : List Char) : Option (Nat × List Char) :=
  match cs.dropWhile isBlank with
  | '-' :: rest => number? 2 (rest.dropWhile isBlank)
  | _ => none

/-- Reads a date. -/
def parse? (cs : List Char) : Option Date := do
  let (year, cs) ← year? cs
  let (month, cs) ← part? cs
  let (day, cs) ← part? cs
  if (cs.dropWhile isBlank).isEmpty then ofCivil? year month day else none

/-- Reads a date from a string. -/
def ofText? (s : String) : Option Date := parse? s.toList

end MarketDesk.Calendar.Date
