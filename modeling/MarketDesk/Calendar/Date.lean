/-!
# Calendar days

Days of the proleptic Gregorian calendar, from 1 January of year -262143 to 31 December of year
262142, year 0 included. A `Date` is a civil day that exists; `dayNumber` counts days from
1970-01-01, and `ofDayNumber?` reads such a count back. Both use floor division, so years
before 1 need no case of their own.
-/

namespace MarketDesk.Calendar

/-- Every fourth year is a leap year, except the centuries that four hundred does not divide. -/
def isLeap (year : Int) : Bool := year % 4 == 0 && (year % 100 != 0 || year % 400 == 0)

/-- The number of days in a month; months outside 1 to 12 have none. -/
def monthLength (year : Int) : Nat → Nat
  | 1 | 3 | 5 | 7 | 8 | 10 | 12 => 31
  | 4 | 6 | 9 | 11 => 30
  | 2 => if isLeap year then 29 else 28
  | _ => 0

/-- The first year of the calendar. -/
def minYear : Int := -262143

/-- The last year of the calendar. -/
def maxYear : Int := 262142

/-- The day exists and lies in the range of the calendar. -/
def IsCivil (year : Int) (month day : Nat) : Prop :=
  minYear ≤ year ∧ year ≤ maxYear ∧ 1 ≤ month ∧ month ≤ 12 ∧ 1 ≤ day ∧ day ≤ monthLength year month

instance (year : Int) (month day : Nat) : Decidable (IsCivil year month day) := by
  unfold IsCivil; infer_instance

/-- A day of the calendar. -/
structure Date where
  year : Int
  month : Nat
  day : Nat
  civil : IsCivil year month day
  deriving DecidableEq, Repr

/-- The days from 1 January of year 1 to 1 January of a year. -/
def daysBeforeYear (year : Int) : Int :=
  let y := year - 1
  365 * y + y / 4 - y / 100 + y / 400

/-- The days of a year before a month begins. -/
def daysBeforeMonth (year : Int) (month : Nat) : Nat :=
  (List.range' 1 (month - 1)).foldl (fun days m => days + monthLength year m) 0

/-- The days from 1 January of year 1 to 1 January 1970. -/
def epochOffset : Int := 719162

/-- Of a count of days from 1 January of year 1, the year and the days since its beginning. A
cycle of 400 years has 146097 days; its last century and its last year are one day longer, so
their counts are capped. -/
def yearAndRest (days : Int) : Int × Nat :=
  let r := (days % 146097).toNat
  let century := min 3 (r / 36524)
  let r := r - 36524 * century
  let four := r / 1461
  let r := r % 1461
  let one := min 3 (r / 365)
  (400 * (days / 146097) + 100 * century + 4 * four + one + 1, r - 365 * one)

/-- Month and day of a day counted from the beginning of the first of the listed months. -/
def monthAndDay? (year : Int) : List Nat → Nat → Option (Nat × Nat)
  | [], _ => none
  | m :: ms, r =>
    if r < monthLength year m then some (m, r + 1)
    else monthAndDay? year ms (r - monthLength year m)

namespace Date

/-- The day with the given year, month and day of the month. -/
def ofCivil? (year : Int) (month day : Nat) : Option Date :=
  if h : IsCivil year month day then some ⟨year, month, day, h⟩ else none

/-- Days since 1970-01-01, negative before it. -/
def dayNumber (d : Date) : Int :=
  daysBeforeYear d.year + daysBeforeMonth d.year d.month + (d.day - 1 : Nat) - epochOffset

/-- The day with the given number, if the calendar reaches it. -/
def ofDayNumber? (n : Int) : Option Date := do
  let (year, r) := yearAndRest (n + epochOffset)
  let (month, day) ← monthAndDay? year (List.range' 1 12) r
  ofCivil? year month day

/-- The day that contains a number of seconds since the epoch, in universal time. -/
def ofEpochSeconds? (seconds : Int) : Option Date := ofDayNumber? (seconds / 86400)

/-- Earlier or equal, as a test. -/
def notAfter (a b : Date) : Bool := decide (a.dayNumber ≤ b.dayNumber)

end Date

end MarketDesk.Calendar
