import MarketDesk.Quote.Basic

/-!
# Timelines

A timeline joins bars and dividends by date. It yields one trading day per bar, in ascending order
of dates, and keeps the order of bars of one date. The dividend of a day is the last one listed
for its date, or zero. A timeline is consumed from the front, and once it is empty it stays empty.
-/

namespace MarketDesk

open MarketDesk.Calendar

/-- Bars still to come, ascending by date, and the dividends to join them with. -/
structure Timeline where
  bars : List Bar
  dividends : List Dividend

/-- Sorts dividends by date; those of one date keep their order. -/
def sortDividends (ds : List Dividend) : List Dividend :=
  ds.mergeSort fun a b => a.date.notAfter b.date

/-- Sorts bars by date; those of one date keep their order. -/
def sortBars (bars : List Bar) : List Bar :=
  bars.mergeSort fun a b => a.date.notAfter b.date

namespace Timeline

/-- The timeline of any bars and dividends. -/
def make (bars : List Bar) (dividends : List Dividend) : Timeline := ⟨sortBars bars, dividends⟩

/-- The amount of the last dividend on a date, or zero. -/
def amountOn (dividends : List Dividend) (date : Date) : Float :=
  ((dividends.reverse.find? fun d => d.date == date).map Dividend.amount).getD 0.0

/-- The number of days still to come. -/
def remaining (t : Timeline) : Nat := t.bars.length

/-- The next day, and the timeline after it. -/
def next? (t : Timeline) : Option (TradingDay × Timeline) :=
  match t.bars with
  | [] => none
  | bar :: bars =>
    some (TradingDay.ofBar bar (amountOn t.dividends bar.date), { t with bars })

/-- The timeline after a number of days have been taken. -/
def after : Nat → Timeline → Timeline
  | 0, t => t
  | k + 1, t =>
    match t.next? with
    | some (_, rest) => after k rest
    | none => t

/-- All days still to come. -/
def days (t : Timeline) : List TradingDay :=
  t.bars.map fun bar => TradingDay.ofBar bar (amountOn t.dividends bar.date)

theorem days_eq_nil_iff {t : Timeline} : t.days = [] ↔ t.next? = none := by
  unfold days next?; split <;> simp_all

theorem days_of_next? {t u : Timeline} {d : TradingDay} (h : t.next? = some (d, u)) :
    t.days = d :: u.days := by
  unfold next? at h
  split at h
  · cases h
  · next bar bars heq =>
    cases h
    simp [days, heq]

end Timeline

end MarketDesk
