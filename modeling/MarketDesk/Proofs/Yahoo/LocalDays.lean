import Mathlib.Data.Rat.Floor
import MarketDesk.Calendar.Instant
import MarketDesk.Proofs.Calendar.DateOrder
import MarketDesk.Proofs.Yahoo.PriceHistory

/-!
# Local days

A chart counts the seconds since the epoch and the distance of the exchange in 64-bit words, a frame
counts days in 32-bit words, and between the two stands a day of the calendar. The detour loses
nothing: the day that is found for a time stamp is the one whose count is the local time divided by
the length of a day and rounded down, before the epoch as after it, and no word wraps on the way.

Later time stamps never have earlier days, so the order of dates and the order of time do not
contradict each other. What sorting by date puts in another order was out of order in time as well;
rows that come in the order of time stay as they are. `local_days_follow_time` says all of this.
-/

namespace MarketDesk.Yahoo

open MarketDesk.Calendar

/-! ## From seconds to days -/

/-- The days from the epoch to a time at the exchange, rounded down. -/
def localDays (timestamp offset : Int) : Int := ⌊((timestamp + offset : Int) : ℚ) / 86400⌋

/-- The sum of two words, if it fits a word. -/
def checkedSum? (a b : Int64) : Option Int64 :=
  if a.toBitVec.saddOverflow b.toBitVec then none else some (a + b)

/-- What is found for a time stamp and an offset is their local day. -/
structure IsLocalDay (timestamp offset : Int64) (found : Option Date) : Prop where
  /-- The exact sum fits a word, and its days are the number of the day. -/
  on_iff : ∀ d, found = some d ↔ Word.IsSigned64 (timestamp.toInt + offset.toInt) ∧
    d.dayNumber = localDays timestamp.toInt offset.toInt
  /-- There is a day just if the exact sum lies between the first and the last second of the
  calendar. -/
  reached_iff : (∃ d, found = some d) ↔ minSecond ≤ timestamp.toInt + offset.toInt ∧
    timestamp.toInt + offset.toInt ≤ maxSecond
  /-- The words are added with a check, and nothing else is needed of their sum. -/
  checked : found = (checkedSum? timestamp offset).bind fun sum => Date.ofEpochSeconds? sum.toInt
  /-- A date column holds the days in a word, and the day is read back from it. -/
  cell : ∀ d, found = some d → ∃ n : Int32, (Frame.dateColumn [d]).cells = .date [some n] ∧
    n.toInt = localDays timestamp.toInt offset.toInt ∧
    ∀ row, Frame.dateAt row (some n.toInt) = .ok d

section

variable {a b sum : Int64} {timestamp timestamp' offset : Int} {d d' : Date}

theorem localDays_eq (timestamp offset : Int) :
    localDays timestamp offset = (timestamp + offset) / 86400 :=
  Rat.floor_intCast_div_natCast (timestamp + offset) 86400

theorem fallsOn_iff : FallsOn timestamp offset d ↔
    Word.IsSigned64 (timestamp + offset) ∧ d.dayNumber = localDays timestamp offset := by
  rw [FallsOn, localDays_eq]

theorem saddOverflow_iff :
    a.toBitVec.saddOverflow b.toBitVec = true ↔ ¬ Word.IsSigned64 (a.toInt + b.toInt) := by
  unfold BitVec.saddOverflow Word.IsSigned64
  rw [Bool.or_eq_true, decide_eq_true_eq, decide_eq_true_eq, Int64.toInt_toBitVec,
    Int64.toInt_toBitVec]
  omega

/-- A checked sum is the exact one. -/
theorem toInt_of_checkedSum? (h : checkedSum? a b = some sum) :
    sum.toInt = a.toInt + b.toInt := by
  unfold checkedSum? at h
  split at h
  next => cases h
  next fits =>
    cases h
    exact BitVec.toInt_add_of_not_saddOverflow fits

theorem checkedSum?_eq_none_iff :
    checkedSum? a b = none ↔ ¬ Word.IsSigned64 (a.toInt + b.toInt) := by
  rw [← saddOverflow_iff, checkedSum?]
  split <;> simp_all

/-- The local day is the day of the checked sum. -/
theorem localDate?_eq_bind (a b : Int64) : localDate? a.toInt b.toInt =
    (checkedSum? a b).bind fun sum => Date.ofEpochSeconds? sum.toInt := by
  unfold localDate?
  dsimp only
  split
  next fits =>
    cases checked : checkedSum? a b with
    | none => exact absurd fits (checkedSum?_eq_none_iff.1 checked)
    | some sum => rw [Option.bind_some, toInt_of_checkedSum? checked]
  next wide => rw [checkedSum?_eq_none_iff.2 wide, Option.bind_none]

/-- The seconds of the calendar are those whose day it has; their number is far inside 64 bits. -/
theorem exists_fallsOn_iff : (∃ d, FallsOn timestamp offset d) ↔
    minSecond ≤ timestamp + offset ∧ timestamp + offset ≤ maxSecond := by
  have least : Date.first.dayNumber * 86400 = minSecond := by decide
  have most : Date.last.dayNumber * 86400 + 86399 = maxSecond := by decide
  have near : -0x8000000000000000 ≤ minSecond ∧ maxSecond < 0x8000000000000000 := by decide
  unfold FallsOn
  rw [exists_and_left, Date.exists_dayNumber_iff]
  unfold Word.IsSigned64
  omega

theorem localDate?_isLocalDay (timestamp offset : Int64) :
    IsLocalDay timestamp offset (localDate? timestamp.toInt offset.toInt) where
  on_iff d := localDate?_eq_some_iff.trans fallsOn_iff
  reached_iff := by
    simp only [localDate?_eq_some_iff]
    exact exists_fallsOn_iff
  checked := localDate?_eq_bind timestamp offset
  cell d found := by
    have whole := Frame.toInt_ofInt_dayNumber d
    obtain ⟨-, number⟩ := fallsOn_iff.1 (localDate?_eq_some_iff.1 found)
    refine ⟨Int32.ofInt d.dayNumber, rfl, whole.trans number, fun row => ?_⟩
    rw [whole, Frame.dateAt, Date.ofDayNumber?_dayNumber]

/-! ## The order of time -/

theorem dayNumber_le_of_le (falls : FallsOn timestamp offset d)
    (falls' : FallsOn timestamp' offset d') (le : timestamp ≤ timestamp') :
    d.dayNumber ≤ d'.dayNumber := by
  have number := falls.2
  have number' := falls'.2
  omega

theorem lt_of_dayNumber_lt (falls : FallsOn timestamp offset d)
    (falls' : FallsOn timestamp' offset d') (lower : d.dayNumber < d'.dayNumber) :
    timestamp < timestamp' :=
  Int.not_le.1 fun le => Int.not_lt.2 (dayNumber_le_of_le falls' falls le) lower

/-- A later time stamp never has an earlier day. -/
theorem not_isBefore_of_le (falls : FallsOn timestamp offset d)
    (falls' : FallsOn timestamp' offset d') (le : timestamp ≤ timestamp') : ¬ d'.IsBefore d := by
  rw [Date.isBefore_iff]
  exact Int.not_lt.2 (dayNumber_le_of_le falls falls' le)

end

/-- Elements with time stamps stand sorted by date, which does not contradict their time, and the
frame made of them counts their days. -/
structure KeepsTime {α : Type} (offset : Int) (time : α → Int) (date : α → Date)
    (before after : List α) (f : Frame) : Prop where
  sorted : SortedByDate date before after
  /-- Of two elements in their order after sorting the first is earlier in time, or they are of one
  day and stood in this order before. -/
  inTime : ∀ x y, [x, y].Sublist after →
    (date x).IsBefore (date y) ∧ time x < time y ∨ date x = date y ∧ [x, y].Sublist before
  /-- What comes in the order of time stays as it is. -/
  unmoved : before.Pairwise (fun x y => time x ≤ time y) → after = before
  /-- The date column holds the local days of the time stamps. -/
  counts : ∃ cells, f.column "date" = .ok cells ∧
    cells.days = after.map fun x => some (localDays (time x) offset)

section

variable {α : Type} {offset : Int} {time : α → Int} {date : α → Date} {before after : List α}

theorem inTime_of_sortedByDate (falls : ∀ x ∈ before, FallsOn (time x) offset (date x))
    (sorted : SortedByDate date before after) {x y : α} (stand : [x, y].Sublist after) :
    (date x).IsBefore (date y) ∧ time x < time y ∨ date x = date y ∧ [x, y].Sublist before := by
  have hx : x ∈ before := sorted.perm.subset (stand.subset (by simp))
  have hy : y ∈ before := sorted.perm.subset (stand.subset (by simp))
  rcases Int.lt_or_eq_of_le (List.pairwise_iff_forall_sublist.1 sorted.ascending stand)
    with lower | same
  · exact Or.inl ⟨Date.isBefore_iff.2 lower, lt_of_dayNumber_lt (falls x hx) (falls y hy) lower⟩
  · have day : date x = date y := Date.dayNumber_inj.1 same
    -- The sort is stable, so the elements of this day stand as they stood.
    have kept := stand.filter fun a => date a == date y
    rw [List.filter_cons_of_pos (by simp [day]), List.filter_cons_of_pos (by simp),
      List.filter_nil, sorted.stable] at kept
    exact Or.inr ⟨day, kept.trans List.filter_sublist⟩

theorem eq_of_sortedByDate (falls : ∀ x ∈ before, FallsOn (time x) offset (date x))
    (sorted : SortedByDate date before after)
    (ascending : before.Pairwise fun x y => time x ≤ time y) : after = before := by
  refine sorted.unique (sortedByDate_self (ascending.imp_of_mem fun hx hy le => ?_))
  exact dayNumber_le_of_le (falls _ hx) (falls _ hy) le

/-- Elements that are sorted by their local days keep their time in a frame that has these days. -/
theorem keepsTime_of_sortedByDate {f : Frame}
    (falls : ∀ x ∈ before, FallsOn (time x) offset (date x))
    (sorted : SortedByDate date before after)
    (dates : f.column "date" = .ok (Frame.dateColumn (after.map date)).cells) :
    KeepsTime offset time date before after f where
  sorted := sorted
  inTime _ _ := inTime_of_sortedByDate falls sorted
  unmoved := eq_of_sortedByDate falls sorted
  counts := by
    refine ⟨_, dates, ?_⟩
    rw [Frame.days_dateColumn, List.map_map]
    refine List.map_congr_left fun x mem => ?_
    exact congrArg some (fallsOn_iff.1 (falls x (sorted.perm.subset mem))).2

end

namespace Chart

/-- The time stamp of a row. Rows without one have no bar either. -/
def timeOf (c : Chart) (row : Nat) : Int := c.timestamps.getD row 0

/-- The dividend events whose day is in the calendar, with their dividends. -/
def events (c : Chart) : List (Payment × Dividend) :=
  c.payments.filterMap fun p => (dividendOf? c.offset p).map fun d => (p, d)

variable {c : Chart}

theorem fallsOn_of_mem_rows {x : Nat × Bar} (mem : x ∈ c.rows) :
    FallsOn (c.timeOf x.1) c.offset x.2.date := by
  obtain ⟨q, timestamp, -, here, row⟩ := mem_rows_iff.1 mem
  rw [timeOf, List.getD_eq_getElem?_getD, here]
  exact row.date

theorem fallsOn_of_mem_events {x : Payment × Dividend} (mem : x ∈ c.events) :
    FallsOn x.1.timestamp c.offset x.2.date := by
  obtain ⟨p, -, made⟩ := List.mem_filterMap.1 mem
  obtain ⟨d, paid, rfl⟩ := Option.map_eq_some_iff.1 made
  obtain ⟨date, day, rfl⟩ := Option.map_eq_some_iff.1 paid
  exact localDate?_eq_some_iff.1 day

theorem map_snd_events (c : Chart) :
    c.events.map Prod.snd = c.payments.filterMap (dividendOf? c.offset) := by
  rw [events, List.map_filterMap]
  refine congrArg (fun f => c.payments.filterMap f) (funext fun p => ?_)
  cases dividendOf? c.offset p <;> rfl

/-- Sorting the dividends of a chart sorts its events. -/
theorem dividends_eq (c : Chart) : c.dividends =
    (c.events.mergeSort fun x y => x.2.date.notAfter y.2.date).map Prod.snd := by
  rw [dividends, ← map_snd_events, sortDividends]
  exact (List.map_mergeSort (f := Prod.snd) fun _ _ _ _ => rfl).symm

/-- The rows of a chart are sorted to its bars. -/
theorem exists_keepsTime_bars (c : Chart) : ∃ rows, c.bars = rows.map Prod.snd ∧
    KeepsTime c.offset (fun x => c.timeOf x.1) (fun x => x.2.date) c.rows rows
      (Frame.ofBars c.bars) := by
  refine ⟨_, c.bars_eq, ?_⟩
  refine keepsTime_of_sortedByDate (fun x => fallsOn_of_mem_rows) (sortedByDate_mergeSort _ _) ?_
  have dates : (Frame.ofBars c.bars).column "date" =
      .ok (Frame.dateColumn (c.bars.map Bar.date)).cells := rfl
  rw [dates, bars_eq, List.map_map]
  rfl

/-- The events of a chart are sorted to its dividends. -/
theorem exists_keepsTime_dividends (c : Chart) : ∃ events, c.dividends = events.map Prod.snd ∧
    KeepsTime c.offset (fun x => x.1.timestamp) (fun x => x.2.date) c.events events
      (Frame.ofDividends c.dividends) := by
  refine ⟨_, c.dividends_eq, ?_⟩
  refine keepsTime_of_sortedByDate (fun x => fallsOn_of_mem_events)
    (sortedByDate_mergeSort _ _) ?_
  have dates : (Frame.ofDividends c.dividends).column "date" =
      .ok (Frame.dateColumn (c.dividends.map Dividend.date)).cells := rfl
  rw [dates, dividends_eq, List.map_map]
  rfl

end Chart

/-- **Local days follow time.** For every time stamp and offset of 64 bits there is a day just if
their exact sum fits and, rounded down to days, is the number of a day of the calendar; it is that
day, and a date column holds that number for it. Later time stamps have no earlier days, and so the
bars and the dividends of a chart, which are sorted by date, keep to the order of time. -/
theorem local_days_follow_time :
    (∀ timestamp offset : Int64,
      IsLocalDay timestamp offset (localDate? timestamp.toInt offset.toInt)) ∧
    (∀ timestamp timestamp' offset : Int64, ∀ d d' : Date, timestamp ≤ timestamp' →
      localDate? timestamp.toInt offset.toInt = some d →
      localDate? timestamp'.toInt offset.toInt = some d' → ¬ d'.IsBefore d) ∧
    ∀ c : Chart,
      (∃ rows, c.bars = rows.map Prod.snd ∧
        KeepsTime c.offset (fun x => c.timeOf x.1) (fun x => x.2.date) c.rows rows
          (Frame.ofBars c.bars)) ∧
      ∃ events, c.dividends = events.map Prod.snd ∧
        KeepsTime c.offset (fun x => x.1.timestamp) (fun x => x.2.date) c.events events
          (Frame.ofDividends c.dividends) := by
  refine ⟨localDate?_isLocalDay, ?_, fun c => ⟨c.exists_keepsTime_bars,
    c.exists_keepsTime_dividends⟩⟩
  intro timestamp timestamp' offset d d' le found found'
  exact not_isBefore_of_le (localDate?_eq_some_iff.1 found) (localDate?_eq_some_iff.1 found')
    (Int64.le_iff_toInt_le.1 le)

/-! ## The end of a leap day -/

namespace LeapDay

/-- A leap day before the epoch. -/
def day : Date := ⟨1968, 2, 29, by decide⟩

/-- The day after it. -/
def next : Date := ⟨1968, 3, 1, by decide⟩

/-- One value for each of three rows. -/
def column : List (Option Float) := [some 1.0, some 1.0, some 1.0]

/-- An exchange that is an hour behind, from the last second of the leap day on. -/
def chart : Chart :=
  ⟨-3600, [-57970801, -57970800, -57970795], [⟨column, column, column, column, []⟩], []⟩

end LeapDay

/-- The last second of a leap day and the first one after it, as the exchange counts them, a sum
that does not fit, and a chart in the order of time. -/
theorem local_days_follow_time_leapDay :
    localDate? (-57970801 : Int64).toInt (-3600 : Int64).toInt = some LeapDay.day ∧
      localDate? (-57970800 : Int64).toInt (-3600 : Int64).toInt = some LeapDay.next ∧
      (-57970801 : Int64) ≤ -57970800 ∧ ¬ LeapDay.next.IsBefore LeapDay.day ∧
      (∃ n : Int32, (Frame.dateColumn [LeapDay.day]).cells = .date [some n] ∧ n.toInt = -672) ∧
      localDate? Int64.maxValue.toInt (1 : Int64).toInt = none ∧
      LeapDay.chart.rows.Pairwise
        (fun x y => LeapDay.chart.timeOf x.1 ≤ LeapDay.chart.timeOf y.1) ∧
      LeapDay.chart.bars = LeapDay.chart.rows.map Prod.snd := by
  obtain ⟨days, later, charts⟩ := local_days_follow_time
  have last : localDate? (-57970801 : Int64).toInt (-3600 : Int64).toInt = some LeapDay.day :=
    ((days (-57970801) (-3600)).on_iff LeapDay.day).2 ⟨by decide, by rw [localDays_eq]; decide⟩
  have first : localDate? (-57970800 : Int64).toInt (-3600 : Int64).toInt = some LeapDay.next :=
    ((days (-57970800) (-3600)).on_iff LeapDay.next).2 ⟨by decide, by rw [localDays_eq]; decide⟩
  have le : (-57970801 : Int64) ≤ -57970800 := by decide
  have ascending : LeapDay.chart.rows.Pairwise
      fun x y => LeapDay.chart.timeOf x.1 ≤ LeapDay.chart.timeOf y.1 := by
    decide +kernel
  have order := later (-57970801) (-57970800) (-3600) LeapDay.day LeapDay.next le last first
  refine ⟨last, first, le, order, ?_, ?_, ascending, ?_⟩
  · obtain ⟨n, held, number, -⟩ := (days (-57970801) (-3600)).cell LeapDay.day last
    exact ⟨n, held, by rw [number, localDays_eq]; decide⟩
  · have wide : checkedSum? Int64.maxValue 1 = none := by decide
    rw [(days Int64.maxValue 1).checked, wide, Option.bind_none]
  · obtain ⟨rows, bars, kept⟩ := (charts LeapDay.chart).1
    rw [bars, kept.unmoved ascending]

end MarketDesk.Yahoo
