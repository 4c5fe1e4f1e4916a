import Mathlib.Data.List.Forall2
import MarketDesk.Proofs.Calendar.DateOrder

/-!
# A timeline day by day

What a timeline gives when it is asked for one day after the other. `Gives` is the sequence that its
steps make, and each step takes one day off it: so the days still to come, their number and the
answer to every further question are known after any number of questions. `timeline_gives_days`
says what the sequence is for any bars and dividends: one day for each bar, ascending by date, with
the amount that is listed last for the date.
-/

namespace MarketDesk

open MarketDesk.Calendar

/-! ## What a day shows -/

/-- The amount that a list of dividends has for a date: that of the last entry for it, or zero if
there is none. -/
inductive LastListed (ds : List Dividend) (date : Date) : Float → Prop where
  | listed {earlier later : List Dividend} {d : Dividend} (split : ds = earlier ++ d :: later)
      (on : d.date = date) (last : ∀ x ∈ later, x.date ≠ date) : LastListed ds date d.amount
  | unlisted (none : ∀ d ∈ ds, d.date ≠ date) : LastListed ds date 0.0

/-- The day shows the bar, and the amount as its dividend. -/
structure TradingDay.Shows (bar : Bar) (amount : Float) (day : TradingDay) : Prop where
  date : day.date = bar.date
  opening : day.opening = bar.opening
  close : day.close = bar.close
  low : day.low = bar.low
  high : day.high = bar.high
  volume : day.volume = bar.volume
  dividend : day.dividend = amount

/-- The day shows the bar, with what the dividends have for its date. -/
structure TradingDay.Joins (ds : List Dividend) (bar : Bar) (day : TradingDay) : Prop where
  date : day.date = bar.date
  opening : day.opening = bar.opening
  close : day.close = bar.close
  low : day.low = bar.low
  high : day.high = bar.high
  volume : day.volume = bar.volume
  dividend : LastListed ds bar.date day.dividend

theorem lastListed_amountOn (ds : List Dividend) (date : Date) :
    LastListed ds date (Timeline.amountOn ds date) := by
  unfold Timeline.amountOn
  cases found : ds.reverse.find? fun d => d.date == date with
  | none =>
    apply LastListed.unlisted
    intro d mem
    simpa using List.find?_eq_none.1 found d (List.mem_reverse.2 mem)
  | some d =>
    -- What stands before the entry in the reversed list stands after it in the list.
    obtain ⟨on, later, earlier, split, unlisted⟩ := List.find?_eq_some_iff_append.1 found
    have split' : ds = earlier.reverse ++ d :: later.reverse := by
      rw [← List.reverse_reverse ds, split]
      simp
    refine LastListed.listed split' (eq_of_beq on) fun x mem => ?_
    simpa using unlisted x (List.mem_reverse.1 mem)

theorem shows_ofBar (bar : Bar) (amount : Float) :
    TradingDay.Shows bar amount (.ofBar bar amount) :=
  ⟨rfl, rfl, rfl, rfl, rfl, rfl, rfl⟩

theorem joins_ofBar (ds : List Dividend) (bar : Bar) :
    TradingDay.Joins ds bar (.ofBar bar (Timeline.amountOn ds bar.date)) :=
  ⟨rfl, rfl, rfl, rfl, rfl, rfl, lastListed_amountOn ds bar.date⟩

namespace Timeline

/-! ## Steps -/

/-- The timeline gives these days one after the other, and then no more. -/
inductive Gives : Timeline → List TradingDay → Prop where
  | none {t : Timeline} (spent : t.next? = Option.none) : Gives t []
  | next {t u : Timeline} {day : TradingDay} {days : List TradingDay}
      (step : t.next? = some (day, u)) (rest : Gives u days) : Gives t (day :: days)

variable {t u : Timeline} {days : List TradingDay}

/-- A timeline gives the days that are still to come. -/
theorem gives_days (t : Timeline) : Gives t t.days := by
  obtain ⟨bars, ds⟩ := t
  induction bars with
  | nil => exact .none rfl
  | cons bar bars ih => exact .next rfl ih

/-- The next day is the first of those that are given. -/
theorem Gives.next?_eq (gives : Gives t days) : t.next?.map Prod.fst = days.head? := by
  cases gives with
  | none spent => rw [spent]; rfl
  | next step rest => rw [step]; rfl

/-- There are as many days to come as are given. -/
theorem Gives.remaining_eq (gives : Gives t days) : t.remaining = days.length := by
  induction gives with
  | @none t spent =>
    obtain ⟨bars, ds⟩ := t
    cases bars with
    | nil => rfl
    | cons bar bars => cases spent
  | @next t u day days step rest ih =>
    obtain ⟨bars, ds⟩ := t
    cases bars with
    | nil => cases step
    | cons bar bars =>
      cases step
      rw [List.length_cons, ← ih]
      rfl

/-- Each day that is taken comes off the front of those that are given. -/
theorem Gives.after (gives : Gives t days) (k : Nat) : Gives (t.after k) (days.drop k) := by
  induction k generalizing t days with
  | zero => exact gives
  | succ k ih =>
    cases gives with
    | none spent =>
      rw [Timeline.after, spent, List.drop_nil]
      exact .none spent
    | next step rest =>
      rw [Timeline.after, step, List.drop_succ_cons]
      exact ih rest

/-- A timeline that has given its last day stays as it is. -/
theorem after_of_spent (spent : t.next? = none) (k : Nat) : t.after k = t := by
  cases k with
  | zero => rfl
  | succ k => rw [after, spent]

end Timeline

/-- **A timeline gives its days one by one.** Whatever the bars and dividends, also with several of
one date on either side, there is one day for each bar, in ascending order of dates and in the order
of the bars on one date. It shows the bar, and the last amount that is listed for its date or zero.
After any number of questions the days not yet given are still to come, and no others; what remains
is their number, and when there is none, there never is one again. -/
theorem timeline_gives_days (bars : List Bar) (ds : List Dividend) :
    ∃ sorted days, SortedByDate Bar.date bars sorted ∧
      List.Forall₂ (TradingDay.Joins ds) sorted days ∧
      ∀ k, let t := (Timeline.make bars ds).after k
        t.Gives (days.drop k) ∧ t.next?.map Prod.fst = days[k]? ∧
        t.remaining = bars.length - k ∧ t.remaining = (days.drop k).length ∧
        (t.next? = none → ∀ m, (t.after m).next? = none) := by
  have sorted := sortBars_sortedByDate bars
  refine ⟨sortBars bars, (Timeline.make bars ds).days, sorted, ?_, fun k => ?_⟩
  · rw [Timeline.days, List.forall₂_map_right_iff, Timeline.make, List.forall₂_same]
    exact fun bar _ => joins_ofBar ds bar
  · have gives := (Timeline.gives_days (Timeline.make bars ds)).after k
    have length : (Timeline.make bars ds).days.length = bars.length := by
      rw [Timeline.days, List.length_map]
      exact sorted.perm.length_eq
    refine ⟨gives, ?_, ?_, gives.remaining_eq, fun spent m => ?_⟩
    · rw [gives.next?_eq, List.head?_drop]
    · rw [gives.remaining_eq, List.length_drop, length]
    · rw [Timeline.after_of_spent spent]
      exact spent

end MarketDesk
