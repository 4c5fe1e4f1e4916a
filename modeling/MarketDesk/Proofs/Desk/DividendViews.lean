import Mathlib.Data.List.Perm.Basic
import MarketDesk.Proofs.Desk.Fetching
import MarketDesk.Proofs.Frame.RoundTrip

/-!
# The two views of a dividend series

A history shows on each of its days the dividend that the series has for the day, and the list of
dividends shows the positive amounts of the series. `ViewsAgree` says how the two views of one
series are related: on every date for which the series has at most one entry, the positive amounts
on the days are those that are listed, each as often as its date is a trading date. Amounts that are
not positive stand on the days alone. Where trading dates are distinct and no such amount falls on
one of them, the days that carry something are just the payments that fall on trading dates.
-/

namespace MarketDesk

open MarketDesk.Calendar

/-! ## Positive amounts -/

theorem unpack_zero : (0.0 : Float).toModel.unpack = .zero .positive := rfl

theorem not_zero_lt_zero : ¬ (0.0 : Float) < 0.0 := by decide

/-- A positive amount is not zero. -/
theorem bne_zero_of_pos {x : Float} (pos : 0.0 < x) : (x != 0.0) = true := by
  have lt : (0.0 : Float).toModel.unpack.lt x.toModel.unpack = true := of_decide_eq_true pos
  show (!x.toModel.unpack.beq (0.0 : Float).toModel.unpack) = true
  rw [unpack_zero] at lt ⊢
  cases unpacked : x.toModel.unpack with
  | notANumber => rfl
  | infinity s => cases s <;> rfl
  | finite s m e _ => cases s <;> rfl
  | zero s =>
    rw [unpacked] at lt
    cases lt

/-! ## The views -/

/-- The series has at most one entry for the date. -/
def Sole (series : List Dividend) (date : Date) : Prop :=
  (series.filter fun d => d.date == date).length ≤ 1

instance (series : List Dividend) (date : Date) : Decidable (Sole series date) :=
  inferInstanceAs (Decidable (_ ≤ _))

/-- Date and amount of an entry. -/
def Dividend.entry (d : Dividend) : Date × Float := (d.date, d.amount)

/-- Date and dividend of a day. -/
def TradingDay.entry (day : TradingDay) : Date × Float := (day.date, day.dividend)

/-- What is listed for each of the dates. -/
def entriesOn (dates : List Date) (listed : List Dividend) : List (Date × Float) :=
  dates.flatMap fun date => (listed.filter fun d => d.date == date).map Dividend.entry

/-- The days that carry something are just the payments that are listed for a trading date. -/
def SameViews (dates : List Date) (days : List TradingDay) (listed : List Dividend) : Prop :=
  ((days.filter fun day => day.dividend != 0.0).map TradingDay.entry).Perm
    ((listed.filter fun d => dates.contains d.date).map Dividend.entry)

/-- The days of a history and the list of dividends agree, with the dates of the prices and the
series that both were made from. -/
structure ViewsAgree (dates : List Date) (series : List Dividend) (days : List TradingDay)
    (listed : List Dividend) : Prop where
  /-- What is listed for the dates is what the days carry, as far as it is positive. -/
  paid : ((days.filter fun day => decide (Sole series day.date) && decide (0.0 < day.dividend)).map
      TradingDay.entry).Perm
    (entriesOn dates (listed.filter fun d => decide (Sole series d.date)))
  /-- A payment stands on every day of its date. -/
  everyDay : ∀ d ∈ listed, Sole series d.date →
    (days.filter fun day => day.date == d.date).map TradingDay.dividend =
      List.replicate (dates.count d.date) d.amount
  /-- A day carries no positive amount that is not listed for its date. -/
  positive : ∀ day ∈ days, 0.0 < day.dividend →
    ∃ d ∈ listed, d.date = day.date ∧ d.amount = day.dividend
  /-- What else a day carries is in the series for its date, and is not listed. -/
  other : ∀ day ∈ days, day.dividend != 0.0 → ¬ 0.0 < day.dividend →
    ∃ d ∈ series, d ∉ listed ∧ d.date = day.date ∧ d.amount = day.dividend
  /-- With distinct trading dates and one entry for each, positive or zero, the views are the
  same. -/
  same : dates.Nodup → (∀ d ∈ series, d.date ∈ dates →
      Sole series d.date ∧ (0.0 < d.amount ∨ (d.amount != 0.0) = false)) →
    SameViews dates days listed

section Views

variable {series listed : List Dividend} {bars : List Bar} {date : Date} {dates : List Date}

/-- The amount on a date is that of the last entry for it. -/
theorem amountOn_eq (series : List Dividend) (date : Date) :
    Timeline.amountOn series date =
      (((series.filter fun d => d.date == date).getLast?).map Dividend.amount).getD 0.0 := by
  rw [Timeline.amountOn, List.getLast?_filter]

/-- An amount other than zero is that of an entry for the date. -/
theorem exists_of_amountOn (carried : (Timeline.amountOn series date != 0.0) = true) :
    ∃ d ∈ series, d.date = date ∧ d.amount = Timeline.amountOn series date := by
  rw [amountOn_eq] at carried ⊢
  cases last : (series.filter fun d => d.date == date).getLast? with
  | none =>
    rw [last] at carried
    exact absurd carried (by decide)
  | some d =>
    obtain ⟨mem, on⟩ := List.mem_filter.1 (List.mem_of_getLast? last)
    exact ⟨d, mem, eq_of_beq on, rfl⟩

/-- The only entry for a date gives its amount. -/
theorem amountOn_of_sole {d : Dividend} (mem : d ∈ series) (sole : Sole series d.date) :
    Timeline.amountOn series d.date = d.amount := by
  have here : d ∈ series.filter fun x => x.date == d.date :=
    List.mem_filter.2 ⟨mem, beq_self_eq_true _⟩
  have only : (series.filter fun x => x.date == d.date) = [d] := by
    obtain ⟨x, only⟩ := List.length_eq_one_iff.1
      (Nat.le_antisymm sole (List.length_pos_of_mem here))
    rw [only, List.mem_singleton] at here
    rw [only, here]
  rw [amountOn_eq, only]
  rfl

theorem mem_payouts_iff {d : Dividend} : d ∈ Desk.payouts series ↔ d ∈ series ∧ 0.0 < d.amount := by
  rw [Desk.payouts, sortDividends, List.mem_mergeSort, List.mem_filter, decide_eq_true_eq]

theorem payouts_perm (series : List Dividend) :
    (Desk.payouts series).Perm (series.filter fun d => decide (0.0 < d.amount)) :=
  List.mergeSort_perm _ _

/-- The trading dates of a timeline, ascending. -/
theorem dates_sorted_perm (bars : List Bar) :
    ((sortBars bars).map Bar.date).Perm (bars.map Bar.date) :=
  (List.mergeSort_perm bars _).map Bar.date

/-- The entries of a history, as the dates of the bars give them. -/
theorem map_entry_days (bars : List Bar) (series : List Dividend) :
    (Timeline.make bars series).days.map TradingDay.entry =
      ((sortBars bars).map Bar.date).map fun date => (date, Timeline.amountOn series date) := by
  rw [Timeline.days, List.map_map, List.map_map]
  rfl

theorem of_mem_days {day : TradingDay} (mem : day ∈ (Timeline.make bars series).days) :
    day.date ∈ bars.map Bar.date ∧ day.dividend = Timeline.amountOn series day.date := by
  obtain ⟨bar, sorted, rfl⟩ := List.mem_map.1 mem
  exact ⟨List.mem_map_of_mem (List.mem_mergeSort.1 sorted), rfl⟩

/-! ### Payments by date -/

/-- What one date carries, if it has one entry and that is positive, is what is listed for it. -/
theorem entry_perm (series : List Dividend) (date : Date) :
    (if decide (Sole series date) && decide (0.0 < Timeline.amountOn series date) then
        [(date, Timeline.amountOn series date)] else []).Perm
      ((((Desk.payouts series).filter fun d => decide (Sole series d.date)).filter
        fun d => d.date == date).map Dividend.entry) := by
  have listed : (((Desk.payouts series).filter fun d => decide (Sole series d.date)).filter
      fun d => d.date == date).Perm
      ((series.filter fun d => d.date == date).filter fun d =>
        decide (Sole series date) && decide (0.0 < d.amount)) := by
    refine (((payouts_perm series).filter _).filter _).trans (List.Perm.of_eq ?_)
    rw [List.filter_filter, List.filter_filter, List.filter_filter]
    refine List.filter_congr fun d _ => ?_
    by_cases on : d.date = date
    · subst on
      rw [beq_self_eq_true, Bool.true_and, Bool.and_true]
    · rw [beq_eq_false_iff_ne.2 on, Bool.false_and, Bool.false_and, Bool.and_false]
  refine List.Perm.trans (List.Perm.of_eq ?_) (listed.map Dividend.entry).symm
  -- Where there is one entry at most, the last one for the date is the only one.
  by_cases sole : Sole series date
  · rw [decide_eq_true sole, amountOn_eq]
    cases entries : series.filter fun d => d.date == date with
    | nil => simp [not_zero_lt_zero]
    | cons d rest =>
      obtain rfl : rest = [] := by
        rw [Sole, entries, List.length_cons] at sole
        exact List.length_eq_zero_iff.1 (by omega)
      have on : d.date = date := by
        have mem : d ∈ series.filter fun d => d.date == date := by simp [entries]
        exact eq_of_beq (List.mem_filter.1 mem).2
      by_cases pos : 0.0 < d.amount <;> simp [pos, Dividend.entry, on]
  · simp [sole]

/-- What is listed for the dates is what they carry. -/
theorem entries_perm (series : List Dividend) (dates : List Date) :
    ((dates.map fun date => (date, Timeline.amountOn series date)).filter fun x =>
        decide (Sole series x.1) && decide (0.0 < x.2)).Perm
      (entriesOn dates ((Desk.payouts series).filter fun d => decide (Sole series d.date))) := by
  induction dates with
  | nil => exact .nil
  | cons date dates ih =>
    have both := (entry_perm series date).append ih
    rw [List.map_cons, List.filter_cons]
    split
    next shown =>
      rw [if_pos shown] at both
      exact both
    next hidden =>
      rw [if_neg hidden] at both
      exact both

/-- For distinct dates, what is listed for them is what is listed with one of them. -/
theorem entriesOn_perm (nodup : dates.Nodup) (listed : List Dividend) :
    (entriesOn dates listed).Perm
      ((listed.filter fun d => dates.contains d.date).map Dividend.entry) := by
  induction dates with
  | nil => simp [entriesOn]
  | cons date dates ih =>
    obtain ⟨fresh, nodup⟩ := List.nodup_cons.1 nodup
    have parts := (List.filter_append_perm (fun d : Dividend => d.date == date)
      (listed.filter fun d => (date :: dates).contains d.date)).map Dividend.entry
    have first : ((listed.filter fun d => (date :: dates).contains d.date).filter
        fun d => d.date == date) = listed.filter fun d => d.date == date := by
      rw [List.filter_filter]
      refine List.filter_congr fun d _ => ?_
      by_cases on : d.date = date <;> simp [on]
    have others : ((listed.filter fun d => (date :: dates).contains d.date).filter
        fun d => !(d.date == date)) = listed.filter fun d => dates.contains d.date := by
      rw [List.filter_filter]
      refine List.filter_congr fun d _ => ?_
      by_cases on : d.date = date
      · simp [on, fresh]
      · simp [on]
    rw [first, others, List.map_append] at parts
    exact ((List.Perm.refl _).append (ih nodup)).trans parts

/-- The only entry for a date stands on each of its days. -/
theorem everyDay_of_sole (bars : List Bar) {d : Dividend} (mem : d ∈ series)
    (sole : Sole series d.date) :
    ((Timeline.make bars series).days.filter fun day => day.date == d.date).map
        TradingDay.dividend =
      List.replicate ((bars.map Bar.date).count d.date) d.amount := by
  have sameDate : ((Timeline.make bars series).days.map TradingDay.date) =
      (sortBars bars).map Bar.date := by
    rw [Timeline.days, List.map_map]
    rfl
  rw [List.eq_replicate_iff]
  constructor
  · rw [List.length_map, ← (dates_sorted_perm bars).count_eq, ← sameDate, List.count,
      List.countP_map, List.countP_eq_length_filter]
    rfl
  · intro amount carried
    obtain ⟨day, shown, rfl⟩ := List.mem_map.1 carried
    obtain ⟨mem', on⟩ := List.mem_filter.1 shown
    rw [(of_mem_days mem').2, eq_of_beq on, amountOn_of_sole mem sole]

/-- What the days carry, where there is one entry at most and it is positive, is what is listed. -/
theorem paid_days (bars : List Bar) (series : List Dividend) :
    (((Timeline.make bars series).days.filter fun day =>
        decide (Sole series day.date) && decide (0.0 < day.dividend)).map TradingDay.entry).Perm
      (entriesOn (bars.map Bar.date)
        ((Desk.payouts series).filter fun d => decide (Sole series d.date))) := by
  have shown : ((Timeline.make bars series).days.filter fun day =>
      decide (Sole series day.date) && decide (0.0 < day.dividend)).map TradingDay.entry =
      ((Timeline.make bars series).days.map TradingDay.entry).filter fun x =>
        decide (Sole series x.1) && decide (0.0 < x.2) := by
    rw [List.filter_map]
    rfl
  rw [shown, map_entry_days]
  exact (entries_perm series _).trans ((dates_sorted_perm bars).flatMap_right _)

/-- An amount on a day, other than zero, is that of an entry for its date. -/
theorem exists_of_mem_days {day : TradingDay} (mem : day ∈ (Timeline.make bars series).days)
    (carried : (day.dividend != 0.0) = true) :
    ∃ d ∈ series, d.date = day.date ∧ d.amount = day.dividend := by
  rw [(of_mem_days mem).2] at carried ⊢
  exact exists_of_amountOn carried

/-- With one entry for each trading date, positive or zero, a day that carries something carries a
positive amount that is the only one for its date. -/
theorem carried_iff {day : TradingDay} (mem : day ∈ (Timeline.make bars series).days)
    (proper : ∀ d ∈ series, d.date ∈ bars.map Bar.date →
      Sole series d.date ∧ (0.0 < d.amount ∨ (d.amount != 0.0) = false)) :
    (day.dividend != 0.0) = true ↔ Sole series day.date ∧ 0.0 < day.dividend := by
  constructor
  · intro carried
    obtain ⟨d, listed, on, amount⟩ := exists_of_mem_days mem carried
    obtain ⟨sole, pos | zero⟩ := proper d listed (on ▸ (of_mem_days mem).1)
    · exact ⟨on ▸ sole, amount ▸ pos⟩
    · rw [amount, carried] at zero
      cases zero
  · exact fun paid => bne_zero_of_pos paid.2

/-- With distinct trading dates and one entry for each, positive or zero, the views are the same. -/
theorem sameViews_of_proper (nodup : (bars.map Bar.date).Nodup)
    (proper : ∀ d ∈ series, d.date ∈ bars.map Bar.date →
      Sole series d.date ∧ (0.0 < d.amount ∨ (d.amount != 0.0) = false)) :
    SameViews (bars.map Bar.date) (Timeline.make bars series).days (Desk.payouts series) := by
  have days : (Timeline.make bars series).days.filter (fun day => day.dividend != 0.0) =
      (Timeline.make bars series).days.filter fun day =>
        decide (Sole series day.date) && decide (0.0 < day.dividend) := by
    refine List.filter_congr fun day mem => ?_
    rw [Bool.eq_iff_iff, Bool.and_eq_true, decide_eq_true_eq, decide_eq_true_eq]
    exact carried_iff mem proper
  have listed : ((Desk.payouts series).filter fun d => decide (Sole series d.date)).filter
        (fun d => (bars.map Bar.date).contains d.date) =
      (Desk.payouts series).filter fun d => (bars.map Bar.date).contains d.date := by
    rw [List.filter_filter]
    refine List.filter_congr fun d mem => ?_
    cases trading : (bars.map Bar.date).contains d.date with
    | false => rfl
    | true =>
      have proper := proper d (mem_payouts_iff.1 mem).1 (List.contains_iff_mem.1 trading)
      rw [Bool.true_and, decide_eq_true proper.1]
  rw [SameViews, days, ← listed]
  exact (paid_days bars series).trans (entriesOn_perm nodup _)

/-- The days of any bars and any series agree with what is listed of the series. -/
theorem views_agree (bars : List Bar) (series : List Dividend) :
    ViewsAgree (bars.map Bar.date) series (Timeline.make bars series).days
      (Desk.payouts series) where
  paid := paid_days bars series
  everyDay d listed sole := everyDay_of_sole bars (mem_payouts_iff.1 listed).1 sole
  positive day mem pos := by
    obtain ⟨d, listed, on, amount⟩ := exists_of_mem_days mem (bne_zero_of_pos pos)
    exact ⟨d, mem_payouts_iff.2 ⟨listed, amount ▸ pos⟩, on, amount⟩
  other day mem carried unpaid := by
    obtain ⟨d, entered, on, amount⟩ := exists_of_mem_days mem carried
    refine ⟨d, entered, fun listed => unpaid ?_, on, amount⟩
    rw [← amount]
    exact (mem_payouts_iff.1 listed).2
  same nodup proper := sameViews_of_proper nodup proper

end Views

/-! ## Fetching both views -/

/-- The handle answers with a price frame and a dividend frame, whatever the world. -/
structure Provider.GivesFrames {W : Type} (p : Provider W) (h : Handle) (period : Period)
    (prices payments : Frame) : Prop where
  history : ∀ w, ((p.history h period).outcome w).1 = .ok prices
  dividends : ∀ w, ((p.dividends h).outcome w).1 = .ok payments

section Fetching

variable {W : Type} {p : Provider W} {s : Symbol} {period : Period} {h : Handle}
  {prices payments : Frame} {bars : List Bar} {series : List Dividend} {d d' : Desk W}

theorem Provider.GivesFrames.fetchHistory (gives : p.GivesFrames h period prices payments)
    (acquired : ((Desk.acquire p s).outcome d).1 = .ok h) (readable : prices.bars = .ok bars)
    (readable' : payments.dividends = .ok series) :
    ((Desk.fetchHistory p s period).outcome d).1 = .ok (Timeline.make bars series) := by
  obtain ⟨d', opened⟩ : ∃ d', (Desk.acquire p s).outcome d = (.ok h, d') :=
    ⟨_, Prod.ext acquired rfl⟩
  obtain ⟨w, first⟩ : ∃ w, (p.history h period).outcome d'.world = (.ok prices, w) :=
    ⟨_, Prod.ext (gives.history _) rfl⟩
  obtain ⟨w', second⟩ : ∃ w', (p.dividends h).outcome w = (.ok payments, w') :=
    ⟨_, Prod.ext (gives.dividends _) rfl⟩
  rw [Desk.fetchHistory_of_frames opened first second, Desk.timeline, readable, readable']
  rfl

theorem Provider.GivesFrames.fetchDividends (gives : p.GivesFrames h period prices payments)
    (acquired : ((Desk.acquire p s).outcome d).1 = .ok h)
    (readable : payments.dividends = .ok series) :
    ((Desk.fetchDividends p s).outcome d).1 = .ok (Desk.payouts series) := by
  obtain ⟨d', opened⟩ : ∃ d', (Desk.acquire p s).outcome d = (.ok h, d') :=
    ⟨_, Prod.ext acquired rfl⟩
  obtain ⟨w, answered⟩ : ∃ w, (p.dividends h).outcome d'.world = (.ok payments, w) :=
    ⟨_, Prod.ext (gives.dividends _) rfl⟩
  rw [Desk.fetchDividends_of_frame opened answered, readable]
  rfl

/-- **The two views of a dividend series agree.** If a handle answers with a price frame and a
dividend frame and both can be read, then a history and a list of dividends are fetched through
it, and they agree. -/
theorem dividend_views_agree (gives : p.GivesFrames h period prices payments)
    (acquired : ((Desk.acquire p s).outcome d).1 = .ok h)
    (acquired' : ((Desk.acquire p s).outcome d').1 = .ok h) (readable : prices.bars = .ok bars)
    (readable' : payments.dividends = .ok series) :
    ∃ t listed, ((Desk.fetchHistory p s period).outcome d).1 = .ok t ∧
      ((Desk.fetchDividends p s).outcome d').1 = .ok listed ∧
      ViewsAgree (bars.map Bar.date) series t.days listed :=
  ⟨_, _, gives.fetchHistory acquired readable readable', gives.fetchDividends acquired' readable',
    views_agree bars series⟩

end Fetching

/-! ## Series that are viewed differently -/

/-- A provider whose handles answer with the bars and the series. -/
def seriesProvider (bars : List Bar) (series : List Dividend) : Provider Tally :=
  (Canned.uniform (.ofSeries bars series [])).provider

theorem seriesProvider_givesFrames (bars : List Bar) (series : List Dividend) (h : Handle)
    (period : Period) :
    (seriesProvider bars series).GivesFrames h period (Frame.ofBars bars)
      (Frame.ofDividends series) :=
  ⟨fun _ => rfl, fun _ => rfl⟩

/-- A bar of one of the first days of 1970. -/
def barOn (date : Date) : Bar := ⟨date, 1.0, 1.0, 1.0, 1.0, 0⟩

/-- New Year's Day of 1970. -/
def newYear : Date := ⟨1970, 1, 1, by decide⟩

/-- The day after it. -/
def dayAfter : Date := ⟨1970, 1, 2, by decide⟩

/-- The views are those that are fetched of the bars and the series. -/
def AreFetched (bars : List Bar) (series : List Dividend) (t : Timeline) (listed : List Dividend) :
    Prop :=
  let p := seriesProvider bars series
  ((Desk.fetchHistory p ⟨"A"⟩ .max).outcome Canned.freshDesk).1 = .ok t ∧
    ((Desk.fetchDividends p ⟨"A"⟩).outcome Canned.freshDesk).1 = .ok listed

/-- A date with two bars and one dividend, and a date with one bar and two entries. -/
theorem dividend_views_agree_repeated :
    let bars := [barOn dayAfter, barOn newYear, barOn newYear]
    let series : List Dividend := [⟨newYear, 0.5⟩, ⟨dayAfter, 0.25⟩, ⟨dayAfter, -1.0⟩]
    ∃ t listed, AreFetched bars series t listed ∧
      ViewsAgree (bars.map Bar.date) series t.days listed := by
  intro bars series
  have acquired : ((Desk.acquire (seriesProvider bars series) ⟨"A"⟩).outcome
      Canned.freshDesk).1 = .ok ⟨0, ⟨"A"⟩⟩ := rfl
  obtain ⟨t, listed, shown, listing, agree⟩ :=
    dividend_views_agree (seriesProvider_givesFrames bars series ⟨0, ⟨"A"⟩⟩ .max) acquired acquired
      (Frame.bars_ofBars bars) (Frame.dividends_ofDividends series)
  exact ⟨t, listed, ⟨shown, listing⟩, agree⟩

/-- The views that are fetched differ. -/
def ViewedDifferently (bars : List Bar) (series : List Dividend) : Prop :=
  ∃ t listed, AreFetched bars series t listed ∧ ¬ SameViews (bars.map Bar.date) t.days listed

/-- The views differ if more or fewer trading dates carry something than are listed. -/
theorem viewedDifferently_of_length {bars : List Bar} {series : List Dividend}
    (differ : ((bars.map Bar.date).filter fun date => Timeline.amountOn series date != 0.0).length ≠
      ((series.filter fun d => decide (0.0 < d.amount)).filter
        fun d => (bars.map Bar.date).contains d.date).length) :
    ViewedDifferently bars series := by
  have gives := seriesProvider_givesFrames bars series ⟨0, ⟨"A"⟩⟩ .max
  refine ⟨_, _, ⟨gives.fetchHistory rfl (Frame.bars_ofBars _) (Frame.dividends_ofDividends _),
    gives.fetchDividends rfl (Frame.dividends_ofDividends _)⟩, fun same => differ ?_⟩
  have carried : ((Timeline.make bars series).days.filter fun day => day.dividend != 0.0).length =
      (((sortBars bars).map Bar.date).filter fun date =>
        Timeline.amountOn series date != 0.0).length := by
    rw [Timeline.days, List.filter_map, List.filter_map, List.length_map, List.length_map]
    rfl
  have lengths := same.length_eq
  rw [List.length_map, List.length_map, carried] at lengths
  rw [← ((dates_sorted_perm bars).filter _).length_eq, lengths]
  exact ((payouts_perm series).filter _).length_eq

/-- The views differ if a trading date is repeated, if an amount is negative, and if a trading date
has two payments. -/
theorem dividend_views_differ :
    ViewedDifferently [barOn newYear, barOn newYear] [⟨newYear, 0.5⟩] ∧
      ViewedDifferently [barOn newYear] [⟨newYear, -0.5⟩] ∧
      ViewedDifferently [barOn newYear] [⟨newYear, 0.5⟩, ⟨newYear, 0.25⟩] :=
  ⟨viewedDifferently_of_length (by decide +kernel), viewedDifferently_of_length (by decide +kernel),
    viewedDifferently_of_length (by decide +kernel)⟩

end MarketDesk
