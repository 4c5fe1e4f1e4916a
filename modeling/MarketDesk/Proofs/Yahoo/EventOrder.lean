import MarketDesk.Proofs.Calendar.DateOrder
import MarketDesk.Proofs.Desk.DividendViews
import MarketDesk.Proofs.StableSort
import MarketDesk.Proofs.Yahoo.PriceHistory

/-!
# The order of dividend events

The dividend events of a chart are an object, whose members have no order of their own: whichever
way they come, they are to give one series. Sorting by date sees to that unless events of different
amounts fall on one day. Those stay in the order in which they came, and the last of them is the
one that a history shows. `dividends_order_free_iff` says that there is no other way for the order
to matter, neither to the series nor to a history.
-/

namespace MarketDesk.Yahoo

open MarketDesk.Calendar

/-! ## Dividends of one date -/

/-- Series with the same dividends sort alike if they have one amount for each date. -/
theorem sortDividends_eq_of_perm {ds ds' : List Dividend} (perm : ds'.Perm ds)
    (single : ∀ a ∈ ds, ∀ b ∈ ds, a.date = b.date → a.amount = b.amount) :
    sortDividends ds' = sortDividends ds := by
  refine mergeSort_eq_of_perm (fun a b : Dividend => a.date.notAfter b.date)
    (fun a b c => Date.notAfter_trans a.date b.date c.date)
    (fun a b => Date.notAfter_total a.date b.date) perm ?_
  intro a ha b hb hab hba
  have sameDate := Date.eq_of_notAfter hab hba
  have sameAmount := single a ha b hb sameDate
  cases a
  cases b
  cases sameDate
  cases sameAmount
  rfl

/-- The history of one bar is its day. -/
theorem days_singleton (bar : Bar) (ds : List Dividend) :
    (Timeline.make [bar] ds).days = [TradingDay.ofBar bar (Timeline.amountOn ds bar.date)] := by
  rw [Timeline.make, sortBars, List.mergeSort_singleton]
  rfl

namespace Chart

variable {c : Chart} {p q : Payment} {ps rest : List Payment} {date : Date}

/-! ## Events in another order -/

/-- The chart with other events. -/
def withPayments (c : Chart) (ps : List Payment) : Chart := { c with payments := ps }

/-- Events that fall on one day have one amount. -/
def OneAmountPerDay (c : Chart) : Prop :=
  ∀ p ∈ c.payments, ∀ q ∈ c.payments, ∀ date, FallsOn p.timestamp c.offset date →
    FallsOn q.timestamp c.offset date → p.amount = q.amount

/-- With one amount per day the order of events does not matter to the series. -/
theorem dividends_withPayments (single : c.OneAmountPerDay) (perm : ps.Perm c.payments) :
    (c.withPayments ps).dividends = c.dividends := by
  refine sortDividends_eq_of_perm (perm.filterMap _) ?_
  intro a ha b hb sameDate
  obtain ⟨p, paid, onDate, amount⟩ := mem_dividends_iff.1 (List.mem_mergeSort.2 ha)
  obtain ⟨q, paid', onDate', amount'⟩ := mem_dividends_iff.1 (List.mem_mergeSort.2 hb)
  rw [amount, amount']
  exact single p paid q paid' a.date onDate (sameDate ▸ onDate')

/-- An event that comes last on its day is the one whose amount the day has. -/
theorem amountOn_withPayments_concat (c : Chart) (rest : List Payment)
    (falls : FallsOn p.timestamp c.offset date) :
    Timeline.amountOn (c.withPayments (rest ++ [p])).dividends date = p.amount := by
  have made : dividendOf? c.offset p = some ⟨date, p.amount⟩ :=
    Option.map_eq_some_iff.2 ⟨date, localDate?_eq_some_iff.2 falls, rfl⟩
  have kept : ([⟨date, p.amount⟩] : List Dividend).filter (fun d => d.date == date) =
      [⟨date, p.amount⟩] := List.filter_cons_of_pos (beq_self_eq_true date)
  have last : ((c.withPayments (rest ++ [p])).dividends.filter fun d => d.date == date) =
      ((rest.filterMap (dividendOf? c.offset)).filter fun d => d.date == date) ++
        [⟨date, p.amount⟩] := by
    show (sortDividends ((rest ++ [p]).filterMap (dividendOf? c.offset))).filter _ = _
    rw [(sortDividends_sortedByDate _).stable, List.filterMap_append, List.filter_append,
      List.filterMap_cons_some made, List.filterMap_nil, kept]
  rw [amountOn_eq, last, List.getLast?_concat]
  rfl

/-- Any event can come last. -/
theorem exists_concat_perm (paid : p ∈ c.payments) : ∃ rest, (rest ++ [p]).Perm c.payments := by
  obtain ⟨before, after, split⟩ := List.append_of_mem paid
  refine ⟨before ++ after, ?_⟩
  rw [split, List.append_assoc]
  exact List.Perm.append_left before (List.perm_append_comm)

/-- If the order does not matter to the days of any history, then events that fall on one day have
one amount. -/
theorem oneAmountPerDay_of_days
    (free : ∀ ps, ps.Perm c.payments → ∀ bars,
      (Timeline.make bars (c.withPayments ps).dividends).days =
        (Timeline.make bars c.dividends).days) : c.OneAmountPerDay := by
  -- A bar on the day shows the event that comes last, and any event can be made to.
  have shown : ∀ p ∈ c.payments, ∀ date, FallsOn p.timestamp c.offset date →
      p.amount = Timeline.amountOn c.dividends date := by
    intro p paid date falls
    obtain ⟨rest, perm⟩ := exists_concat_perm paid
    have days := free _ perm [⟨date, 0.0, 0.0, 0.0, 0.0, 0⟩]
    rw [days_singleton, days_singleton] at days
    rw [← amountOn_withPayments_concat c rest falls]
    exact congrArg TradingDay.dividend (List.cons.inj days).1
  intro p paid q paid' date falls falls'
  rw [shown p paid date falls, shown q paid' date falls']

end Chart

/-- **The order of dividend events.** The order of a chart's events does not matter to its dividend
series just if events that fall on one day have one amount, and to the days of histories under the
same condition. Under that condition it does not matter to the list of dividends either. -/
theorem dividends_order_free_iff (c : Chart) :
    ((∀ ps : List Payment, ps.Perm c.payments → (c.withPayments ps).dividends = c.dividends) ↔
      c.OneAmountPerDay) ∧
    ((∀ ps : List Payment, ps.Perm c.payments → ∀ bars : List Bar,
        (Timeline.make bars (c.withPayments ps).dividends).days =
          (Timeline.make bars c.dividends).days) ↔ c.OneAmountPerDay) ∧
    (c.OneAmountPerDay → ∀ ps : List Payment, ps.Perm c.payments →
      Desk.payouts (c.withPayments ps).dividends = Desk.payouts c.dividends) := by
  refine ⟨⟨fun free => ?_, fun single ps perm => Chart.dividends_withPayments single perm⟩,
    ⟨Chart.oneAmountPerDay_of_days, fun single ps perm bars => ?_⟩, fun single ps perm => ?_⟩
  · refine Chart.oneAmountPerDay_of_days fun ps perm bars => ?_
    rw [free ps perm]
  · rw [Chart.dividends_withPayments single perm]
  · rw [Chart.dividends_withPayments single perm]

/-- The chart of two dividends on one day. -/
def twoOnOneDay : Chart := ⟨0, [], [], [⟨1.0, 0⟩, ⟨2.0, 1⟩]⟩

/-- The same with its events the other way round. -/
def twoReversed : Chart := twoOnOneDay.withPayments [⟨2.0, 1⟩, ⟨1.0, 0⟩]

theorem amountOn_twoOnOneDay : Timeline.amountOn twoOnOneDay.dividends newYear = 2.0 :=
  Chart.amountOn_withPayments_concat twoOnOneDay [⟨1.0, 0⟩] ⟨by decide, by decide⟩

theorem amountOn_twoReversed : Timeline.amountOn twoReversed.dividends newYear = 1.0 :=
  Chart.amountOn_withPayments_concat twoOnOneDay [⟨2.0, 1⟩] ⟨by decide, by decide⟩

/-- The order of two dividends of different amounts on one day matters to the series and to a
history. -/
theorem order_of_two_dividends_matters :
    twoReversed.payments.Perm twoOnOneDay.payments ∧
      twoReversed.dividends ≠ twoOnOneDay.dividends ∧
      (Timeline.make [barOn newYear] twoReversed.dividends).days ≠
        (Timeline.make [barOn newYear] twoOnOneDay.dividends).days := by
  have differ : (1.0 : Float) ≠ 2.0 := by decide
  rw [← amountOn_twoReversed, ← amountOn_twoOnOneDay] at differ
  refine ⟨List.Perm.swap _ _ _, fun same => differ (by rw [same]), fun same => differ ?_⟩
  rw [days_singleton, days_singleton] at same
  exact congrArg TradingDay.dividend (List.cons.inj same).1

end MarketDesk.Yahoo
