import MarketDesk.Desk.Fetch
import MarketDesk.Proofs.Desk.Acquire
import MarketDesk.Proofs.Desk.DayByDay
import MarketDesk.Proofs.Frame.RoundTrip
import MarketDesk.Proofs.StableSort
import MarketDesk.Proofs.Yahoo.Exchange
import MarketDesk.Session

/-!
# Price histories from charts

A history that is fetched from the Yahoo services holds one day for every complete row of the
first chart, ascending by date and in the order of the rows on one date, with the dividend that
the second chart has for the day. Columns of any lengths, gaps, offsets and events that leave the
calendar change which rows are complete, and nothing else: `fetchHistory_isHistory` says that
there is always an answer once both charts are there.
-/

namespace MarketDesk.Yahoo

open MarketDesk.Calendar

/-! ## Rows of a chart -/

/-- The time stamp falls on the day at an exchange with the given offset; their sum has to fit
64 bits. -/
def FallsOn (timestamp offset : Int) (date : Date) : Prop :=
  Word.IsSigned64 (timestamp + offset) ∧ date.dayNumber = (timestamp + offset) / 86400

/-- The row of the columns is complete and gives the bar: it has a day and four prices, and no
volume counts as zero. -/
structure PriceColumns.IsRow (q : PriceColumns) (offset timestamp : Int) (row : Nat)
    (b : Bar) : Prop where
  date : FallsOn timestamp offset b.date
  opening : q.opening[row]? = some (some b.opening)
  high : q.high[row]? = some (some b.high)
  low : q.low[row]? = some (some b.low)
  close : q.close[row]? = some (some b.close)
  volume : b.volume = q.volume[row]?.join.getD 0

namespace Chart

/-- The row of the first columns of the chart is complete and gives the bar. -/
def IsRow (c : Chart) (row : Nat) (b : Bar) : Prop :=
  ∃ q timestamp, c.quotes.head? = some q ∧ c.timestamps[row]? = some timestamp ∧
    q.IsRow c.offset timestamp row b

/-- The chart has the dividend for the day: the amount of an event on that day, or zero if there is
none. Events of one day that have one amount leave no choice. -/
def PaidOn (c : Chart) (date : Date) (amount : Float) : Prop :=
  (∃ p ∈ c.payments, FallsOn p.timestamp c.offset date ∧ amount = p.amount) ∨
    ((∀ p ∈ c.payments, ¬ FallsOn p.timestamp c.offset date) ∧ amount = 0.0)

end Chart

/-- The days are the complete rows of a chart of prices, ascending by date and in the order of the
rows on one date, with the dividends of a chart of payments. -/
def IsHistory (prices payments : Chart) (days : List TradingDay) : Prop :=
  ∃ (rows : List (Nat × Bar)) (amount : Date → Float),
    (∀ row b, (row, b) ∈ rows ↔ prices.IsRow row b) ∧
    rows.Pairwise (fun x y => x.2.date.dayNumber < y.2.date.dayNumber ∨
      (x.2.date = y.2.date ∧ x.1 < y.1)) ∧
    (∀ date, payments.PaidOn date (amount date)) ∧
    List.Forall₂ (fun x day => TradingDay.Shows x.2 (amount x.2.date) day) rows days

/-- A time stamp gives the day on which it falls. -/
theorem localDate?_eq_some_iff {timestamp offset : Int} {date : Date} :
    localDate? timestamp offset = some date ↔ FallsOn timestamp offset date := by
  unfold localDate? FallsOn
  dsimp only
  split
  next fits =>
    rw [Date.ofEpochSeconds?, Date.ofDayNumber?_eq_some_iff]
    exact ⟨fun day => ⟨fits, day⟩, fun day => day.2⟩
  next wide =>
    constructor
    · intro h
      cases h
    · exact fun day => absurd day.1 wide

theorem valueAt?_eq_some_iff {α : Type} {column : List (Option α)} {row : Nat} {a : α} :
    valueAt? column row = some a ↔ column[row]? = some (some a) := by
  rw [valueAt?, Option.join_eq_some_iff]

namespace Chart

variable {c : Chart} {q : PriceColumns} {offset timestamp : Int} {row : Nat} {b : Bar} {date : Date}

/-- A row has a bar just if it is complete. -/
theorem barAt?_eq_some_iff :
    barAt? offset q timestamp row = some b ↔ q.IsRow offset timestamp row b := by
  unfold barAt?
  simp only [Option.bind_eq_bind, Option.pure_def, Option.bind_eq_some_iff, Option.some.injEq,
    localDate?_eq_some_iff, valueAt?_eq_some_iff]
  constructor
  · rintro ⟨date, onDate, opening, atOpening, high, atHigh, low, atLow, close, atClose, rfl⟩
    exact ⟨onDate, atOpening, atHigh, atLow, atClose, rfl⟩
  · rintro ⟨onDate, atOpening, atHigh, atLow, atClose, volume⟩
    refine ⟨_, onDate, _, atOpening, _, atHigh, _, atLow, _, atClose, ?_⟩
    obtain ⟨date, opening, high, low, close, v⟩ := b
    dsimp only at volume
    subst volume
    rfl

/-- The complete rows of the first columns, with their numbers. -/
def rows (c : Chart) : List (Nat × Bar) :=
  match c.quotes with
  | [] => []
  | q :: _ => c.timestamps.zipIdx.filterMap fun (timestamp, row) =>
      (barAt? c.offset q timestamp row).map fun b => (row, b)

theorem completeRows_eq (c : Chart) : c.completeRows = c.rows.map Prod.snd := by
  unfold completeRows rows
  cases c.quotes with
  | nil => rfl
  | cons q quotes =>
    dsimp only
    rw [List.map_filterMap]
    refine congrArg (fun f => List.filterMap f c.timestamps.zipIdx) (funext fun x => ?_)
    cases barAt? c.offset q x.1 x.2 <;> rfl

theorem mem_rows_iff : (row, b) ∈ c.rows ↔ c.IsRow row b := by
  unfold rows IsRow
  cases c.quotes with
  | nil => simp
  | cons q quotes =>
    simp only [List.mem_filterMap, Option.map_eq_some_iff, Prod.mk.injEq, List.head?_cons,
      Option.some.injEq, Prod.exists, List.mem_zipIdx_iff_getElem?]
    constructor
    · rintro ⟨timestamp, i, here, b', bar, rfl, rfl⟩
      exact ⟨q, timestamp, rfl, here, barAt?_eq_some_iff.1 bar⟩
    · rintro ⟨q', timestamp, rfl, here, complete⟩
      exact ⟨timestamp, row, here, b, barAt?_eq_some_iff.2 complete, rfl, rfl⟩

/-- The rows stand in the order of their numbers. -/
theorem rows_pairwise (c : Chart) : c.rows.Pairwise fun x y => x.1 < y.1 := by
  unfold rows
  cases c.quotes with
  | nil => exact .nil
  | cons q quotes =>
    have numbered : c.timestamps.zipIdx.Pairwise fun x y => x.2 < y.2 := by
      rw [← List.pairwise_map (f := Prod.snd) (R := (· < ·)), List.zipIdx_map_snd]
      exact List.pairwise_lt_range'
    refine numbered.filterMap _ fun x y before b hb b' hb' => ?_
    obtain ⟨bar, -, rfl⟩ := Option.map_eq_some_iff.1 hb
    obtain ⟨bar', -, rfl⟩ := Option.map_eq_some_iff.1 hb'
    exact before

/-! ## Sorting -/

/-- Bars in the order of their dates. -/
def barNotAfter (a b : Bar) : Bool := a.date.notAfter b.date

theorem barNotAfter_iff {a b : Bar} :
    barNotAfter a b = true ↔ a.date.dayNumber ≤ b.date.dayNumber :=
  Date.notAfter_iff

theorem barNotAfter_trans (a b c : Bar) (hab : barNotAfter a b = true)
    (hbc : barNotAfter b c = true) : barNotAfter a c = true :=
  Date.notAfter_trans _ _ _ hab hbc

theorem barNotAfter_total (a b : Bar) : (barNotAfter a b || barNotAfter b a) = true :=
  Date.notAfter_total _ _

/-- Rows in the order of the dates of their bars. -/
def rowNotAfter (x y : Nat × Bar) : Bool := barNotAfter x.2 y.2

/-- Bars that are sorted stay as they are. -/
theorem sortBars_sortBars (bars : List Bar) : sortBars (sortBars bars) = sortBars bars := by
  have sorted := List.pairwise_mergeSort barNotAfter_trans barNotAfter_total bars
  show (bars.mergeSort barNotAfter).mergeSort barNotAfter = bars.mergeSort barNotAfter
  rw [List.mergeSort_of_pairwise sorted]

/-- Sorting the bars of a chart sorts its rows. -/
theorem bars_eq (c : Chart) : c.bars = (c.rows.mergeSort rowNotAfter).map Prod.snd := by
  rw [bars, completeRows_eq, sortBars]
  exact (List.map_mergeSort (r := rowNotAfter) (f := Prod.snd) fun _ _ _ _ => rfl).symm

/-- Sorted rows ascend by date, and by number on one date. -/
theorem sorted_rows_pairwise (c : Chart) :
    (c.rows.mergeSort rowNotAfter).Pairwise fun x y =>
      x.2.date.dayNumber < y.2.date.dayNumber ∨ (x.2.date = y.2.date ∧ x.1 < y.1) := by
  have stable := pairwise_mergeSort_of_pairwise rowNotAfter
    (fun a b c => barNotAfter_trans a.2 b.2 c.2) (fun a b => barNotAfter_total a.2 b.2)
    (fun a => Nat.lt_irrefl a.1) c.rows_pairwise
  refine stable.imp fun ⟨ascending, tied⟩ => ?_
  have le := barNotAfter_iff.1 ascending
  rcases Int.lt_or_eq_of_le le with lt | eq
  · exact Or.inl lt
  · exact Or.inr ⟨Date.dayNumber_inj.1 eq, tied (barNotAfter_iff.2 (Int.le_of_eq eq.symm))⟩

/-! ## Dividends -/

theorem mem_dividends_iff {d : Dividend} :
    d ∈ c.dividends ↔
      ∃ p ∈ c.payments, FallsOn p.timestamp c.offset d.date ∧ d.amount = p.amount := by
  rw [dividends, sortDividends, List.mem_mergeSort, List.mem_filterMap]
  constructor
  · rintro ⟨p, mem, made⟩
    obtain ⟨date, day, rfl⟩ := Option.map_eq_some_iff.1 made
    exact ⟨p, mem, localDate?_eq_some_iff.1 day, rfl⟩
  · rintro ⟨p, mem, day, amount⟩
    refine ⟨p, mem, Option.map_eq_some_iff.2 ⟨d.date, localDate?_eq_some_iff.2 day, ?_⟩⟩
    rw [← amount]

/-- The dividend that a timeline joins is one that the chart has for the day. -/
theorem paidOn_amountOn (c : Chart) (date : Date) :
    c.PaidOn date (Timeline.amountOn c.dividends date) := by
  rw [Timeline.amountOn]
  cases found : c.dividends.reverse.find? fun d => d.date == date with
  | some d =>
    have mem := List.mem_reverse.1 (List.mem_of_find?_eq_some found)
    have day : d.date = date := by simpa using List.find?_some found
    obtain ⟨p, paid, falls, amount⟩ := mem_dividends_iff.1 mem
    exact Or.inl ⟨p, paid, day ▸ falls, amount⟩
  | none =>
    refine Or.inr ⟨fun p paid falls => ?_, rfl⟩
    have mem : ⟨date, p.amount⟩ ∈ c.dividends.reverse :=
      List.mem_reverse.2 (mem_dividends_iff.2 ⟨p, paid, falls, rfl⟩)
    simpa using List.find?_eq_none.1 found _ mem

end Chart

/-- Bars and dividends of two charts join to a history. -/
theorem isHistory_days (prices payments : Chart) :
    IsHistory prices payments (Timeline.make prices.bars payments.dividends).days := by
  refine ⟨prices.rows.mergeSort Chart.rowNotAfter, Timeline.amountOn payments.dividends, ?_,
    prices.sorted_rows_pairwise, payments.paidOn_amountOn, ?_⟩
  · intro row b
    rw [List.mem_mergeSort, Chart.mem_rows_iff]
  · rw [Timeline.days, Timeline.make, Chart.bars, Chart.sortBars_sortBars, ← Chart.bars,
      Chart.bars_eq, List.map_map, List.forall₂_map_right_iff, List.forall₂_same]
    exact fun x _ => shows_ofBar x.2 _

/-- A chart without time stamps or columns has an empty history. -/
theorem IsHistory.eq_nil {prices payments : Chart} {days : List TradingDay}
    (h : IsHistory prices payments days)
    (none : prices.timestamps = [] ∨ prices.quotes = []) : days = [] := by
  obtain ⟨rows, amount, complete, -, -, shown⟩ := h
  suffices empty : rows = [] by rwa [empty, List.forall₂_nil_left_iff] at shown
  rw [List.eq_nil_iff_forall_not_mem]
  rintro ⟨row, b⟩ mem
  obtain ⟨q, timestamp, first, here, -⟩ := (complete row b).1 mem
  rcases none with none | none
  · rw [none] at here
    cases here
  · rw [none] at first
    cases first

/-! ## Fetching -/

section Fetching

variable {e : Endpoints} {h : Handle} {s : Symbol} {period : Period} {d d' : Desk World}
  {w w' : World} {prices payments : Chart}

theorem history_of_chart (first : (fetchChart e h period.text "1d").outcome w = (.ok prices, w')) :
    (history e h period).outcome w = (.ok (Frame.ofBars prices.bars), w') := by
  rw [history, Query.outcome_bind_ok first, Query.outcome_pure]

/-- A handle that has kept no dividends asks for them. -/
theorem dividends_of_chart (unkept : (w.memory h.serial).dividends = none)
    (second : (fetchChart e h Period.max.text "1mo").outcome w = (.ok payments, w')) :
    ∃ w'', (dividends e h).outcome w = (.ok (Frame.ofDividends payments.dividends), w'') := by
  have kept : (memo h).outcome w = (.ok (w.memory h.serial), w) := rfl
  rw [dividends, Query.outcome_bind_ok kept, unkept]
  dsimp only
  rw [Query.outcome_bind_ok second]
  exact ⟨_, rfl⟩

/-- **Price histories.** When both charts are there, fetching a history through a handle that has
kept no dividends gives the history of the charts, an empty one if the chart of prices has no time
stamps or no columns. -/
theorem fetchHistory_isHistory
    (acquired : (Desk.acquire (provider e) s).outcome d = (.ok h, d'))
    (unkept : (d'.world.memory h.serial).dividends = none)
    (first : (fetchChart e h period.text "1d").outcome d'.world = (.ok prices, w))
    (second : (fetchChart e h Period.max.text "1mo").outcome w = (.ok payments, w')) :
    ∃ t d'', (Desk.fetchHistory (provider e) s period).outcome d = (.ok t, d'') ∧
      IsHistory prices payments t.days ∧
      (prices.timestamps = [] ∨ prices.quotes = [] → t.days = []) := by
  have memory : w.memory = d'.world.memory := by
    have same := fetchChart_memory e h period.text "1d" d'.world
    rw [first] at same
    exact same
  rw [← memory] at unkept
  obtain ⟨w'', paid⟩ : ∃ w'', ((provider e).dividends h).outcome w =
      (.ok (Frame.ofDividends payments.dividends), w'') :=
    dividends_of_chart unkept second
  have priced : ((provider e).history h period).outcome d'.world =
      (.ok (Frame.ofBars prices.bars), w) :=
    history_of_chart first
  have asked : (Desk.onWorld ((provider e).history h period)).outcome d' =
      (.ok (Frame.ofBars prices.bars), { d' with world := w }) := by
    rw [Desk.outcome_onWorld, priced]
  have joined : (Desk.onWorld ((provider e).dividends h)).outcome { d' with world := w } =
      (.ok (Frame.ofDividends payments.dividends), { d' with world := w'' }) := by
    rw [Desk.outcome_onWorld, paid]
  have days := isHistory_days prices payments
  refine ⟨Timeline.make prices.bars payments.dividends, { d' with world := w'' }, ?_, days,
    days.eq_nil⟩
  rw [Desk.fetchHistory, Query.outcome_bind_ok acquired, Query.outcome_bind_ok asked,
    Query.outcome_bind_ok joined, Frame.bars_ofBars, Frame.dividends_ofDividends]
  rfl

end Fetching

/-! ## A history of two rows -/

namespace TwoRows

/-- A chart with three time stamps for two rows, the later day first. -/
def prices : String :=
  "\x7b\"chart\":\x7b\"result\":[\x7b\"meta\":\x7b\"gmtoffset\":-18000\x7d," ++
  "\"timestamp\":[86400,0,5],\"indicators\":\x7b\"quote\":[\x7b\"open\":[1,2],\"high\":[1,2]," ++
  "\"low\":[1,2],\"close\":[1,2],\"volume\":[7]\x7d]\x7d\x7d]\x7d\x7d"

/-- A chart with a dividend in the last second of 1970-01-01. -/
def payments : String :=
  "\x7b\"chart\":\x7b\"result\":[\x7b\"indicators\":\x7b\x7d,\"events\":\x7b\"dividends\":" ++
  "\x7b\"0\":\x7b\"amount\":3,\"date\":86399\x7d\x7d\x7d\x7d]\x7d\x7d"

def network : Network where
  up := true
  deliveries := [.reply ⟨200, [], .complete prices.toUTF8.toList⟩,
    .reply ⟨200, [], .complete payments.toUTF8.toList⟩]
  sent := []

def endpoints : Endpoints := .under "http://[::1]"

def handle : Handle := ⟨0, ⟨"A"⟩⟩

/-- The outcome of acquiring the handle. -/
def acquired : Except Fault Handle × Desk World :=
  (Desk.acquire (provider endpoints) ⟨"A"⟩).outcome
    (Session.fresh ⟨.epoch, true⟩ (.ofParts 300 0) (World.start network))

/-- The outcome of asking for prices after that. -/
def priced : Except Fault Chart × World :=
  (fetchChart endpoints handle Period.max.text "1d").outcome acquired.2.world

/-- The outcome of asking for dividends after that. -/
def paid : Except Fault Chart × World :=
  (fetchChart endpoints handle Period.max.text "1mo").outcome priced.2

end TwoRows

/-- A result whose chart has the given time stamps is a chart with these. -/
theorem exists_chart {r : Except Fault Chart × World} {timestamps : List Int}
    (h : r.1.toOption.map Chart.timestamps = some timestamps) :
    ∃ c, r = (.ok c, r.2) ∧ c.timestamps = timestamps := by
  obtain ⟨r, w⟩ := r
  cases r with
  | error f => cases h
  | ok c => exact ⟨c, rfl, Option.some.inj h⟩

open TwoRows in
/-- Two replies that give charts, from the opening of the handle on. -/
theorem fetchHistory_isHistory_twoRows :
    ∃ p q, acquired = (.ok handle, acquired.2) ∧
      (acquired.2.world.memory 0).dividends = none ∧
      priced = (.ok p, priced.2) ∧ p.timestamps = [86400, 0, 5] ∧
      paid = (.ok q, paid.2) ∧ q.timestamps = [] ∧
      ∃ t d, (Desk.fetchHistory (provider endpoints) ⟨"A"⟩ .max).outcome
          (Session.fresh ⟨.epoch, true⟩ (.ofParts 300 0) (World.start network)) = (.ok t, d) ∧
        IsHistory p q t.days ∧ (p.timestamps = [] ∨ p.quotes = [] → t.days = []) := by
  have opened : acquired = (.ok handle, acquired.2) := rfl
  have unkept : (acquired.2.world.memory 0).dividends = none := rfl
  obtain ⟨p, first, rows⟩ : ∃ p, priced = (.ok p, priced.2) ∧ p.timestamps = [86400, 0, 5] :=
    exists_chart (by decide +kernel)
  obtain ⟨q, second, none⟩ : ∃ q, paid = (.ok q, paid.2) ∧ q.timestamps = [] :=
    exists_chart (by decide +kernel)
  exact ⟨p, q, opened, unkept, first, rows, second, none,
    fetchHistory_isHistory opened unkept first second⟩

end MarketDesk.Yahoo
