import MarketDesk.Proofs.Calendar.DateOrder
import MarketDesk.Proofs.Desk.DividendViews
import MarketDesk.Proofs.Yahoo.PriceHistory

/-!
# Lists of dividends

The list of dividends that is fetched holds the positive amounts of a series, each as often as the
series has it, ascending by date and in the order of the series on one date. `IsListing` says so of
any series, sorted or not. A chart gives a series of its own making, sorted already, so that its
list is what `IsPaidOut` says: the payments with a positive amount and a day in the calendar. A list
is the list of itself, whoever serves it.
-/

namespace MarketDesk

open MarketDesk.Calendar Float.Model

theorem float_lt_iff (x y : Float) : x < y ↔ x.toModel.unpack.lt y.toModel.unpack = true :=
  ⟨of_decide_eq_true, decide_eq_true⟩

/-- An amount that is not positive is no number, a zero of either sign, or negative. -/
theorem not_pos_iff (x : Float) :
    ¬ 0.0 < x ↔ x.isNaN = true ∨ (x == 0.0) = true ∨ x < 0.0 := by
  rw [float_lt_iff, float_lt_iff]
  show _ ↔ x.toModel.unpack.isNaN = true ∨
    x.toModel.unpack.beq (0.0 : Float).toModel.unpack = true ∨ _
  rw [unpack_zero]
  cases x.toModel.unpack with
  | notANumber => decide
  | infinity s => cases s <;> decide
  | finite s m e _ =>
    cases s with
    | positive =>
      show ¬ true = true ↔ false = true ∨ false = true ∨ false = true
      decide
    | negative =>
      show ¬ false = true ↔ false = true ∨ false = true ∨ true = true
      decide
  | zero s => cases s <;> decide

/-! ## Listing a series -/

/-- The list holds the positive amounts of the series, ascending by date. -/
structure IsListing (series listed : List Dividend) : Prop where
  sorted : SortedByDate Dividend.date (series.filter fun d => decide (0.0 < d.amount)) listed
  /-- What is left out is no number, a zero of either sign, or negative. -/
  dropped : ∀ d ∈ series, d ∉ listed ↔
    d.amount.isNaN = true ∨ (d.amount == 0.0) = true ∨ d.amount < 0.0

section Listing

variable {series listed : List Dividend}

theorem payouts_isListing (series : List Dividend) : IsListing series (Desk.payouts series) where
  sorted := sortDividends_sortedByDate _
  dropped d mem := by
    rw [mem_payouts_iff, ← not_pos_iff]
    simp [mem]

/-- There is one list of a series. -/
theorem IsListing.unique {other : List Dividend} (h : IsListing series listed)
    (h' : IsListing series other) : listed = other :=
  h.sorted.unique h'.sorted

/-- A list is the list of itself. -/
theorem IsListing.self (h : IsListing series listed) : IsListing listed listed := by
  have positive : ∀ d ∈ listed, 0.0 < d.amount := by
    intro d mem
    simpa using (List.mem_filter.1 (h.sorted.perm.mem_iff.1 mem)).2
  constructor
  · rw [List.filter_eq_self.2 fun d mem => decide_eq_true (positive d mem)]
    exact sortedByDate_self h.sorted.ascending
  · intro d mem
    rw [← not_pos_iff]
    simp [mem, positive d mem]

end Listing

/-! ## Fetching -/

section Fetching

variable {W : Type} {p : Provider W} {s : Symbol} {d : Desk W} {series listed : List Dividend}

/-- The handle that is acquired for the symbol answers with a frame that reads as the series. -/
def Serves (p : Provider W) (s : Symbol) (d : Desk W) (series : List Dividend) : Prop :=
  ∃ h d' frame w, (Desk.acquire p s).outcome d = (.ok h, d') ∧
    (p.dividends h).outcome d'.world = (.ok frame, w) ∧ frame.dividends = .ok series

/-- The list is what is fetched for the symbol. -/
def Lists (p : Provider W) (s : Symbol) (d : Desk W) (listed : List Dividend) : Prop :=
  ((Desk.fetchDividends p s).outcome d).1 = .ok listed

theorem Serves.lists (serves : Serves p s d series) : Lists p s d (Desk.payouts series) := by
  obtain ⟨h, d', frame, w, acquired, answered, read⟩ := serves
  rw [Lists, Desk.fetchDividends_of_frame acquired answered, read]
  rfl

/-- A list that is fetched is the list of a series that was served. -/
theorem Lists.exists_serves (lists : Lists p s d listed) :
    ∃ series, Serves p s d series ∧ listed = Desk.payouts series := by
  unfold Lists at lists
  cases acquired : (Desk.acquire p s).outcome d with
  | mk o d' =>
    cases o with
    | error f =>
      rw [Desk.fetchDividends, Query.outcome_bind_error acquired] at lists
      cases lists
    | ok h =>
      cases answered : (p.dividends h).outcome d'.world with
      | mk o w =>
        cases o with
        | error f =>
          rw [Desk.fetchDividends_of_error acquired answered] at lists
          cases lists
        | ok frame =>
          rw [Desk.fetchDividends_of_frame acquired answered] at lists
          cases read : frame.dividends with
          | error f =>
            rw [read] at lists
            cases lists
          | ok series =>
            rw [read] at lists
            cases lists
            exact ⟨series, ⟨h, d', frame, w, acquired, answered, read⟩, rfl⟩

/-- Whoever serves a list that was fetched is listed as it is. -/
theorem Lists.again {W' : Type} {p' : Provider W'} {s' : Symbol} {d' : Desk W'}
    (lists : Lists p s d listed) (serves : Serves p' s' d' listed) : Lists p' s' d' listed := by
  obtain ⟨series, -, rfl⟩ := lists.exists_serves
  have same : Desk.payouts (Desk.payouts series) = Desk.payouts series :=
    (payouts_isListing _).unique (payouts_isListing series).self
  have again := serves.lists
  rw [same] at again
  exact again

end Fetching

/-! ## Payments of a chart -/

namespace Yahoo

/-- The second list is made from those elements of the first that are related to something. -/
inductive Selects {α β : Type} (R : α → β → Prop) : List α → List β → Prop where
  | nil : Selects R [] []
  | keep {a : α} {b : β} {as : List α} {bs : List β} : R a b → Selects R as bs →
      Selects R (a :: as) (b :: bs)
  | drop {a : α} {as : List α} {bs : List β} : (∀ b, ¬ R a b) → Selects R as bs →
      Selects R (a :: as) bs

theorem selects_filterMap {α β : Type} {R : α → β → Prop} {f : α → Option β}
    (related : ∀ a b, f a = some b ↔ R a b) (as : List α) : Selects R as (as.filterMap f) := by
  induction as with
  | nil => exact .nil
  | cons a as ih =>
    cases made : f a with
    | none =>
      rw [List.filterMap_cons_none made]
      refine .drop (fun b hb => ?_) ih
      rw [← related, made] at hb
      cases hb
    | some b =>
      rw [List.filterMap_cons_some made]
      exact .keep ((related a b).1 made) ih

/-- The payment is positive, and makes the dividend of its day at the exchange. -/
structure Payment.Pays (offset : Int) (p : Payment) (d : Dividend) : Prop where
  day : FallsOn p.timestamp offset d.date
  amount : d.amount = p.amount
  positive : 0.0 < p.amount

/-- The list holds the positive payments of a chart that have a day in the calendar, ascending by
date. -/
def IsPaidOut (c : Chart) (listed : List Dividend) : Prop :=
  ∃ paid, Selects (Payment.Pays c.offset) c.payments paid ∧
    SortedByDate Dividend.date paid listed

/-- The handle has a chart for its dividends: it keeps those of the chart, or keeps none and is
given the chart when it asks. -/
inductive HasChart (e : Endpoints) (h : Handle) (w : World) (c : Chart) : Prop where
  | kept : (w.memory h.serial).dividends = some c.dividends → HasChart e h w c
  | given {w' : World} : (w.memory h.serial).dividends = none →
      (fetchChart e h Period.max.text "1mo").outcome w = (.ok c, w') → HasChart e h w c

section Charts

variable {e : Endpoints} {h : Handle} {s : Symbol} {d d' : Desk World} {c : Chart}

theorem pays_iff {p : Payment} {x : Dividend} :
    ((Chart.dividendOf? c.offset p).filter fun x => decide (0.0 < x.amount)) = some x ↔
      Payment.Pays c.offset p x := by
  rw [Option.filter_eq_some_iff, Chart.dividendOf?, Option.map_eq_some_iff, decide_eq_true_eq]
  constructor
  · rintro ⟨⟨date, day, rfl⟩, positive⟩
    exact ⟨localDate?_eq_some_iff.1 day, rfl, positive⟩
  · rintro ⟨day, amount, positive⟩
    rw [← amount] at positive ⊢
    exact ⟨⟨x.date, localDate?_eq_some_iff.2 day, rfl⟩, positive⟩

theorem payouts_isPaidOut (c : Chart) : IsPaidOut c (Desk.payouts c.dividends) := by
  refine ⟨(c.payments.filterMap (Chart.dividendOf? c.offset)).filter
    fun d => decide (0.0 < d.amount), ?_, ?_⟩
  · rw [List.filter_filterMap]
    exact selects_filterMap (fun _ _ => pays_iff) _
  · -- The chart sorts before the amounts are looked at, and the desk sorts after it.
    have sorted : SortedByDate Dividend.date _ c.dividends := sortDividends_sortedByDate _
    exact (sorted.filter _).trans (payouts_isListing c.dividends).sorted

theorem HasChart.serves (has : HasChart e h d'.world c)
    (acquired : (Desk.acquire (provider e) s).outcome d = (.ok h, d')) :
    Serves (provider e) s d c.dividends := by
  cases has with
  | kept held =>
    refine ⟨h, d', Frame.ofDividends c.dividends, d'.world, acquired, ?_,
      Frame.dividends_ofDividends _⟩
    show (dividends e h).outcome d'.world = _
    have kept : (memo h).outcome d'.world = (.ok (d'.world.memory h.serial), d'.world) := rfl
    rw [dividends, Query.outcome_bind_ok kept, held]
    rfl
  | given unkept asked =>
    obtain ⟨w, answered⟩ := dividends_of_chart unkept asked
    exact ⟨h, d', _, w, acquired, answered, Frame.dividends_ofDividends _⟩

end Charts

end Yahoo

/-- **Lists of dividends.** If the handle for a symbol serves a series, the list that is fetched is
that of the series; over the Yahoo services it is what the chart of the handle pays out. Whoever
serves a list that was fetched is listed as it is. -/
theorem dividends_are_listed :
    (∀ {W : Type} (p : Provider W) (s : Symbol) (d : Desk W) (series : List Dividend),
      Serves p s d series → ∃ listed, Lists p s d listed ∧ IsListing series listed) ∧
    (∀ (e : Yahoo.Endpoints) (s : Symbol) (d d' : Desk Yahoo.World) (h : Handle)
      (c : Yahoo.Chart), (Desk.acquire (Yahoo.provider e) s).outcome d = (.ok h, d') →
      Yahoo.HasChart e h d'.world c →
      ∃ listed, Lists (Yahoo.provider e) s d listed ∧ Yahoo.IsPaidOut c listed) ∧
    ∀ {W W' : Type} (p : Provider W) (p' : Provider W') (s s' : Symbol) (d : Desk W) (d' : Desk W')
      (listed : List Dividend), Lists p s d listed → Serves p' s' d' listed →
      Lists p' s' d' listed := by
  refine ⟨?_, ?_, ?_⟩
  · intro W p s d series serves
    exact ⟨_, serves.lists, payouts_isListing series⟩
  · intro e s d d' h c acquired has
    exact ⟨_, (has.serves acquired).lists, Yahoo.payouts_isPaidOut c⟩
  · intro W W' p p' s s' d d' listed lists serves
    exact lists.again serves

theorem seriesProvider_serves (series : List Dividend) :
    Serves (seriesProvider [] series) ⟨"A"⟩ Canned.freshDesk series :=
  ⟨_, _, _, _, rfl, rfl, Frame.dividends_ofDividends series⟩

/-- A desk in front of a network that delivers one chart, with a dividend on New Year's Day. -/
def payingDesk : Desk Yahoo.World :=
  Session.fresh ⟨.epoch, true⟩ (.ofParts 300 0) (.start
    ⟨true, [.reply ⟨200, [], .complete Yahoo.TwoRows.payments.toUTF8.toList⟩], []⟩)

/-- The outcome of acquiring a handle from that desk. -/
def payingHandle : Except Fault Handle × Desk Yahoo.World :=
  (Desk.acquire (Yahoo.provider Yahoo.TwoRows.endpoints) ⟨"A"⟩).outcome payingDesk

/-- A series with amounts of every kind, of which two are for one date, and a chart. -/
theorem dividends_are_listed_mixed :
    let series : List Dividend := [⟨dayAfter, 0.5⟩, ⟨newYear, 0.0 / 0.0⟩, ⟨newYear, 0.5⟩,
      ⟨dayAfter, 0.25⟩, ⟨newYear, -1.0⟩, ⟨newYear, -0.0⟩]
    (∃ listed, Lists (seriesProvider [] series) ⟨"A"⟩ Canned.freshDesk listed ∧
      IsListing series listed ∧
      Lists (seriesProvider [] listed) ⟨"A"⟩ Canned.freshDesk listed) ∧
    ∃ c listed,
      Yahoo.HasChart Yahoo.TwoRows.endpoints Yahoo.TwoRows.handle payingHandle.2.world c ∧
      Lists (Yahoo.provider Yahoo.TwoRows.endpoints) ⟨"A"⟩ payingDesk listed ∧
      Yahoo.IsPaidOut c listed := by
  intro series
  obtain ⟨ofSeries, ofCharts, again⟩ := dividends_are_listed
  constructor
  · obtain ⟨listed, lists, isListing⟩ := ofSeries _ _ _ series (seriesProvider_serves series)
    exact ⟨listed, lists, isListing, again _ _ _ _ _ _ _ lists (seriesProvider_serves listed)⟩
  · have acquired : payingHandle = (.ok Yahoo.TwoRows.handle, payingHandle.2) := rfl
    have read : ((Yahoo.fetchChart Yahoo.TwoRows.endpoints Yahoo.TwoRows.handle Period.max.text
        "1mo").outcome payingHandle.2.world).1.toOption.map Yahoo.Chart.timestamps = some [] := by
      decide +kernel
    obtain ⟨c, answered, -⟩ := Yahoo.exists_chart read
    have has := Yahoo.HasChart.given rfl answered
    obtain ⟨listed, lists, paidOut⟩ := ofCharts _ _ _ _ _ c acquired has
    exact ⟨c, listed, has, lists, paidOut⟩

end MarketDesk
