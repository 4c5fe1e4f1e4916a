import MarketDesk.Proofs.Desk.DayByDay
import MarketDesk.Proofs.Desk.DividendViews
import MarketDesk.Proofs.Frame.Reading

/-!
# Series without rows

A symbol that never paid a dividend has a series without rows. Columns are looked up before rows are
counted, so such a frame is read as the empty series just if it has the columns of a series
(`IsSeries`). Without rows the type of the dates does not matter, but that of the amounts does. A
frame that lacks a column is refused, and with it a history whose prices are fine.
`empty_series_is_served_iff` says so of both fetches.
-/

namespace MarketDesk

namespace Frame

variable {f : Frame} {e : DataError}

/-- The frame has the columns of a series: dates of any type, and amounts in doubles. -/
def IsSeries (f : Frame) : Prop :=
  (∃ cells, f.cells? "date" = some cells) ∧ ∃ xs, f.cells? "amount" = some (.float64 xs)

/-- What keeps a frame from being a series, and the error for it. -/
inductive Lacks (f : Frame) : DataError → Prop where
  | dates : f.cells? "date" = none → Lacks f (missingColumn "date")
  | amounts {cells : Cells} : f.cells? "date" = some cells → f.cells? "amount" = none →
      Lacks f (missingColumn "amount")
  | doubles {cells amounts : Cells} : f.cells? "date" = some cells →
      f.cells? "amount" = some amounts → (∀ xs, amounts ≠ .float64 xs) →
      Lacks f (wrongType "amount" amounts)

theorem isSeries_or_lacks (f : Frame) : f.IsSeries ∨ ∃ e, f.Lacks e := by
  cases dates : f.cells? "date" with
  | none => exact .inr ⟨_, .dates dates⟩
  | some cells =>
    cases amounts : f.cells? "amount" with
    | none => exact .inr ⟨_, .amounts dates amounts⟩
    | some column =>
      cases column with
      | float64 xs => exact .inl ⟨⟨cells, dates⟩, xs, amounts⟩
      | _ => exact .inr ⟨_, .doubles dates amounts nofun⟩

theorem Lacks.not_isSeries (lacks : f.Lacks e) : ¬ f.IsSeries := by
  rintro ⟨⟨cells, dates⟩, xs, amounts⟩
  cases lacks with
  | dates absent => simp [absent] at dates
  | amounts _ absent => simp [absent] at amounts
  | doubles _ there other => exact other xs (Option.some.inj (there.symm.trans amounts))

/-- Without rows, dates are read off any column. -/
theorem dates_of_height_zero {cells : Cells} (rows : f.height = 0)
    (there : f.cells? "date" = some cells) : f.dates = .ok [] := by
  have none : cells.days = [] := by
    rw [← List.length_eq_zero_iff, length_days, length_of_cells? there, rows]
  rw [dates, column, there]
  show datesFrom 0 cells.days = _
  rw [none, datesFrom]

theorem dividends_of_isSeries (rows : f.height = 0) (series : f.IsSeries) :
    f.dividends = .ok [] := by
  obtain ⟨⟨cells, there⟩, xs, amounts⟩ := series
  rw [dividends, dates_of_height_zero rows there, floats, column, amounts]
  rfl

/-- What a frame without rows lacks is reported. -/
theorem dividends_of_lacks (rows : f.height = 0) (lacks : f.Lacks e) :
    f.dividends = .error (.error e) := by
  cases lacks with
  | dates absent =>
    rw [dividends, dates, column, absent]
    rfl
  | amounts there absent =>
    rw [dividends, dates_of_height_zero rows there, floats, column, absent]
    rfl
  | @doubles _ amounts there there' other =>
    rw [dividends, dates_of_height_zero rows there, floats, column, there']
    cases amounts with
    | float64 xs => exact (other xs rfl).elim
    | _ => rfl

end Frame

/-! ## Fetching -/

/-- There is a history of the bars, ascending by date, and no day in it carries a dividend. -/
def IsUnpaidHistory (bars : List Bar) (r : Except Fault Timeline) : Prop :=
  ∃ t sorted, r = .ok t ∧ SortedByDate Bar.date bars sorted ∧
    List.Forall₂ (fun bar day => TradingDay.Shows bar 0.0 day) sorted t.days

/-- What is fetched is right just if the dividend frame is a series; otherwise it is an error about
the first thing that the frame lacks. -/
structure ServedJustIf {α : Type} (payments : Frame) (good : Except Fault α → Prop)
    (r : Except Fault α) : Prop where
  served : good r ↔ payments.IsSeries
  refused : ∀ e, payments.Lacks e → r = .error (.error e)

section Fetching

variable {W : Type} {p : Provider W} {s : Symbol} {d d' : Desk W} {h : Handle} {period : Period}
  {prices payments : Frame} {bars : List Bar} {w w' : W}

theorem payouts_nil : Desk.payouts [] = [] := by simp [Desk.payouts, sortDividends]

theorem isUnpaidHistory_make (bars : List Bar) :
    IsUnpaidHistory bars (.ok (Timeline.make bars [])) := by
  refine ⟨_, _, rfl, sortBars_sortedByDate bars, ?_⟩
  rw [Timeline.days, List.forall₂_map_right_iff, Timeline.make, List.forall₂_same]
  exact fun bar _ => shows_ofBar bar 0.0

/-- What is right for a series and an error otherwise is served just if there is a series. -/
theorem ServedJustIf.of_cases {α : Type} {good : Except Fault α → Prop} {r : Except Fault α}
    (served : payments.IsSeries → good r)
    (refused : ∀ e, payments.Lacks e → r = .error (.error e))
    (bad : ∀ e, ¬ good (.error (.error e))) : ServedJustIf payments good r where
  served := by
    refine ⟨fun right => ?_, served⟩
    rcases payments.isSeries_or_lacks with series | ⟨e, lacks⟩
    · exact series
    · rw [refused e lacks] at right
      exact (bad e right).elim
  refused := refused

theorem fetchDividends_servedJustIf (acquired : (Desk.acquire p s).outcome d = (.ok h, d'))
    (answered : (p.dividends h).outcome d'.world = (.ok payments, w)) (rows : payments.height = 0) :
    ServedJustIf payments (· = .ok []) ((Desk.fetchDividends p s).outcome d).1 := by
  rw [Desk.fetchDividends_of_frame acquired answered]
  refine .of_cases (fun series => ?_) (fun e lacks => ?_) nofun
  · rw [Frame.dividends_of_isSeries rows series]
    exact congrArg Except.ok payouts_nil
  · rw [Frame.dividends_of_lacks rows lacks]
    rfl

theorem fetchHistory_servedJustIf (acquired : (Desk.acquire p s).outcome d = (.ok h, d'))
    (first : (p.history h period).outcome d'.world = (.ok prices, w))
    (second : (p.dividends h).outcome w = (.ok payments, w')) (readable : prices.bars = .ok bars)
    (rows : payments.height = 0) :
    ServedJustIf payments (IsUnpaidHistory bars) ((Desk.fetchHistory p s period).outcome d).1 := by
  rw [Desk.fetchHistory_of_frames acquired first second, Desk.timeline, readable]
  refine .of_cases (fun series => ?_) (fun e lacks => ?_) ?_
  · rw [Frame.dividends_of_isSeries rows series]
    exact isUnpaidHistory_make bars
  · rw [Frame.dividends_of_lacks rows lacks]
    rfl
  · rintro e ⟨t, sorted, impossible, -⟩
    cases impossible

end Fetching

/-- **Series without rows.** If a handle answers with a dividend frame that has no rows, then the
list of dividends is empty, and a history whose prices can be read carries no dividend on any day,
just if the frame has the columns of a series. Otherwise both report the first thing that it
lacks. -/
theorem empty_series_is_served_iff {W : Type} (p : Provider W) (s : Symbol) (d d' : Desk W)
    (h : Handle) (acquired : (Desk.acquire p s).outcome d = (.ok h, d')) :
    (∀ payments w, (p.dividends h).outcome d'.world = (.ok payments, w) → payments.height = 0 →
      ServedJustIf payments (· = .ok []) ((Desk.fetchDividends p s).outcome d).1) ∧
    ∀ period prices payments bars w w', (p.history h period).outcome d'.world = (.ok prices, w) →
      (p.dividends h).outcome w = (.ok payments, w') → prices.bars = .ok bars →
      payments.height = 0 →
      ServedJustIf payments (IsUnpaidHistory bars)
        ((Desk.fetchHistory p s period).outcome d).1 :=
  ⟨fun _ _ answered rows => fetchDividends_servedJustIf acquired answered rows,
    fun _ _ _ _ _ _ first second readable rows =>
      fetchHistory_servedJustIf acquired first second readable rows⟩

/-- Handles have the bars, and the frame as their dividends. -/
def framesProvider (bars : List Bar) (payments : Frame) : Provider Tally :=
  (Canned.uniform ⟨fun _ => .ok (Frame.ofBars bars), .ok payments, .ok []⟩).provider

/-- No rows, but columns: dates that would be texts, amounts, and one more. -/
def noRows : Frame where
  height := 0
  columns := [⟨"amount", .float64 []⟩, ⟨"note", .flag []⟩, ⟨"date", .text []⟩]
  level := by simp [Cells.length]
  distinct := by decide

theorem empty_series_is_served_iff_noRows :
    let p := framesProvider [barOn dayAfter, barOn newYear] noRows
    noRows.IsSeries ∧ ((Desk.fetchDividends p ⟨"A"⟩).outcome Canned.freshDesk).1 = .ok [] ∧
      IsUnpaidHistory [barOn dayAfter, barOn newYear]
        ((Desk.fetchHistory p ⟨"A"⟩ .max).outcome Canned.freshDesk).1 := by
  intro p
  have series : noRows.IsSeries := ⟨⟨_, rfl⟩, _, rfl⟩
  obtain ⟨list, history⟩ := empty_series_is_served_iff p ⟨"A"⟩ Canned.freshDesk _ _ rfl
  exact ⟨series, (list noRows _ rfl rfl).served.2 series,
    (history .max _ noRows _ _ _ rfl rfl (Frame.bars_ofBars _) rfl).served.2 series⟩

/-- A frame without columns has no rows either, and is refused by both fetches. -/
theorem empty_frame_is_refused :
    let bare := framesProvider [barOn newYear] .empty
    ¬ ((Desk.fetchDividends bare ⟨"A"⟩).outcome Canned.freshDesk).1 = .ok [] ∧
      ¬ IsUnpaidHistory [barOn newYear]
        ((Desk.fetchHistory bare ⟨"A"⟩ .max).outcome Canned.freshDesk).1 := by
  intro bare
  have lacks : Frame.empty.Lacks (Frame.missingColumn "date") := .dates rfl
  constructor
  · intro listed
    exact lacks.not_isSeries ((fetchDividends_servedJustIf rfl rfl rfl).served.1 listed)
  · intro unpaid
    exact lacks.not_isSeries
      ((fetchHistory_servedJustIf rfl rfl rfl (Frame.bars_ofBars _) rfl).served.1 unpaid)

end MarketDesk
