import MarketDesk.Proofs.Blame
import MarketDesk.Proofs.Desk.Fetching
import MarketDesk.Proofs.Frame.Reading

/-!
# Frames that break a reading down

Whatever is wrong with a frame is reported as an error, with one exception: a day number beyond the
calendar breaks the reading down. Dates are read from the top, so it has to stand above every null
of its column; which of the columns that are read later are there does not matter any more.
`readings_break_down_iff` says so for readings and for the fetches that read.
-/

namespace MarketDesk

open MarketDesk.Calendar

/-- There is a result, or an error about a frame. -/
def IsReported {α : Type} (r : Except Fault α) : Prop :=
  (∃ a, r = .ok a) ∨ ∃ text, r = .error (.error (.frame text))

/-- Under the condition there is a breakdown, and otherwise a result or an error about a frame. -/
structure BreaksJustIf {α : Type} (condition : Prop) (r : Except Fault α) : Prop where
  breaks : condition → r = .error .abort
  reports : ¬ condition → IsReported r

namespace BreaksJustIf

variable {α β : Type} {first second : Prop} {r : Except Fault α} {k : α → Except Fault β}

/-- What comes next breaks down only if there was a result before. -/
theorem bind (hr : BreaksJustIf first r) (hk : ∀ a, BreaksJustIf second (k a)) :
    BreaksJustIf (first ∨ (∃ a, r = .ok a) ∧ second) (r >>= k) where
  breaks := by
    rintro (broken | ⟨⟨a, rfl⟩, broken⟩)
    · rw [hr.breaks broken]
      rfl
    · exact (hk a).breaks broken
  reports sound := by
    rw [not_or] at sound
    rcases hr.reports sound.1 with ⟨a, rfl⟩ | ⟨text, rfl⟩
    · exact (hk a).reports fun broken => sound.2 ⟨⟨a, rfl⟩, broken⟩
    · exact .inr ⟨text, rfl⟩

theorem map (hr : BreaksJustIf first r) (g : α → β) : BreaksJustIf first (r.map g) where
  breaks broken := by
    rw [hr.breaks broken]
    rfl
  reports sound := by
    rcases hr.reports sound with ⟨a, rfl⟩ | ⟨text, rfl⟩
    · exact .inl ⟨g a, rfl⟩
    · exact .inr ⟨text, rfl⟩

end BreaksJustIf

namespace Frame

/-- The calendar has no day with the number. -/
def IsBeyond (n : Int) : Prop := n < Date.first.dayNumber ∨ Date.last.dayNumber < n

/-- There is a day number beyond the calendar, and no null above it. -/
def MeetsBeyond (cells : List (Option Int)) : Prop :=
  ∃ (row : Nat) (n : Int), cells[row]? = some (some n) ∧ IsBeyond n ∧
    ∀ i < row, cells[i]? ≠ some none

/-- The dates of the frame, read from the top, come to a day number beyond the calendar. -/
def BreaksDown (f : Frame) : Prop :=
  ∃ cells, f.cells? "date" = some cells ∧ MeetsBeyond cells.days

/-! ## Dates -/

theorem ofDayNumber?_eq_none_iff {n : Int} : Date.ofDayNumber? n = none ↔ IsBeyond n := by
  have known : (∃ d, Date.ofDayNumber? n = some d) ↔
      Date.first.dayNumber ≤ n ∧ n ≤ Date.last.dayNumber := by
    simp only [Date.ofDayNumber?_eq_some_iff, Date.exists_dayNumber_iff]
  unfold IsBeyond
  cases read : Date.ofDayNumber? n with
  | none =>
    simp only [read, reduceCtorEq, exists_false, false_iff] at known
    simp only [true_iff]
    omega
  | some d =>
    simp only [read, Option.some.injEq, exists_eq', true_iff] at known
    simp only [reduceCtorEq, false_iff]
    omega

theorem not_meetsBeyond_nil : ¬ MeetsBeyond [] := by
  rintro ⟨row, n, here, -⟩
  simp at here

/-- The first cell is beyond the calendar, or it is a number and the reading goes on. -/
theorem meetsBeyond_cons {cell : Option Int} {cells : List (Option Int)} :
    MeetsBeyond (cell :: cells) ↔ ∃ n, cell = some n ∧ (IsBeyond n ∨ MeetsBeyond cells) := by
  constructor
  · rintro ⟨row, n, here, beyond, above⟩
    cases row with
    | zero =>
      cases here
      exact ⟨n, rfl, .inl beyond⟩
    | succ row =>
      cases cell with
      | none => exact (above 0 (by omega) rfl).elim
      | some m => exact ⟨m, rfl, .inr ⟨row, n, here, beyond, fun i hi => above (i + 1) (by omega)⟩⟩
  · rintro ⟨m, rfl, beyond | ⟨row, n, here, beyond, above⟩⟩
    · exact ⟨0, m, rfl, beyond, by simp⟩
    · refine ⟨row + 1, n, here, beyond, fun i hi => ?_⟩
      cases i with
      | zero => simp
      | succ i => exact above i (by omega)

theorem datesFrom_eq_abort_iff {cells : List (Option Int)} {row : Nat} :
    datesFrom row cells = .error .abort ↔ MeetsBeyond cells := by
  induction cells generalizing row with
  | nil => simp [datesFrom, not_meetsBeyond_nil]
  | cons cell cells ih =>
    rw [datesFrom, meetsBeyond_cons]
    cases cell with
    | none => simp [dateAt, bind, Except.bind]
    | some n =>
      simp only [Option.some.injEq, exists_eq_left', ← ofDayNumber?_eq_none_iff, dateAt]
      cases Date.ofDayNumber? n with
      | none => simp [bind, Except.bind]
      | some d =>
        have later : datesFrom (row + 1) cells = .error .abort ↔ MeetsBeyond cells := ih
        rw [← later]
        cases rest : datesFrom (row + 1) cells with
        | error f => simp [bind, Except.bind]
        | ok ds => simp [bind, Except.bind, pure, Except.pure]

theorem dates_eq_abort_iff {f : Frame} : f.dates = .error .abort ↔ f.BreaksDown := by
  rw [dates, column, BreaksDown]
  cases f.cells? "date" with
  | none => simp [bind, Except.bind]
  | some cells =>
    show datesFrom 0 cells.days = _ ↔ _
    rw [datesFrom_eq_abort_iff]
    simp

/-! ## Readings -/

section Readings

variable (f : Frame)

theorem isReported_of_failsOnly {α : Type} {r : Except Fault α}
    (fails : FailsOnly (fun fault => ∃ text, fault = .error (.frame text)) r) : IsReported r := by
  cases r with
  | ok a => exact .inl ⟨a, rfl⟩
  | error fault =>
    obtain ⟨text, rfl⟩ := fails fault rfl
    exact .inr ⟨text, rfl⟩

/-- Dates that do not break down fail only with errors about the frame. -/
theorem dates_failsOnly_of_not_breaksDown (sound : ¬ f.BreaksDown) :
    FailsOnly (fun fault => ∃ text, fault = .error (.frame text)) f.dates := by
  have either : FailsOnly (fun fault => fault = .abort ∨ ∃ text, fault = .error (.frame text))
      f.dates := f.dates_failsOnly (fun t => .inr ⟨t, rfl⟩) (.inl rfl)
  intro fault failed
  rcases either fault failed with rfl | reported
  · exact (sound (dates_eq_abort_iff.1 failed)).elim
  · exact reported

theorem bars_breakJustIf : BreaksJustIf f.BreaksDown f.bars where
  breaks broken := by
    rw [bars, dates_eq_abort_iff.2 broken]
    rfl
  reports sound :=
    isReported_of_failsOnly
      (f.bars_failsOnly (fun t => ⟨t, rfl⟩) (f.dates_failsOnly_of_not_breaksDown sound))

theorem dividends_breakJustIf : BreaksJustIf f.BreaksDown f.dividends where
  breaks broken := by
    rw [dividends, dates_eq_abort_iff.2 broken]
    rfl
  reports sound :=
    isReported_of_failsOnly
      (f.dividends_failsOnly (fun t => ⟨t, rfl⟩) (f.dates_failsOnly_of_not_breaksDown sound))

end Readings

end Frame

/-! ## Fetches -/

namespace Desk

/-- A history reads its dividends only if its prices can be read. -/
def HistoryBreaksDown (prices payments : Frame) : Prop :=
  prices.BreaksDown ∨ (∃ bars, prices.bars = .ok bars) ∧ payments.BreaksDown

theorem timeline_breaksJustIf (prices payments : Frame) :
    BreaksJustIf (HistoryBreaksDown prices payments) (timeline prices payments) :=
  prices.bars_breakJustIf.bind fun bars => payments.dividends_breakJustIf.map (Timeline.make bars)

end Desk

/-- **What breaks a reading down.** Bars and dividends are read off every frame, or an error about
the frame is reported, unless its dates come to a day number beyond the calendar; then the reading
breaks down. So do the fetches that read such a frame, and no others whose handle answers. -/
theorem readings_break_down_iff {W : Type} (p : Provider W) :
    (∀ f : Frame, BreaksJustIf f.BreaksDown f.bars ∧ BreaksJustIf f.BreaksDown f.dividends) ∧
    ∀ (s : Symbol) (d d' : Desk W) (h : Handle),
      (Desk.acquire p s).outcome d = (.ok h, d') →
      (∀ period prices payments w w', (p.history h period).outcome d'.world = (.ok prices, w) →
        (p.dividends h).outcome w = (.ok payments, w') →
        BreaksJustIf (Desk.HistoryBreaksDown prices payments)
          ((Desk.fetchHistory p s period).outcome d).1) ∧
      ∀ payments w, (p.dividends h).outcome d'.world = (.ok payments, w) →
        BreaksJustIf payments.BreaksDown ((Desk.fetchDividends p s).outcome d).1 := by
  refine ⟨fun f => ⟨f.bars_breakJustIf, f.dividends_breakJustIf⟩, ?_⟩
  intro s d d' h acquired
  constructor
  · intro period prices payments w w' first second
    rw [Desk.fetchHistory_of_frames acquired first second]
    exact Desk.timeline_breaksJustIf prices payments
  · intro payments w answered
    rw [Desk.fetchDividends_of_frame acquired answered]
    exact payments.dividends_breakJustIf.map Desk.payouts

/-- A frame with a day number that is far beyond the calendar, above a null. -/
def farFuture : Frame where
  height := 2
  columns := [⟨"date", .int32 [some 0x7FFFFFFF, none]⟩, ⟨"amount", .float64 [some 0.5, none]⟩]
  level := by simp [Cells.length]
  distinct := by decide

theorem farFuture_breaksDown : farFuture.BreaksDown :=
  ⟨_, rfl, 0, 0x7FFFFFFF, rfl, .inr (by decide), by simp⟩

/-- Handles have no prices, and the far future as their dividends. -/
def farProvider : Provider Tally :=
  (Canned.uniform ⟨fun _ => .ok (Frame.ofBars []), .ok farFuture, .ok []⟩).provider

/-- A history with no prices at all breaks down on its dividends. -/
theorem readings_break_down_iff_farFuture :
    ∃ h d' w w', (Desk.acquire farProvider ⟨"A"⟩).outcome Canned.freshDesk = (.ok h, d') ∧
      (farProvider.history h .max).outcome d'.world = (.ok (Frame.ofBars []), w) ∧
      (farProvider.dividends h).outcome w = (.ok farFuture, w') ∧
      Desk.HistoryBreaksDown (Frame.ofBars []) farFuture ∧
      ((Desk.fetchHistory farProvider ⟨"A"⟩ .max).outcome Canned.freshDesk).1 = .error .abort := by
  have broken : Desk.HistoryBreaksDown (Frame.ofBars []) farFuture :=
    .inr ⟨⟨[], rfl⟩, farFuture_breaksDown⟩
  refine ⟨_, _, _, _, rfl, rfl, rfl, broken, ?_⟩
  exact (((readings_break_down_iff farProvider).2 ⟨"A"⟩ _ _ _ rfl).1 .max _ _ _ _ rfl rfl).breaks
    broken

/-- Neither a reading of the far future nor a fetch of it ends with a result or a reported error. -/
theorem far_future_is_not_reported :
    ¬ IsReported farFuture.bars ∧ ¬ IsReported farFuture.dividends ∧
      ¬ IsReported ((Desk.fetchDividends farProvider ⟨"A"⟩).outcome Canned.freshDesk).1 := by
  have none : ∀ {α : Type}, ¬ IsReported (.error .abort : Except Fault α) := by
    rintro α (⟨a, h⟩ | ⟨text, h⟩) <;> cases h
  refine ⟨?_, ?_, ?_⟩
  · rw [farFuture.bars_breakJustIf.breaks farFuture_breaksDown]
    exact none
  · rw [farFuture.dividends_breakJustIf.breaks farFuture_breaksDown]
    exact none
  · exact none

end MarketDesk
