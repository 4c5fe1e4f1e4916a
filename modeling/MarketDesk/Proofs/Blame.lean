import MarketDesk.Desk.Fetch
import MarketDesk.Proofs.Desk.Acquire

/-!
# Failures that blame no caller

Only one kind of error says that the request itself was not valid. `FailsOnly` bounds the errors
of a result, `Query.FailsOnly` those of a query, and both pass through every way to put results
and queries together. Reading a frame never blames the caller, so a fetch of the desk does so only
if its provider does.
-/

namespace MarketDesk

/-- Every error of the result has the property. -/
def FailsOnly {ε α : Type} (P : ε → Prop) (r : Except ε α) : Prop := ∀ e, r = .error e → P e

/-- The fault is no error that blames the caller. -/
def Fault.IsBlameless : Fault → Prop
  | .error e => e.isValidation = false
  | .abort => True

/-- The error does not blame the caller. -/
def DataError.IsBlameless (e : DataError) : Prop := e.isValidation = false

namespace FailsOnly

variable {ε ε' α β : Type} {P : ε → Prop} {Q : ε' → Prop} {r : Except ε α}

theorem ok (a : α) : FailsOnly P (.ok a : Except ε α) := by
  intro e h
  cases h

theorem error {e : ε} (h : P e) : FailsOnly P (.error e : Except ε α) := by
  intro e' same
  cases same
  exact h

theorem bind {k : α → Except ε β} (hr : FailsOnly P r) (hk : ∀ a, FailsOnly P (k a)) :
    FailsOnly P (r >>= k) := by
  cases r with
  | ok a => exact hk a
  | error e => exact error (hr e rfl)

theorem mapError {f : ε → ε'} (hf : ∀ e, P e → Q (f e)) (hr : FailsOnly P r) :
    FailsOnly Q (r.mapError f) := by
  cases r with
  | ok a => exact ok a
  | error e => exact error (hf e (hr e rfl))

theorem mapM {f : α → Except ε β} (hf : ∀ a, FailsOnly P (f a)) :
    ∀ l : List α, FailsOnly P (l.mapM f)
  | [] => ok []
  | a :: l => by
    rw [List.mapM_cons]
    exact (hf a).bind fun b => (mapM hf l).bind fun bs => ok (b :: bs)

end FailsOnly

namespace Query

variable {σ τ α β : Type} {P : Fault → Prop}

/-- Every fault of the query, in any state, has the property. -/
def FailsOnly (P : Fault → Prop) (q : Query σ α) : Prop :=
  ∀ s, MarketDesk.FailsOnly P (q.outcome s).1

namespace FailsOnly

variable {q : Query σ α}

theorem pure (a : α) : FailsOnly P (pure a : Query σ α) := fun _ => .ok a

theorem fail {e : DataError} (h : P (.error e)) : FailsOnly P (Query.fail e : Query σ α) :=
  fun _ => .error h

theorem bind {k : α → Query σ β} (hq : FailsOnly P q) (hk : ∀ a, FailsOnly P (k a)) :
    FailsOnly P (q >>= k) := by
  intro s
  have hs := hq s
  rw [outcome_bind]
  cases h : q.outcome s with
  | mk r t =>
    rw [h] at hs
    cases r with
    | ok a => exact hk a t
    | error f => exact .error (hs f rfl)

theorem get : FailsOnly P (get : Query σ σ) := fun s => .ok s

theorem modify (g : σ → σ) : FailsOnly P (modify g : Query σ PUnit) := fun _ => .ok PUnit.unit

theorem set (s : σ) : FailsOnly P (set s : Query σ PUnit) := fun _ => .ok PUnit.unit

theorem ofExcept {r : Except Fault α} (h : MarketDesk.FailsOnly P r) :
    FailsOnly P (Query.ofExcept r : Query σ α) := by
  intro s
  rw [outcome_ofExcept]
  exact h

theorem onPart {get : τ → σ} {set : σ → τ → τ} (hq : FailsOnly P q) :
    FailsOnly P (q.onPart get set) := fun t => hq (get t)

end FailsOnly

end Query

/-- No handle of the provider is refused, and no question through one, as the caller's mistake. -/
structure Provider.IsBlameless {W : Type} (p : Provider W) : Prop where
  create : ∀ s, (p.create s).FailsOnly Fault.IsBlameless
  history : ∀ h period, (p.history h period).FailsOnly Fault.IsBlameless
  dividends : ∀ h, (p.dividends h).FailsOnly Fault.IsBlameless
  info : ∀ h, (p.info h).FailsOnly Fault.IsBlameless

namespace Frame

variable (f : Frame) {P : Fault → Prop} (reported : ∀ t, P (.error (.frame t)))

include reported

theorem column_failsOnly (name : String) : FailsOnly P (f.column name) := by
  unfold column
  cases f.cells? name with
  | some cells => exact .ok cells
  | none => exact .error (reported _)

theorem floats_failsOnly (name : String) : FailsOnly P (f.floats name) := by
  refine (f.column_failsOnly reported name).bind fun cells => ?_
  cases cells.floats? with
  | some xs => exact .ok xs
  | none => exact .error (reported _)

theorem datesFrom_failsOnly (aborts : P .abort) :
    ∀ (cells : List (Option Int)) (row : Nat), FailsOnly P (datesFrom row cells)
  | [], _ => .ok []
  | cell :: cells, row => by
    have head : FailsOnly P (dateAt row cell) := by
      cases cell with
      | none => exact .error (reported _)
      | some n =>
        rw [dateAt]
        cases Calendar.Date.ofDayNumber? n with
        | some d => exact .ok d
        | none => exact .error aborts
    exact head.bind fun d =>
      (datesFrom_failsOnly aborts cells (row + 1)).bind fun ds => .ok (d :: ds)

theorem dates_failsOnly (aborts : P .abort) : FailsOnly P f.dates :=
  (f.column_failsOnly reported "date").bind fun cells =>
    datesFrom_failsOnly reported aborts cells.days 0

theorem cellAt_failsOnly {α : Type} (name : String) (cells : List (Option α)) (row : Nat) :
    FailsOnly P (cellAt name cells row) := by
  unfold cellAt
  split
  · exact .ok _
  · exact .error (reported _)

/-- Once the dates are read, only errors about the frame can follow. -/
theorem bars_failsOnly (dated : FailsOnly P f.dates) : FailsOnly P f.bars := by
  refine dated.bind fun dates => (f.floats_failsOnly reported "open").bind fun opens =>
    (f.floats_failsOnly reported "high").bind fun highs =>
    (f.floats_failsOnly reported "low").bind fun lows =>
    (f.floats_failsOnly reported "close").bind fun closes =>
    (f.column_failsOnly reported "volume").bind fun volumes => .mapM (fun row => ?_) _
  exact (cellAt_failsOnly reported _ _ _).bind fun _ =>
    (cellAt_failsOnly reported _ _ _).bind fun _ => (cellAt_failsOnly reported _ _ _).bind fun _ =>
    (cellAt_failsOnly reported _ _ _).bind fun _ => (cellAt_failsOnly reported _ _ _).bind fun _ =>
    .ok _

theorem dividends_failsOnly (dated : FailsOnly P f.dates) : FailsOnly P f.dividends := by
  refine dated.bind fun dates => (f.floats_failsOnly reported "amount").bind fun amounts =>
    .mapM (fun row => ?_) _
  exact (cellAt_failsOnly reported _ _ _).bind fun _ => .ok _

omit reported in
/-- Reading a frame never blames the caller. -/
theorem reading_isBlameless :
    FailsOnly Fault.IsBlameless f.bars ∧ FailsOnly Fault.IsBlameless f.dividends := by
  have reported : ∀ t, Fault.IsBlameless (.error (.frame t)) := fun _ => rfl
  have dated := f.dates_failsOnly reported trivial
  exact ⟨f.bars_failsOnly reported dated, f.dividends_failsOnly reported dated⟩

end Frame

namespace Desk

variable {W : Type} {p : Provider W} (blameless : p.IsBlameless) (s : Symbol)

include blameless

theorem acquire_failsOnly : (acquire p s).FailsOnly Fault.IsBlameless := by
  refine Query.FailsOnly.get.bind fun d => ?_
  split
  · exact .pure _
  · exact ((blameless.create s).onPart).bind fun h => (Query.FailsOnly.modify _).bind fun _ =>
      .pure h

theorem fetchHistory_failsOnly (period : Period) :
    (fetchHistory p s period).FailsOnly Fault.IsBlameless := by
  refine (acquire_failsOnly blameless s).bind fun h =>
    ((blameless.history h period).onPart).bind fun prices =>
    ((blameless.dividends h).onPart).bind fun payments =>
    (Query.FailsOnly.ofExcept prices.reading_isBlameless.1).bind fun bars =>
    (Query.FailsOnly.ofExcept payments.reading_isBlameless.2).bind fun dividends => .pure _

theorem fetchDividends_failsOnly : (fetchDividends p s).FailsOnly Fault.IsBlameless := by
  refine (acquire_failsOnly blameless s).bind fun h =>
    ((blameless.dividends h).onPart).bind fun payments =>
    (Query.FailsOnly.ofExcept payments.reading_isBlameless.2).bind fun dividends => .pure _

theorem fetchOverview_failsOnly : (fetchOverview p s).FailsOnly Fault.IsBlameless := by
  refine (acquire_failsOnly blameless s).bind fun h =>
    ((blameless.info h).onPart).bind fun snapshot => .pure _

end Desk

end MarketDesk
