import MarketDesk.Frame.Series
import MarketDesk.Proofs.Calendar.DayCount

/-!
# Frames read back

A frame that was made from bars or dividends is read as just these: every date survives as a day
number, every double and every volume as it is, and no row is lost or moved.
-/

namespace MarketDesk

open MarketDesk.Calendar

/-! ## Rows -/

/-- Reading row by row gives a list if each row gives the element of the list in its place. -/
theorem mapM_zipIdx_eq_ok {ε α β : Type} {read : α × Nat → Except ε β} {xs : List α} {ys : List β}
    {first : Nat} (length : xs.length = ys.length)
    (h : ∀ i x y, xs[i]? = some x → ys[i]? = some y → read (x, first + i) = .ok y) :
    (xs.zipIdx first).mapM read = .ok ys := by
  induction xs generalizing ys first with
  | nil =>
    cases ys with
    | nil => rfl
    | cons y ys => cases length
  | cons x xs ih =>
    cases ys with
    | nil => cases length
    | cons y ys =>
      have head : read (x, first) = .ok y := h 0 x y rfl rfl
      have tail : (xs.zipIdx (first + 1)).mapM read = .ok ys := by
        refine ih (Nat.succ.inj length) fun i x' y' hx hy => ?_
        rw [Nat.add_assoc, Nat.add_comm 1 i]
        exact h (i + 1) x' y' hx hy
      rw [List.zipIdx_cons, List.mapM_cons, head]
      show (do let ys ← (xs.zipIdx (first + 1)).mapM read; pure (y :: ys)) = _
      rw [tail]
      rfl

namespace Frame

/-- The cell in a row of a column without nulls. -/
theorem cellAt_map_some {α β : Type} (name : String) (f : α → β) {xs : List α} {row : Nat} {x : α}
    (h : xs[row]? = some x) : cellAt name (xs.map fun x => some (f x)) row = .ok (f x) := by
  rw [cellAt, List.getElem?_map, h]
  rfl

/-! ## Dates -/

theorem datesFrom_dayNumbers (ds : List Date) (row : Nat) :
    datesFrom row (ds.map fun d => some d.dayNumber) = .ok ds := by
  induction ds generalizing row with
  | nil => rfl
  | cons d ds ih =>
    have here : dateAt row (some d.dayNumber) = .ok d := by
      rw [dateAt, Date.ofDayNumber?_dayNumber]
    rw [List.map_cons, datesFrom, here, ih]
    rfl

/-- A day number survives as a 32-bit cell. -/
theorem toInt_ofInt_dayNumber (d : Date) : (Int32.ofInt d.dayNumber).toInt = d.dayNumber := by
  obtain ⟨least, greatest⟩ := d.dayNumber_isSigned32
  exact Int32.toInt_ofInt_of_le least greatest

/-- The cells of a date column hold the numbers of the dates. -/
theorem days_dateColumn (ds : List Date) :
    (dateColumn ds).cells.days = ds.map fun d => some d.dayNumber := by
  show ((ds.map fun d => some (Int32.ofInt d.dayNumber)).map (·.map Int32.toInt)).map
    (·.filter fun n => decide (Word.IsSigned32 n)) = _
  rw [List.map_map, List.map_map]
  refine List.map_congr_left fun d _ => ?_
  have small := d.dayNumber_isSigned32
  simp only [Function.comp_apply, Option.map_some, toInt_ofInt_dayNumber, Option.filter_some, small,
    decide_true, if_true]

/-- The dates of a frame whose first column they are. -/
theorem dates_of_dateColumn {f : Frame} {ds : List Date} {columns : List Column}
    (h : f.columns = dateColumn ds :: columns) : f.dates = .ok ds := by
  have found : f.column "date" = .ok (dateColumn ds).cells := by
    rw [column, cells?, h]
    rfl
  rw [dates, found]
  show datesFrom 0 (dateColumn ds).cells.days = _
  rw [days_dateColumn, datesFrom_dayNumbers]

/-! ## Bars -/

/-- A volume is in the range of its type, so its cast gives it back. -/
theorem volume_cell (n : UInt64) :
    ((some (n.toNat : Int)).filter fun n => decide (Word.IsUnsigned64 n)).map
      (fun n => UInt64.ofNat n.toNat) = some n := by
  have small : Word.IsUnsigned64 (n.toNat : Int) := by
    have := n.toNat_lt
    unfold Word.IsUnsigned64
    omega
  rw [Option.filter_some, decide_eq_true small, if_pos rfl, Option.map_some, Int.toNat_natCast,
    UInt64.ofNat_toNat]

/-- Volumes are cast to what they are. -/
theorem volumes_uint64 (xs : List UInt64) : (Cells.uint64 (xs.map some)).volumes = xs.map some := by
  rw [Cells.volumes, Cells.wholes, List.map_map, List.map_map]
  refine List.map_congr_left fun n _ => ?_
  rw [Function.comp_apply, Function.comp_apply, Option.map_some]
  exact volume_cell n

theorem floats_floatColumn {f : Frame} {name : String} {xs : List Float}
    (h : f.cells? name = some (floatColumn name xs).cells) : f.floats name = .ok (xs.map some) := by
  rw [floats, column, h]
  rfl

/-- Bars that were put in a frame are read back. -/
theorem bars_ofBars (bs : List Bar) : (ofBars bs).bars = .ok bs := by
  have dates : (ofBars bs).dates = .ok (bs.map Bar.date) := dates_of_dateColumn rfl
  have opens : (ofBars bs).floats "open" = .ok ((bs.map Bar.opening).map some) :=
    floats_floatColumn rfl
  have highs : (ofBars bs).floats "high" = .ok ((bs.map Bar.high).map some) :=
    floats_floatColumn rfl
  have lows : (ofBars bs).floats "low" = .ok ((bs.map Bar.low).map some) := floats_floatColumn rfl
  have closes : (ofBars bs).floats "close" = .ok ((bs.map Bar.close).map some) :=
    floats_floatColumn rfl
  have volume : (ofBars bs).column "volume" = .ok (.uint64 ((bs.map Bar.volume).map some)) := by
    rw [List.map_map]
    rfl
  rw [bars, dates, opens, highs, lows, closes, volume]
  refine mapM_zipIdx_eq_ok (List.length_map _) fun i date b hdate hb => ?_
  rw [List.getElem?_map, hb] at hdate
  cases hdate
  rw [Nat.zero_add, volumes_uint64, List.map_map, List.map_map, List.map_map, List.map_map,
    List.map_map]
  dsimp only [Function.comp_def]
  rw [cellAt_map_some "open" Bar.opening hb, cellAt_map_some "high" Bar.high hb,
    cellAt_map_some "low" Bar.low hb, cellAt_map_some "close" Bar.close hb,
    cellAt_map_some "volume" Bar.volume hb]
  rfl

/-- Dividends that were put in a frame are read back. -/
theorem dividends_ofDividends (ds : List Dividend) : (ofDividends ds).dividends = .ok ds := by
  have dates : (ofDividends ds).dates = .ok (ds.map Dividend.date) := dates_of_dateColumn rfl
  have amounts : (ofDividends ds).floats "amount" = .ok ((ds.map Dividend.amount).map some) :=
    floats_floatColumn rfl
  rw [dividends, dates, amounts]
  refine mapM_zipIdx_eq_ok (List.length_map _) fun i date d hdate hd => ?_
  rw [List.getElem?_map, hd] at hdate
  cases hdate
  rw [Nat.zero_add, List.map_map]
  dsimp only [Function.comp_def]
  rw [cellAt_map_some "amount" Dividend.amount hd]
  rfl

/-! ## Frames of columns -/

/-- The columns of a frame that has some are put together to that frame again. -/
theorem ofColumns?_columns {f : Frame} {c : Column} {cs : List Column} (h : f.columns = c :: cs) :
    ofColumns? f.columns = some f := by
  have height : ((f.columns.head?).map fun c => c.cells.length).getD 0 = f.height := by
    rw [h]
    exact f.level c (h ▸ List.mem_cons_self)
  obtain ⟨rows, columns, level, distinct⟩ := f
  dsimp only at height
  subst height
  rw [ofColumns?]
  dsimp only
  rw [dif_pos level, dif_pos distinct]

/-- **Frames are read back.** Whatever the bars or dividends are, their columns make a frame with a
row for each, and reading the frame gives just these, in their order. No day number is cut to 32
bits, and none leaves the calendar. -/
theorem frames_are_read_back :
    (∀ bs : List Bar, ofColumns? (barColumns bs) = some (ofBars bs) ∧
      (ofBars bs).height = bs.length ∧ (ofBars bs).bars = .ok bs) ∧
    (∀ ds : List Dividend, ofColumns? (dividendColumns ds) = some (ofDividends ds) ∧
      (ofDividends ds).height = ds.length ∧ (ofDividends ds).dividends = .ok ds) ∧
    ∀ d : Date, (Int32.ofInt d.dayNumber).toInt = d.dayNumber ∧
      Date.ofDayNumber? (Int32.ofInt d.dayNumber).toInt = some d := by
  refine ⟨fun bs => ?_, fun ds => ?_, fun d => ?_⟩
  · have made : ofColumns? (ofBars bs).columns = some (ofBars bs) := ofColumns?_columns rfl
    exact ⟨made, rfl, bars_ofBars bs⟩
  · have made : ofColumns? (ofDividends ds).columns = some (ofDividends ds) :=
      ofColumns?_columns rfl
    exact ⟨made, rfl, dividends_ofDividends ds⟩
  · have whole := toInt_ofInt_dayNumber d
    refine ⟨whole, ?_⟩
    rw [whole]
    exact Date.ofDayNumber?_dayNumber d

end Frame

end MarketDesk
