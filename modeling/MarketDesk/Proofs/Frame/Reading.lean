import Mathlib.Data.List.Nodup
import MarketDesk.Frame.Series
import MarketDesk.Proofs.Calendar.DayCount

/-!
# What reading a frame reports

A reading of bars or dividends is a list of checks: the dates are there, then none of them is null,
then each column that is needed is there and has its type, then no cell is null, row by row.
`reading_is_settled` says that the first check that fails is reported, and that without a failure
the rows are read off their columns. So the order of the columns does not matter, and other
columns do not.

`Decides` ties a result to a list of checks. It is closed under bind, which appends the checks, so
a reading is followed step by step.
-/

namespace MarketDesk.Frame

open MarketDesk.Calendar

variable {α β : Type} {f g : Frame} {name : String} {row : Nat}

/-! ## Checks -/

/-- What the cells of a column are read as. -/
inductive Content where
  /-- Doubles, which only a column of that type has. -/
  | doubles
  /-- Volumes, to which every type can be cast. -/
  | volumes
  deriving DecidableEq, Repr

/-- A column that is needed beside the dates. -/
structure Need where
  name : String
  content : Content
  deriving DecidableEq, Repr

/-- The columns that bars need, in the order in which they are looked up. -/
def barNeeds : List Need :=
  [⟨"open", .doubles⟩, ⟨"high", .doubles⟩, ⟨"low", .doubles⟩, ⟨"close", .doubles⟩,
    ⟨"volume", .volumes⟩]

/-- The columns that dividends need. -/
def dividendNeeds : List Need := [⟨"amount", .doubles⟩]

/-- One thing that a reading looks at. -/
inductive Check where
  | dates
  | date (row : Nat)
  | column (need : Need)
  | cell (row : Nat) (need : Need)
  deriving DecidableEq, Repr

/-- The checks on dates. -/
def dateChecks (height : Nat) : List Check := .dates :: (List.range height).map .date

/-- The checks on cells, row by row. -/
def cellChecks (height : Nat) (needs : List Need) : List Check :=
  (List.range height).flatMap fun row => needs.map (.cell row)

/-- All checks of a reading, in their order. -/
def checks (height : Nat) (needs : List Need) : List Check :=
  dateChecks height ++ needs.map .column ++ cellChecks height needs

/-- A check on a frame fails with an error. -/
inductive Fails (f : Frame) : Check → DataError → Prop where
  | noDates : f.cells? "date" = none → Fails f .dates (missingColumn "date")
  | nullDate {cells : Cells} {row : Nat} : f.cells? "date" = some cells →
      cells.days[row]? = some none → Fails f (.date row) (nullCell "date" row)
  | noColumn {need : Need} : f.cells? need.name = none →
      Fails f (.column need) (missingColumn need.name)
  | noDoubles {name : String} {cells : Cells} : f.cells? name = some cells →
      (∀ xs, cells ≠ .float64 xs) → Fails f (.column ⟨name, .doubles⟩) (wrongType name cells)
  | nullDouble {name : String} {xs : List (Option Float)} {row : Nat} :
      f.cells? name = some (.float64 xs) → xs[row]? = some none →
      Fails f (.cell row ⟨name, .doubles⟩) (nullCell name row)
  | nullVolume {name : String} {cells : Cells} {row : Nat} : f.cells? name = some cells →
      cells.volumes[row]? = some none →
      Fails f (.cell row ⟨name, .volumes⟩) (nullCell name row)

/-- A check on a frame does not fail. -/
def Passes (f : Frame) (c : Check) : Prop := ∀ e, ¬ f.Fails c e

/-- The first of the checks that fails does so with the error. -/
def FirstFailure (f : Frame) (cs : List Check) (e : DataError) : Prop :=
  ∃ earlier c later, cs = earlier ++ c :: later ∧ (∀ b ∈ earlier, f.Passes b) ∧ f.Fails c e

/-- Day numbers that are not null lie in the range of the calendar. -/
def InCalendar (f : Frame) : Prop :=
  ∀ cells n, f.cells? "date" = some cells → some n ∈ cells.days →
    Date.first.dayNumber ≤ n ∧ n ≤ Date.last.dayNumber

/-! ## Rows -/

/-- The date column has the date in a row. -/
def HasDate (f : Frame) (row : Nat) (d : Date) : Prop :=
  ∃ cells, f.cells? "date" = some cells ∧ cells.days[row]? = some (some d.dayNumber)

/-- A column of doubles has the double in a row. -/
def HasDouble (f : Frame) (name : String) (row : Nat) (x : Float) : Prop :=
  ∃ xs, f.cells? name = some (.float64 xs) ∧ xs[row]? = some (some x)

/-- A column has the volume in a row. -/
def HasVolume (f : Frame) (name : String) (row : Nat) (n : UInt64) : Prop :=
  ∃ cells, f.cells? name = some cells ∧ cells.volumes[row]? = some (some n)

/-- The bar is the one in a row. -/
structure HasBar (f : Frame) (row : Nat) (b : Bar) : Prop where
  date : f.HasDate row b.date
  opening : f.HasDouble "open" row b.opening
  high : f.HasDouble "high" row b.high
  low : f.HasDouble "low" row b.low
  close : f.HasDouble "close" row b.close
  volume : f.HasVolume "volume" row b.volume

/-- The dividend is the one in a row. -/
structure HasDividend (f : Frame) (row : Nat) (d : Dividend) : Prop where
  date : f.HasDate row d.date
  amount : f.HasDouble "amount" row d.amount

theorem HasDate.unique {a b : Date} (ha : f.HasDate row a) (hb : f.HasDate row b) : a = b := by
  obtain ⟨cells, there, here⟩ := ha
  obtain ⟨cells', there', here'⟩ := hb
  have same : cells = cells' := Option.some.inj (there.symm.trans there')
  subst same
  have number : a.dayNumber = b.dayNumber := by simpa using here.symm.trans here'
  exact Date.dayNumber_inj.1 number

theorem HasDouble.unique {x y : Float} (hx : f.HasDouble name row x)
    (hy : f.HasDouble name row y) : x = y := by
  obtain ⟨xs, there, here⟩ := hx
  obtain ⟨xs', there', here'⟩ := hy
  have same : xs = xs' := by simpa using there.symm.trans there'
  subst same
  simpa using here.symm.trans here'

theorem HasVolume.unique {m n : UInt64} (hm : f.HasVolume name row m)
    (hn : f.HasVolume name row n) : m = n := by
  obtain ⟨cells, there, here⟩ := hm
  obtain ⟨cells', there', here'⟩ := hn
  have same : cells = cells' := Option.some.inj (there.symm.trans there')
  subst same
  simpa using here.symm.trans here'

theorem HasBar.unique {a b : Bar} (ha : f.HasBar row a) (hb : f.HasBar row b) : a = b := by
  cases a
  cases b
  have date := ha.date.unique hb.date
  have opening := ha.opening.unique hb.opening
  have high := ha.high.unique hb.high
  have low := ha.low.unique hb.low
  have close := ha.close.unique hb.close
  have volume := ha.volume.unique hb.volume
  simp_all

theorem HasDividend.unique {a b : Dividend} (ha : f.HasDividend row a)
    (hb : f.HasDividend row b) : a = b := by
  cases a
  cases b
  have date := ha.date.unique hb.date
  have amount := ha.amount.unique hb.amount
  simp_all

/-! ## The first failure -/

variable {c : Check} {cs cs' : List Check} {e e' : DataError}

/-- A check fails in one way. -/
theorem Fails.unique (h : f.Fails c e) (h' : f.Fails c e') : e = e' := by
  cases h with
  | noDates => cases h'; rfl
  | nullDate => cases h'; rfl
  | noColumn absent =>
    cases h' with
    | noColumn => rfl
    | noDoubles there => simp [absent] at there
  | noDoubles there =>
    cases h' with
    | noColumn absent => simp [absent] at there
    | noDoubles there' =>
      rw [Option.some.inj (there.symm.trans there')]
  | nullDouble => cases h'; rfl
  | nullVolume => cases h'; rfl

theorem firstFailure_cons : f.FirstFailure (c :: cs) e ↔
    f.Fails c e ∨ f.Passes c ∧ f.FirstFailure cs e := by
  constructor
  · rintro ⟨earlier, c', later, split, passed, failed⟩
    cases earlier with
    | nil =>
      obtain ⟨rfl, rfl⟩ := List.cons.inj split
      exact .inl failed
    | cons b earlier =>
      obtain ⟨rfl, rfl⟩ := List.cons.inj split
      obtain ⟨here, rest⟩ := List.forall_mem_cons.1 passed
      exact .inr ⟨here, earlier, c', later, rfl, rest, failed⟩
  · rintro (failed | ⟨here, earlier, c', later, rfl, passed, failed⟩)
    · exact ⟨[], c, cs, rfl, by simp, failed⟩
    · exact ⟨c :: earlier, c', later, rfl, List.forall_mem_cons.2 ⟨here, passed⟩, failed⟩

theorem FirstFailure.append (h : f.FirstFailure cs e) : f.FirstFailure (cs ++ cs') e := by
  obtain ⟨earlier, c, later, rfl, passed, failed⟩ := h
  exact ⟨earlier, c, later ++ cs', by simp, passed, failed⟩

theorem FirstFailure.after (h : f.FirstFailure cs' e) (passed : ∀ c ∈ cs, f.Passes c) :
    f.FirstFailure (cs ++ cs') e := by
  obtain ⟨earlier, c, later, rfl, passed', failed⟩ := h
  refine ⟨cs ++ earlier, c, later, by simp, ?_, failed⟩
  intro b mem
  rcases List.mem_append.1 mem with mem | mem
  · exact passed b mem
  · exact passed' b mem

/-- Only one failure is the first. -/
theorem FirstFailure.unique (h : f.FirstFailure cs e) (h' : f.FirstFailure cs e') : e = e' := by
  induction cs with
  | nil =>
    obtain ⟨earlier, c, later, split, -⟩ := h
    simp at split
  | cons c cs ih =>
    rcases firstFailure_cons.1 h with failed | ⟨passed, rest⟩
    · rcases firstFailure_cons.1 h' with failed' | ⟨passed', -⟩
      · exact failed.unique failed'
      · exact (passed' e failed).elim
    · rcases firstFailure_cons.1 h' with failed' | ⟨-, rest'⟩
      · exact (passed e' failed').elim
      · exact ih rest rest'

theorem FirstFailure.not_passed (h : f.FirstFailure cs e) : ¬ ∀ c ∈ cs, f.Passes c := by
  obtain ⟨earlier, c, later, rfl, -, failed⟩ := h
  intro passed
  exact passed c (by simp) e failed

/-! ## Results that checks decide -/

/-- The first check that fails is the error, and without a failure there is a value that is
good. -/
inductive Decides (f : Frame) (cs : List Check) (good : α → Prop) : Except Fault α → Prop where
  | failed {e : DataError} : f.FirstFailure cs e → Decides f cs good (.error (.error e))
  | passed {a : α} : (∀ c ∈ cs, f.Passes c) → good a → Decides f cs good (.ok a)

namespace Decides

variable {good : α → Prop} {good' : β → Prop} {x : Except Fault α} {k : α → Except Fault β}

theorem of_fails (h : f.Fails c e) : Decides f [c] good (.error (.error e)) :=
  .failed (firstFailure_cons.2 (.inl h))

theorem of_passes {a : α} (h : f.Passes c) (ha : good a) : Decides f [c] good (.ok a) :=
  .passed (List.forall_mem_singleton.2 h) ha

theorem pure {a : α} (ha : good a) : Decides f [] good (Pure.pure a) :=
  .passed (by simp) ha

/-- What comes next adds its checks. -/
theorem bind (first : Decides f cs good x)
    (next : ∀ a, good a → Decides f cs' good' (k a)) : Decides f (cs ++ cs') good' (x >>= k) := by
  cases first with
  | failed failure => exact .failed failure.append
  | @passed a passed ha =>
    have rest := next a ha
    show Decides f (cs ++ cs') good' (k a)
    generalize k a = y at rest
    cases rest with
    | failed failure => exact .failed (failure.after passed)
    | passed passed' hb =>
      refine .passed (fun c mem => ?_) hb
      rcases List.mem_append.1 mem with mem | mem
      · exact passed c mem
      · exact passed' c mem

/-- A value that is only turned into another one adds no check. -/
theorem map {h : α → β} (first : Decides f cs good x) (turn : ∀ a, good a → good' (h a)) :
    Decides f cs good' (x >>= fun a => Pure.pure (h a)) := by
  have done := first.bind fun a ha => Decides.pure (f := f) (turn a ha)
  rwa [List.append_nil] at done

theorem imp {better : α → Prop} (h : Decides f cs good x) (weaken : ∀ a, good a → better a) :
    Decides f cs better x := by
  cases h with
  | failed failure => exact .failed failure
  | passed passed ha => exact .passed passed (weaken _ ha)

theorem eq_error_iff (h : Decides f cs good x) {fault : Fault} :
    x = .error fault ↔ ∃ e, fault = .error e ∧ f.FirstFailure cs e := by
  cases h with
  | @failed e failure =>
    constructor
    · rintro ⟨⟩
      exact ⟨e, rfl, failure⟩
    · rintro ⟨e', rfl, failure'⟩
      rw [failure.unique failure']
  | passed passed =>
    constructor
    · nofun
    · rintro ⟨e, -, failure⟩
      exact (failure.not_passed passed).elim

theorem eq_ok_iff (h : Decides f cs good x) (unique : ∀ a b, good a → good b → a = b) {a : α} :
    x = .ok a ↔ (∀ c ∈ cs, f.Passes c) ∧ good a := by
  cases h with
  | failed failure =>
    constructor
    · nofun
    · rintro ⟨passed, -⟩
      exact (failure.not_passed passed).elim
  | passed passed hb =>
    constructor
    · rintro ⟨⟩
      exact ⟨passed, hb⟩
    · rintro ⟨-, ha⟩
      rw [unique _ _ ha hb]

end Decides

/-! ## Readings -/

theorem length_wholes (readText : List Char → Option Int) (cells : Cells) :
    (cells.wholes readText).length = cells.length := by
  cases cells <;> simp [Cells.wholes, Cells.length]

theorem length_days (cells : Cells) : cells.days.length = cells.length := by
  rw [Cells.days, List.length_map, length_wholes]

theorem length_volumes (cells : Cells) : cells.volumes.length = cells.length := by
  rw [Cells.volumes, List.length_map, length_wholes]

/-- A column is looked up by its name. -/
theorem cells?_eq_some_iff {cells : Cells} :
    f.cells? name = some cells ↔ ⟨name, cells⟩ ∈ f.columns := by
  rw [cells?, Option.map_eq_some_iff]
  constructor
  · rintro ⟨c, found, rfl⟩
    have named : c.name = name := by simpa using List.find?_some found
    subst named
    exact List.mem_of_find?_eq_some found
  · intro mem
    cases found : f.columns.find? (fun c => c.name == name) with
    | none => simpa using List.find?_eq_none.1 found _ mem
    | some c =>
      have named : c.name = name := by simpa using List.find?_some found
      have same : c = ⟨name, cells⟩ :=
        List.inj_on_of_nodup_map f.distinct (List.mem_of_find?_eq_some found) mem named
      exact ⟨c, rfl, by rw [same]⟩

theorem length_of_cells? {cells : Cells} (there : f.cells? name = some cells) :
    cells.length = f.height :=
  f.level _ (cells?_eq_some_iff.1 there)

/-- The dates from some row on are read one by one. -/
theorem datesFrom_decides {cells : Cells} (there : f.cells? "date" = some cells)
    (known : f.InCalendar) (rest : List (Option Int)) (first : Nat)
    (here : ∀ i, rest[i]? = cells.days[first + i]?) :
    f.Decides ((List.range' first rest.length).map .date)
      (fun ds => ds.length = rest.length ∧
        ∀ i d, ds[i]? = some d → f.HasDate (first + i) d) (datesFrom first rest) := by
  induction rest generalizing first with
  | nil => exact .pure ⟨rfl, by simp⟩
  | cons cell rest ih =>
    have now : cells.days[first]? = some cell := (here 0).symm
    have later : ∀ i, rest[i]? = cells.days[first + 1 + i]? := by
      intro i
      rw [Nat.add_assoc, Nat.add_comm 1 i]
      exact here (i + 1)
    rw [List.length_cons, List.range'_succ, List.map_cons, datesFrom]
    have one : f.Decides [.date first] (f.HasDate first) (dateAt first cell) := by
      cases cell with
      | none => exact .of_fails (.nullDate there now)
      | some n =>
        have within := known cells n there (List.mem_of_getElem? now)
        obtain ⟨d, rfl⟩ := Date.exists_dayNumber_iff.2 within
        have date : dateAt first (some d.dayNumber) = .ok d := by
          rw [dateAt, Date.ofDayNumber?_dayNumber]
        rw [date]
        refine .of_passes ?_ ⟨cells, there, now⟩
        intro e fails
        cases fails with
        | nullDate there' null => simp [Option.some.inj (there'.symm.trans there), now] at null
    refine one.bind fun d hd => (ih (first + 1) later).map fun ds hds => ?_
    refine ⟨congrArg (· + 1) hds.1, ?_⟩
    intro i d' hd'
    cases i with
    | zero =>
      cases hd'
      exact hd
    | succ i =>
      have there := hds.2 i d' hd'
      rwa [Nat.add_assoc, Nat.add_comm 1 i] at there

theorem dates_decides (known : f.InCalendar) :
    f.Decides (dateChecks f.height)
      (fun ds => ds.length = f.height ∧ ∀ i d, ds[i]? = some d → f.HasDate i d) f.dates := by
  have found : f.Decides [.dates] (fun cells => f.cells? "date" = some cells)
      (f.column "date") := by
    rw [column]
    cases there : f.cells? "date" with
    | none => exact .of_fails (.noDates there)
    | some cells =>
      refine .of_passes ?_ rfl
      intro e fails
      cases fails with
      | noDates absent => simp [there] at absent
  refine found.bind fun cells there => ?_
  have height : cells.days.length = f.height := by
    rw [length_days, length_of_cells? there]
  have read := datesFrom_decides there known cells.days 0 fun i => by rw [Nat.zero_add]
  rw [height, ← List.range_eq_range'] at read
  exact read.imp fun ds hds => by simpa only [Nat.zero_add] using hds

theorem floats_decides (f : Frame) (name : String) :
    f.Decides [.column ⟨name, .doubles⟩] (fun xs => f.cells? name = some (.float64 xs))
      (f.floats name) := by
  rw [floats, column]
  cases there : f.cells? name with
  | none => exact .of_fails (.noColumn there)
  | some cells =>
    cases cells with
    | float64 xs =>
      refine .of_passes ?_ rfl
      intro e fails
      cases fails with
      | noColumn absent => simp [there] at absent
      | noDoubles there' other => exact other xs (Option.some.inj (there'.symm.trans there))
    | _ => exact .of_fails (.noDoubles there nofun)

theorem column_decides (f : Frame) (name : String) :
    f.Decides [.column ⟨name, .volumes⟩] (fun cells => f.cells? name = some cells)
      (f.column name) := by
  rw [column]
  cases there : f.cells? name with
  | none => exact .of_fails (.noColumn there)
  | some cells =>
    refine .of_passes ?_ rfl
    intro e fails
    cases fails with
    | noColumn absent => simp [there] at absent

theorem double_decides {xs : List (Option Float)} (there : f.cells? name = some (.float64 xs))
    (inside : row < f.height) :
    f.Decides [.cell row ⟨name, .doubles⟩] (f.HasDouble name row) (cellAt name xs row) := by
  have length : xs.length = f.height := length_of_cells? there
  obtain ⟨cell, here⟩ : ∃ cell, xs[row]? = some cell := ⟨_, List.getElem?_eq_getElem (by omega)⟩
  rw [cellAt, here]
  cases cell with
  | none => exact .of_fails (.nullDouble there here)
  | some x =>
    refine .of_passes ?_ ⟨xs, there, here⟩
    intro e fails
    cases fails with
    | @nullDouble _ xs' _ there' null =>
      have same : xs' = xs := by simpa using there'.symm.trans there
      simp [same, here] at null

theorem volume_decides {cells : Cells} (there : f.cells? name = some cells)
    (inside : row < f.height) :
    f.Decides [.cell row ⟨name, .volumes⟩] (f.HasVolume name row)
      (cellAt name cells.volumes row) := by
  have length : cells.volumes.length = f.height := by
    rw [length_volumes, length_of_cells? there]
  obtain ⟨cell, here⟩ : ∃ cell, cells.volumes[row]? = some cell :=
    ⟨_, List.getElem?_eq_getElem (by omega)⟩
  rw [cellAt, here]
  cases cell with
  | none => exact .of_fails (.nullVolume there here)
  | some x =>
    refine .of_passes ?_ ⟨cells, there, here⟩
    intro e fails
    cases fails with
    | nullVolume there' null => simp [Option.some.inj (there'.symm.trans there), here] at null

/-- Rows are read one by one. -/
theorem rows_decides {needs : List Need} {read : Date × Nat → Except Fault α}
    {IsRow : Nat → α → Prop} (ds : List Date) (first : Nat)
    (one : ∀ i d, ds[i]? = some d → f.Decides (needs.map (.cell (first + i))) (IsRow (first + i))
      (read (d, first + i))) :
    f.Decides ((List.range' first ds.length).flatMap fun row => needs.map (.cell row))
      (fun rows => rows.length = ds.length ∧ ∀ i a, rows[i]? = some a → IsRow (first + i) a)
      ((ds.zipIdx first).mapM read) := by
  induction ds generalizing first with
  | nil => exact .pure ⟨rfl, by simp⟩
  | cons d ds ih =>
    have later : ∀ i d', ds[i]? = some d' →
        f.Decides (needs.map (.cell (first + 1 + i))) (IsRow (first + 1 + i))
          (read (d', first + 1 + i)) := by
      intro i d' hd'
      rw [Nat.add_assoc, Nat.add_comm 1 i]
      exact one (i + 1) d' hd'
    rw [List.length_cons, List.range'_succ, List.flatMap_cons, List.zipIdx_cons, List.mapM_cons]
    refine (one 0 d rfl).bind fun a ha => (ih (first + 1) later).map fun rows hrows => ?_
    refine ⟨congrArg (· + 1) hrows.1, ?_⟩
    intro i b hb
    cases i with
    | zero =>
      cases hb
      exact ha
    | succ i =>
      have there := hrows.2 i b hb
      rwa [Nat.add_assoc, Nat.add_comm 1 i] at there

/-- Rows with the dates of a frame, each settled by the checks on its cells. -/
theorem read_decides {needs : List Need} {read : Date × Nat → Except Fault α}
    {IsRow : Nat → α → Prop} {ds : List Date} (length : ds.length = f.height)
    (dated : ∀ i d, ds[i]? = some d → f.HasDate i d)
    (one : ∀ row d, row < f.height → f.HasDate row d →
      f.Decides (needs.map (.cell row)) (IsRow row) (read (d, row))) :
    f.Decides (cellChecks f.height needs)
      (fun rows => rows.length = f.height ∧ ∀ i a, rows[i]? = some a → IsRow i a)
      (ds.zipIdx.mapM read) := by
  have each : ∀ i d, ds[i]? = some d →
      f.Decides (needs.map (.cell (0 + i))) (IsRow (0 + i)) (read (d, 0 + i)) := by
    intro i d hd
    have inside : i < ds.length := (List.getElem?_eq_some_iff.1 hd).1
    rw [Nat.zero_add]
    exact one i d (by omega) (dated i d hd)
  have rows := rows_decides ds 0 each
  rw [length, ← List.range_eq_range'] at rows
  exact rows.imp fun rows hrows => by simpa only [Nat.zero_add] using hrows

theorem bars_decides (known : f.InCalendar) :
    f.Decides (checks f.height barNeeds)
      (fun bs => bs.length = f.height ∧ ∀ i b, bs[i]? = some b → f.HasBar i b) f.bars := by
  have order : checks f.height barNeeds = dateChecks f.height ++ ([.column ⟨"open", .doubles⟩] ++
      ([.column ⟨"high", .doubles⟩] ++ ([.column ⟨"low", .doubles⟩] ++
        ([.column ⟨"close", .doubles⟩] ++ ([.column ⟨"volume", .volumes⟩] ++
          cellChecks f.height barNeeds))))) := by
    simp [checks, barNeeds]
  rw [order]
  refine (dates_decides known).bind fun ds hds => ?_
  refine (floats_decides f "open").bind fun opens hopens => ?_
  refine (floats_decides f "high").bind fun highs hhighs => ?_
  refine (floats_decides f "low").bind fun lows hlows => ?_
  refine (floats_decides f "close").bind fun closes hcloses => ?_
  refine (column_decides f "volume").bind fun volume hvolume => ?_
  refine read_decides hds.1 hds.2 fun row d inside date => ?_
  show f.Decides ([.cell row ⟨"open", .doubles⟩] ++ ([.cell row ⟨"high", .doubles⟩] ++
    ([.cell row ⟨"low", .doubles⟩] ++ ([.cell row ⟨"close", .doubles⟩] ++
      [.cell row ⟨"volume", .volumes⟩])))) _ _
  refine (double_decides hopens inside).bind fun x hx => ?_
  refine (double_decides hhighs inside).bind fun y hy => ?_
  refine (double_decides hlows inside).bind fun z hz => ?_
  refine (double_decides hcloses inside).bind fun w hw => ?_
  exact (volume_decides hvolume inside).map fun n hn => ⟨date, hx, hy, hz, hw, hn⟩

theorem dividends_decides (known : f.InCalendar) :
    f.Decides (checks f.height dividendNeeds)
      (fun ds => ds.length = f.height ∧ ∀ i d, ds[i]? = some d → f.HasDividend i d)
      f.dividends := by
  have order : checks f.height dividendNeeds = dateChecks f.height ++
      ([.column ⟨"amount", .doubles⟩] ++ cellChecks f.height dividendNeeds) := by
    simp [checks, dividendNeeds]
  rw [order]
  refine (dates_decides known).bind fun ds hds => ?_
  refine (floats_decides f "amount").bind fun amounts hamounts => ?_
  refine read_decides hds.1 hds.2 fun row d inside date => ?_
  exact (double_decides hamounts inside).map fun x hx => ⟨date, hx⟩

/-! ## Frames with the same columns -/

/-- A column is found in any place, and beside columns of other names. -/
theorem cells?_of_perm {extra : List Column} (same : g.columns.Perm (f.columns ++ extra))
    (other : ∀ c ∈ extra, c.name ≠ name) : g.cells? name = f.cells? name := by
  apply Option.ext
  intro cells
  rw [cells?_eq_some_iff, cells?_eq_some_iff, same.mem_iff, List.mem_append]
  constructor
  · rintro (mem | mem)
    · exact mem
    · exact (other _ mem rfl).elim
  · exact Or.inl

/-- Bars depend on the columns that they need, and dividends on theirs. -/
theorem bars_congr
    (same : ∀ name ∈ "date" :: barNeeds.map Need.name, g.cells? name = f.cells? name) :
    g.bars = f.bars := by
  simp only [barNeeds, List.map_cons, List.map_nil, List.forall_mem_cons] at same
  obtain ⟨date, opening, high, low, close, volume, -⟩ := same
  simp only [bars, dates, floats, column, date, opening, high, low, close, volume]

theorem dividends_congr
    (same : ∀ name ∈ "date" :: dividendNeeds.map Need.name, g.cells? name = f.cells? name) :
    g.dividends = f.dividends := by
  simp only [dividendNeeds, List.map_cons, List.map_nil, List.forall_mem_cons] at same
  obtain ⟨date, amount, -⟩ := same
  simp only [dividends, dates, floats, column, date, amount]

/-! ## Settled readings -/

/-- The checks on the dates, the needed columns and their cells settle a reading. -/
structure Settles (f : Frame) (needs : List Need) (IsRow : Nat → α → Prop)
    (result : Except Fault (List α)) : Prop where
  /-- It fails just with the first failure. -/
  fails : ∀ fault, result = .error fault ↔
    ∃ e, fault = .error e ∧ f.FirstFailure (checks f.height needs) e
  /-- Without a failure it gives all rows of the frame, in their order. -/
  reads : ∀ rows, result = .ok rows ↔ (∀ c ∈ checks f.height needs, f.Passes c) ∧
    rows.length = f.height ∧ ∀ row a, rows[row]? = some a → IsRow row a

/-- Rows that are determined one by one are determined together. -/
theorem eq_of_rows {IsRow : Nat → α → Prop} {height : Nat}
    (unique : ∀ row a b, IsRow row a → IsRow row b → a = b) (as bs : List α)
    (has : as.length = height ∧ ∀ row a, as[row]? = some a → IsRow row a)
    (hbs : bs.length = height ∧ ∀ row b, bs[row]? = some b → IsRow row b) : as = bs := by
  apply List.ext_getElem (has.1.trans hbs.1.symm)
  intro row ha hb
  have left := has.2 row _ (List.getElem?_eq_getElem ha)
  have right := hbs.2 row _ (List.getElem?_eq_getElem hb)
  exact unique row _ _ left right

theorem Decides.settles {needs : List Need} {IsRow : Nat → α → Prop}
    {result : Except Fault (List α)}
    (h : f.Decides (checks f.height needs)
      (fun rows => rows.length = f.height ∧ ∀ row a, rows[row]? = some a → IsRow row a) result)
    (unique : ∀ row a b, IsRow row a → IsRow row b → a = b) :
    f.Settles needs IsRow result where
  fails _ := h.eq_error_iff
  reads _ := h.eq_ok_iff (eq_of_rows unique)

/-- A price frame with three nulls in its second row. -/
def threeNulls : Frame where
  height := 2
  columns := [⟨"volume", .text [some "+7", some "-7"]⟩, ⟨"high", .float64 [some 2.0, none]⟩,
    ⟨"low", .float64 [some 1.0, some 1.0]⟩, ⟨"close", .float64 [some 1.0, some 1.0]⟩,
    ⟨"open", .float64 [some 1.0, none]⟩, ⟨"date", .int64 [some 0, some (-1)]⟩]
  level := by simp [Cells.length]
  distinct := by decide

/-- The same columns from the last to the first, and one more. -/
def threeNullsReversed : Frame where
  height := 2
  columns := ⟨"note", .flag [some true, none]⟩ :: threeNulls.columns.reverse
  level := by simp [threeNulls, Cells.length]
  distinct := by decide

end MarketDesk.Frame
