import MarketDesk.Calendar.Date
import MarketDesk.Word

/-!
# Counting days

Day numbers and days of the calendar stand for each other: `ofDayNumber?` finds a day just if it
has the number. A year is found by its place in a cycle of 400 years, a month by taking the
lengths of the months before it away. The numbers have no gap, and they stand in the order of the
calendar, which compares years, months and days of the month.
-/

namespace MarketDesk.Calendar

/-! ## Years -/

/-- The number of days in a year. -/
def yearLength (year : Int) : Nat := if isLeap year then 366 else 365

theorem isLeap_iff (year : Int) :
    isLeap year = true ↔ year % 4 = 0 ∧ (year % 100 ≠ 0 ∨ year % 400 = 0) := by
  simp [isLeap]

/-- A year by its place in the cycle: a count of cycles, centuries, periods of four years and
years before it. -/
theorem exists_cycle (year : Int) :
    ∃ cycle : Int, ∃ century four one : Nat, century ≤ 3 ∧ four ≤ 24 ∧ one ≤ 3 ∧
      year = 400 * cycle + 100 * century + 4 * four + one + 1 := by
  refine ⟨(year - 1) / 400, ((year - 1) % 400 / 100).toNat, ((year - 1) % 100 / 4).toNat,
    ((year - 1) % 4).toNat, ?_⟩
  omega

section Cycle

variable {cycle : Int} {century four one rest : Nat} {year : Int}

/-- Whether a year is a leap year, by its place in the cycle. -/
theorem yearLength_of_cycle (hc : century ≤ 3) (hf : four ≤ 24) (ho : one ≤ 3)
    (place : year = 400 * cycle + 100 * century + 4 * four + one + 1) :
    yearLength year = if one = 3 ∧ (four ≠ 24 ∨ century = 3) then 366 else 365 := by
  have same : isLeap year = true ↔ one = 3 ∧ (four ≠ 24 ∨ century = 3) := by
    rw [isLeap_iff, place]
    omega
  rw [yearLength]
  simp only [same]

theorem daysBeforeYear_of_cycle (hc : century ≤ 3) (hf : four ≤ 24) (ho : one ≤ 3)
    (place : year = 400 * cycle + 100 * century + 4 * four + one + 1) :
    daysBeforeYear year = 146097 * cycle + 36524 * century + 1461 * four + 365 * one := by
  rw [daysBeforeYear, place]
  omega

/-- The year of a day is found by its place in the cycle. -/
theorem yearAndRest_of_cycle (hc : century ≤ 3) (hf : four ≤ 24) (ho : one ≤ 3)
    (hr : rest < if one = 3 ∧ (four ≠ 24 ∨ century = 3) then 366 else 365) :
    yearAndRest (146097 * cycle + 36524 * century + 1461 * four + 365 * one + rest) =
      (400 * cycle + 100 * century + 4 * four + one + 1, rest) := by
  have within : 36524 * century + 1461 * four + 365 * one + rest < 146097 := by
    split at hr <;> omega
  have days : ((146097 * cycle + 36524 * century + 1461 * four + 365 * one + rest) %
      146097).toNat = 36524 * century + 1461 * four + 365 * one + rest := by
    omega
  have cycles : (146097 * cycle + 36524 * century + 1461 * four + 365 * one + rest) / 146097 =
      cycle := by
    omega
  have centuries : min 3 ((36524 * century + 1461 * four + 365 * one + rest) / 36524) =
      century := by
    split at hr <;> omega
  have fours : (36524 * century + 1461 * four + 365 * one + rest - 36524 * century) / 1461 =
      four := by
    split at hr <;> omega
  have ones : (36524 * century + 1461 * four + 365 * one + rest - 36524 * century) % 1461 =
      365 * one + rest := by
    split at hr <;> omega
  have years : min 3 ((365 * one + rest) / 365) = one := by
    split at hr <;> omega
  unfold yearAndRest
  dsimp only
  rw [days, cycles, centuries, fours, ones, years, Nat.add_sub_cancel_left]

end Cycle

/-- The year of a day and the days of the year before it. -/
theorem yearAndRest_daysBeforeYear {year : Int} {rest : Nat} (h : rest < yearLength year) :
    yearAndRest (daysBeforeYear year + rest) = (year, rest) := by
  obtain ⟨cycle, century, four, one, hc, hf, ho, place⟩ := exists_cycle year
  rw [yearLength_of_cycle hc hf ho place] at h
  rw [daysBeforeYear_of_cycle hc hf ho place, yearAndRest_of_cycle hc hf ho h, place]

/-- Every count of days from the beginning of year 1 falls in some year. -/
theorem exists_year (days : Int) :
    ∃ year, ∃ rest : Nat, rest < yearLength year ∧ days = daysBeforeYear year + rest := by
  obtain ⟨century, left, hc, hleft, split₁⟩ : ∃ century left : Nat, century ≤ 3 ∧
      (left < 36524 ∨ (century = 3 ∧ left = 36524)) ∧
      (days % 146097).toNat = 36524 * century + left := by
    by_cases last : days % 146097 = 146096
    · exact ⟨3, 36524, by omega⟩
    · exact ⟨(days % 146097).toNat / 36524, (days % 146097).toNat % 36524, by omega⟩
  obtain ⟨four, short, hf, hshort, split₂⟩ : ∃ four short : Nat, four ≤ 24 ∧
      (short < 1460 ∨ (short = 1460 ∧ (four ≠ 24 ∨ century = 3))) ∧
      left = 1461 * four + short :=
    ⟨left / 1461, left % 1461, by omega⟩
  obtain ⟨one, rest, ho, hr, split₃⟩ : ∃ one rest : Nat, one ≤ 3 ∧
      (rest < 365 ∨ (rest = 365 ∧ one = 3 ∧ short = 1460)) ∧ short = 365 * one + rest := by
    by_cases last : short = 1460
    · exact ⟨3, 365, by omega⟩
    · exact ⟨short / 365, short % 365, by omega⟩
  refine ⟨400 * (days / 146097) + 100 * century + 4 * four + one + 1, rest, ?_, ?_⟩
  · rw [yearLength_of_cycle hc hf ho rfl]
    split <;> omega
  · rw [daysBeforeYear_of_cycle hc hf ho rfl]
    omega

theorem daysBeforeYear_succ (year : Int) :
    daysBeforeYear (year + 1) = daysBeforeYear year + yearLength year := by
  unfold daysBeforeYear yearLength
  simp only [isLeap_iff, Int.add_sub_cancel]
  split <;> omega

theorem daysBeforeYear_mono {a b : Int} (h : a ≤ b) : daysBeforeYear a ≤ daysBeforeYear b := by
  unfold daysBeforeYear
  dsimp only
  omega

/-! ## Months -/

/-- The number of days in some months one after the other. -/
def monthsLength (year : Int) : Nat → Nat → Nat
  | _, 0 => 0
  | first, count + 1 => monthLength year first + monthsLength year (first + 1) count

theorem foldl_monthLength (year : Int) (first count days : Nat) :
    (List.range' first count).foldl (fun days m => days + monthLength year m) days =
      days + monthsLength year first count := by
  induction count generalizing first days with
  | zero => rfl
  | succ count ih => rw [List.range'_succ, List.foldl_cons, ih, monthsLength, Nat.add_assoc]

theorem daysBeforeMonth_eq (year : Int) (month : Nat) :
    daysBeforeMonth year month = monthsLength year 1 (month - 1) := by
  rw [daysBeforeMonth, foldl_monthLength, Nat.zero_add]

theorem monthsLength_add (year : Int) (first a b : Nat) :
    monthsLength year first (a + b) =
      monthsLength year first a + monthsLength year (first + a) b := by
  induction a generalizing first with
  | zero => simp [monthsLength]
  | succ a ih =>
    rw [Nat.succ_add, monthsLength, monthsLength, ih, Nat.add_assoc, Nat.add_assoc,
      Nat.add_comm 1 a]

/-- The twelve months make up the year. -/
theorem monthsLength_twelve (year : Int) : monthsLength year 1 12 = yearLength year := by
  unfold yearLength
  cases leap : isLeap year <;> simp [monthsLength, monthLength, leap]

/-- A day lies in the month that is left when the lengths of the months before it are taken away. -/
theorem monthAndDay?_eq_some_iff {year : Int} {first count rest month day : Nat} :
    monthAndDay? year (List.range' first count) rest = some (month, day) ↔
      ∃ k < count, month = first + k ∧ 1 ≤ day ∧ day ≤ monthLength year month ∧
        rest = monthsLength year first k + (day - 1) := by
  induction count generalizing first rest with
  | zero => simp [monthAndDay?]
  | succ count ih =>
    rw [List.range'_succ, monthAndDay?]
    split
    next here =>
      rw [Option.some.injEq, Prod.mk.injEq]
      constructor
      · rintro ⟨rfl, rfl⟩
        exact ⟨0, by omega, rfl, by omega, by omega, by simp [monthsLength]⟩
      · rintro ⟨k, hk, rfl, low, high, split⟩
        cases k with
        | zero =>
          rw [monthsLength] at split
          exact ⟨rfl, by omega⟩
        | succ k =>
          rw [monthsLength] at split
          omega
    next later =>
      rw [ih]
      constructor
      · rintro ⟨k, hk, rfl, low, high, split⟩
        refine ⟨k + 1, by omega, by omega, low, high, ?_⟩
        rw [monthsLength]
        omega
      · rintro ⟨k, hk, rfl, low, high, split⟩
        cases k with
        | zero =>
          rw [monthsLength] at split
          rw [Nat.add_zero] at high
          omega
        | succ k =>
          rw [monthsLength] at split
          exact ⟨k, by omega, by omega, low, high, by omega⟩

/-- The days of a year before one of its days are fewer than those of the year. -/
theorem monthsLength_lt_yearLength {year : Int} {k day : Nat} (hk : k < 12) (low : 1 ≤ day)
    (high : day ≤ monthLength year (1 + k)) :
    monthsLength year 1 k + (day - 1) < yearLength year := by
  have split : 12 = k + ((11 - k) + 1) := by omega
  rw [← monthsLength_twelve, split, monthsLength_add, monthsLength]
  omega

/-- Every day of some months lies in one of them. -/
theorem exists_month {year : Int} {first count rest : Nat}
    (short : rest < monthsLength year first count) :
    ∃ k day, k < count ∧ 1 ≤ day ∧ day ≤ monthLength year (first + k) ∧
      rest = monthsLength year first k + (day - 1) := by
  induction count generalizing first rest with
  | zero => simp [monthsLength] at short
  | succ count ih =>
    rw [monthsLength] at short
    by_cases here : rest < monthLength year first
    · exact ⟨0, rest + 1, by omega, by omega, here, by simp [monthsLength]⟩
    · have left : rest - monthLength year first < monthsLength year (first + 1) count := by omega
      obtain ⟨k, day, hk, low, high, split⟩ := ih left
      refine ⟨k + 1, day, by omega, low, ?_, ?_⟩
      · rwa [Nat.add_assoc, Nat.add_comm 1 k] at high
      · rw [monthsLength]
        omega

/-! ## Days -/

namespace Date

theorem month_eq (d : Date) :
    ∃ k < 12, d.month = 1 + k ∧ 1 ≤ d.day ∧ d.day ≤ monthLength d.year d.month := by
  obtain ⟨-, -, hm, hm', hd, hd'⟩ := d.civil
  exact ⟨d.month - 1, by omega, by omega, hd, hd'⟩

/-- A day number counts the days before the year, the months before the month, and the days. -/
theorem dayNumber_eq {d : Date} {k : Nat} (month : d.month = 1 + k) :
    d.dayNumber + epochOffset =
      daysBeforeYear d.year + (monthsLength d.year 1 k + (d.day - 1) : Nat) := by
  rw [dayNumber, daysBeforeMonth_eq, month, Nat.add_sub_cancel_left]
  omega

/-- The number of a day finds the day. -/
theorem ofDayNumber?_dayNumber (d : Date) : ofDayNumber? d.dayNumber = some d := by
  obtain ⟨k, hk, month, low, high⟩ := d.month_eq
  have rest := monthsLength_lt_yearLength hk low (month ▸ high)
  have found : monthAndDay? d.year (List.range' 1 12) (monthsLength d.year 1 k + (d.day - 1)) =
      some (d.month, d.day) :=
    monthAndDay?_eq_some_iff.2 ⟨k, hk, month, low, high, rfl⟩
  rw [ofDayNumber?, dayNumber_eq month, yearAndRest_daysBeforeYear rest]
  dsimp only
  rw [found]
  exact dif_pos d.civil

/-- A day that is found has the number that was looked for. -/
theorem dayNumber_of_ofDayNumber? {n : Int} {d : Date} (h : ofDayNumber? n = some d) :
    d.dayNumber = n := by
  obtain ⟨year, rest, short, days⟩ := exists_year (n + epochOffset)
  rw [ofDayNumber?, days, yearAndRest_daysBeforeYear short] at h
  obtain ⟨⟨month, day⟩, found, made⟩ := Option.bind_eq_some_iff.1 h
  obtain ⟨k, -, rfl, -, -, rfl⟩ := monthAndDay?_eq_some_iff.1 found
  dsimp only at made
  unfold ofCivil? at made
  split at made
  next civil =>
    cases made
    have count := dayNumber_eq (d := ⟨year, 1 + k, day, civil⟩) rfl
    dsimp only at count
    omega
  next => cases made

theorem ofDayNumber?_eq_some_iff {n : Int} {d : Date} :
    ofDayNumber? n = some d ↔ d.dayNumber = n := by
  constructor
  · exact dayNumber_of_ofDayNumber?
  · rintro rfl
    exact ofDayNumber?_dayNumber d

/-- Days with one number are one day. -/
theorem dayNumber_inj {a b : Date} : a.dayNumber = b.dayNumber ↔ a = b := by
  constructor
  · intro h
    have found := ofDayNumber?_dayNumber a
    rw [h, ofDayNumber?_dayNumber b] at found
    exact (Option.some.inj found).symm
  · rintro rfl
    rfl

theorem notAfter_iff {a b : Date} : a.notAfter b = true ↔ a.dayNumber ≤ b.dayNumber := by
  rw [notAfter, decide_eq_true_eq]

theorem notAfter_trans (a b c : Date) (hab : a.notAfter b = true) (hbc : b.notAfter c = true) :
    a.notAfter c = true := by
  rw [notAfter_iff] at hab hbc ⊢
  omega

theorem notAfter_total (a b : Date) : (a.notAfter b || b.notAfter a) = true := by
  rw [Bool.or_eq_true, notAfter_iff, notAfter_iff]
  omega

/-- Days that are not after each other are one day. -/
theorem eq_of_notAfter {a b : Date} (hab : a.notAfter b = true) (hba : b.notAfter a = true) :
    a = b :=
  dayNumber_inj.1 (Int.le_antisymm (notAfter_iff.1 hab) (notAfter_iff.1 hba))

/-- The numbers of days are far inside 32 bits. -/
theorem dayNumber_isSigned32 (d : Date) : Word.IsSigned32 d.dayNumber := by
  obtain ⟨k, hk, month, low, high⟩ := d.month_eq
  have rest := monthsLength_lt_yearLength hk low (month ▸ high)
  have count := dayNumber_eq month
  have length : yearLength d.year ≤ 366 := by
    rw [yearLength]
    split <;> omega
  obtain ⟨least, greatest, -⟩ := d.civil
  unfold minYear at least
  unfold maxYear at greatest
  unfold daysBeforeYear epochOffset at count
  unfold Word.IsSigned32
  dsimp only at count
  omega

/-! ## The range of day numbers -/

/-- The first day of the calendar. -/
def first : Date := ⟨minYear, 1, 1, by decide⟩

/-- The last day of the calendar. -/
def last : Date := ⟨maxYear, 12, 31, by decide⟩

/-- A day number is counted from the beginning of the year of its day. -/
theorem exists_dayNumber_eq (d : Date) : ∃ rest : Nat, rest < yearLength d.year ∧
    d.dayNumber + epochOffset = daysBeforeYear d.year + rest := by
  obtain ⟨k, hk, month, low, high⟩ := d.month_eq
  exact ⟨_, monthsLength_lt_yearLength hk low (month ▸ high), dayNumber_eq month⟩

/-- Each of the days of a year is one of the calendar if the year is. -/
theorem exists_of_rest {year : Int} {rest : Nat} (least : minYear ≤ year) (most : year ≤ maxYear)
    (short : rest < yearLength year) :
    ∃ d : Date, d.dayNumber + epochOffset = daysBeforeYear year + rest := by
  rw [← monthsLength_twelve] at short
  obtain ⟨k, day, hk, low, high, rfl⟩ := exists_month short
  refine ⟨⟨year, 1 + k, day, least, most, by omega, by omega, low, high⟩, ?_⟩
  exact dayNumber_eq rfl

/-- The numbers of the days of the calendar have no gap. -/
theorem exists_dayNumber_iff {n : Int} :
    (∃ d : Date, d.dayNumber = n) ↔ first.dayNumber ≤ n ∧ n ≤ last.dayNumber := by
  have least : first.dayNumber + epochOffset = daysBeforeYear minYear := by decide
  have most : last.dayNumber + epochOffset = daysBeforeYear (maxYear + 1) - 1 := by decide
  constructor
  · rintro ⟨d, rfl⟩
    obtain ⟨rest, short, number⟩ := d.exists_dayNumber_eq
    have whole := daysBeforeYear_succ d.year
    have lower : daysBeforeYear minYear ≤ daysBeforeYear d.year := daysBeforeYear_mono d.civil.1
    have upper : daysBeforeYear (d.year + 1) ≤ daysBeforeYear (maxYear + 1) :=
      daysBeforeYear_mono (by have := d.civil.2.1; omega)
    omega
  · rintro ⟨lower, upper⟩
    obtain ⟨year, rest, short, number⟩ := exists_year (n + epochOffset)
    have whole := daysBeforeYear_succ year
    have low : minYear ≤ year := by
      apply Int.not_lt.1
      intro early
      have before : daysBeforeYear (year + 1) ≤ daysBeforeYear minYear := daysBeforeYear_mono early
      omega
    have high : year ≤ maxYear := by
      apply Int.not_lt.1
      intro late
      have after : daysBeforeYear (maxYear + 1) ≤ daysBeforeYear year := daysBeforeYear_mono late
      omega
    obtain ⟨d, found⟩ := exists_of_rest low high short
    exact ⟨d, by omega⟩

/-! ## The order of the calendar -/

/-- The day stands earlier in the calendar: the years are compared first, then the months, then the
days of the month. -/
def IsBefore (a b : Date) : Prop :=
  a.year < b.year ∨
    a.year = b.year ∧ (a.month < b.month ∨ a.month = b.month ∧ a.day < b.day)

instance (a b : Date) : Decidable (a.IsBefore b) := inferInstanceAs (Decidable (_ ∨ _))

theorem isBefore_trichotomy (a b : Date) : a.IsBefore b ∨ a = b ∨ b.IsBefore a := by
  obtain ⟨year, month, day, _⟩ := a
  obtain ⟨year', month', day', _⟩ := b
  rw [mk.injEq]
  unfold IsBefore
  dsimp only
  omega

theorem dayNumber_lt_of_year_lt {a b : Date} (h : a.year < b.year) :
    a.dayNumber < b.dayNumber := by
  obtain ⟨rest, short, number⟩ := a.exists_dayNumber_eq
  obtain ⟨rest', -, number'⟩ := b.exists_dayNumber_eq
  have whole := daysBeforeYear_succ a.year
  have later : daysBeforeYear (a.year + 1) ≤ daysBeforeYear b.year := daysBeforeYear_mono h
  omega

theorem dayNumber_lt_of_month_lt {a b : Date} (year : a.year = b.year) (h : a.month < b.month) :
    a.dayNumber < b.dayNumber := by
  obtain ⟨k, -, month, low, high⟩ := a.month_eq
  obtain ⟨k', -, month', -, -⟩ := b.month_eq
  have number := dayNumber_eq month
  have number' := dayNumber_eq month'
  -- The month of the first day ends before that of the second begins.
  obtain ⟨between, rfl⟩ : ∃ between, k' = k + (between + 1) := ⟨k' - k - 1, by omega⟩
  rw [monthsLength_add, monthsLength, ← year] at number'
  rw [month] at high
  omega

theorem dayNumber_lt_of_day_lt {a b : Date} (year : a.year = b.year) (month : a.month = b.month)
    (h : a.day < b.day) : a.dayNumber < b.dayNumber := by
  obtain ⟨-, -, -, -, low, -⟩ := a.civil
  unfold dayNumber
  rw [year, month]
  omega

theorem dayNumber_lt_of_isBefore {a b : Date} (h : a.IsBefore b) : a.dayNumber < b.dayNumber := by
  rcases h with earlier | ⟨year, earlier | ⟨month, earlier⟩⟩
  · exact dayNumber_lt_of_year_lt earlier
  · exact dayNumber_lt_of_month_lt year earlier
  · exact dayNumber_lt_of_day_lt year month earlier

/-- Counting days is keeping to the order of the calendar. -/
theorem isBefore_iff {a b : Date} : a.IsBefore b ↔ a.dayNumber < b.dayNumber := by
  constructor
  · exact dayNumber_lt_of_isBefore
  · intro lower
    rcases isBefore_trichotomy a b with earlier | rfl | later
    · exact earlier
    · exact absurd lower (Int.lt_irrefl _)
    · exact absurd (dayNumber_lt_of_isBefore later) (Int.lt_asymm lower)

end Date

end MarketDesk.Calendar
