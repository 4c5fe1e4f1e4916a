import MarketDesk.Desk.Appraisal
import MarketDesk.Proofs.Calendar.DayCount
import MarketDesk.Proofs.Decimal.Exact

/-!
# The day of the next earnings

The snapshot gives the next earnings in seconds since the epoch, as an integer or as a double. They
are a day of the overview just if the number equals an integer whose day the calendar reaches, and
are then that day; any other value is kept as text. The bounds at which a double is turned into an
integer do not show, since the calendar ends long before them: `signed64_of_dayNumber`.
-/

namespace MarketDesk

open MarketDesk.Calendar MarketDesk.Json

/-- The value is a number that equals the integer. -/
def Json.Value.Equals : Value → Int → Prop
  | .whole m, n => m = n
  | .real x, n => Decimal.exactly? x = some (n : ℚ)
  | _, _ => False

/-- The value gives a number of seconds since the epoch that falls on the day. -/
def Json.Value.FallsOn (v : Value) (d : Date) : Prop :=
  ∃ n, v.Equals n ∧ d.dayNumber = n / 86400

/-- The earnings of an overview, read from a value that is there. -/
structure EarningsRead (v : Value) (earnings : Option Earnings) : Prop where
  /-- They are a day just if the value falls on it. -/
  on_iff : ∀ d, earnings = some (.on d) ↔ v.FallsOn d
  /-- They are some day just if the value equals an integer whose day the calendar reaches. -/
  dated_iff : (∃ d, earnings = some (.on d)) ↔
    ∃ n, v.Equals n ∧ Date.first.dayNumber ≤ n / 86400 ∧ n / 86400 ≤ Date.last.dayNumber
  /-- A string is kept as it is. -/
  verbatim : ∀ t, v = .text t → earnings = some (.raw t)
  /-- What is neither a string nor falls on a day is kept as its text. -/
  rendered : (∀ t, v ≠ .text t) → (∀ d, ¬ v.FallsOn d) → earnings = some (.raw v.render)

namespace Snapshot

variable {v : Value} {n : Int} {d : Date}

/-- Seconds that fall on a day of the calendar are far inside 64 bits. -/
theorem signed64_of_dayNumber (day : d.dayNumber = n / 86400) :
    Word.IsSigned64 n ∧ Word.IsSigned64 (-n) := by
  have near := d.dayNumber_isSigned32
  unfold Word.IsSigned32 at near
  unfold Word.IsSigned64
  omega

/-- The seconds of a value are the integer that it equals, if that has 64 bits. -/
theorem equals_of_secondsOf? (read : secondsOf? v = some n) : v.Equals n := by
  cases v with
  | whole m =>
    unfold secondsOf? at read
    dsimp only at read
    split at read
    · exact Option.some.inj read
    · cases read
  | real x =>
    unfold secondsOf? at read
    dsimp only at read
    split at read
    next m whole =>
      split at read
      · cases read
        exact Decimal.whole?_eq_some_iff.1 whole
      · cases read
    next => cases read
  | null | bool | text | list | record => cases read

theorem secondsOf?_of_equals (equals : v.Equals n) (fits : Word.IsSigned64 n)
    (fits' : Word.IsSigned64 (-n)) : secondsOf? v = some n := by
  cases v with
  | whole m =>
    obtain rfl : m = n := equals
    exact if_pos fits
  | real x =>
    have whole : Decimal.whole? x = some n := Decimal.whole?_eq_some_iff.2 equals
    unfold secondsOf?
    dsimp only
    rw [whole]
    exact if_pos ⟨fits, fits'⟩
  | null | bool | text | list | record => cases equals

/-- The day that is found for a value is the one that it falls on. -/
theorem dayOf_eq_some_iff :
    (secondsOf? v).bind Date.ofEpochSeconds? = some d ↔ v.FallsOn d := by
  rw [Option.bind_eq_some_iff]
  simp only [Date.ofEpochSeconds?, Date.ofDayNumber?_eq_some_iff]
  constructor
  · rintro ⟨n, read, day⟩
    exact ⟨n, equals_of_secondsOf? read, day⟩
  · rintro ⟨n, equals, day⟩
    obtain ⟨fits, fits'⟩ := signed64_of_dayNumber day
    exact ⟨n, secondsOf?_of_equals equals fits fits', day⟩

theorem earningsOf_of_fallsOn (falls : v.FallsOn d) : earningsOf v = .on d := by
  rw [earningsOf, dayOf_eq_some_iff.2 falls]

theorem earningsOf_of_not_fallsOn (never : ∀ d, ¬ v.FallsOn d) :
    earningsOf v = .raw (plainText v) := by
  have none : (secondsOf? v).bind Date.ofEpochSeconds? = none := by
    rw [Option.eq_none_iff_forall_ne_some]
    intro d found
    exact never d (dayOf_eq_some_iff.1 found)
  rw [earningsOf, none]

theorem earningsOf_eq_on_iff : earningsOf v = .on d ↔ v.FallsOn d := by
  constructor
  · intro made
    rw [earningsOf] at made
    split at made
    next d' found =>
      cases made
      exact dayOf_eq_some_iff.1 found
    next => cases made
  · exact earningsOf_of_fallsOn

theorem earningsOf_read (v : Value) : EarningsRead v (some (earningsOf v)) where
  on_iff d := by
    rw [Option.some.injEq, earningsOf_eq_on_iff]
  dated_iff := by
    simp only [Option.some.injEq, earningsOf_eq_on_iff, Json.Value.FallsOn]
    constructor
    · rintro ⟨d, n, equals, day⟩
      exact ⟨n, equals, Date.exists_dayNumber_iff.1 ⟨d, day⟩⟩
    · rintro ⟨n, equals, reached⟩
      obtain ⟨d, day⟩ := Date.exists_dayNumber_iff.2 reached
      exact ⟨d, n, equals, day⟩
  verbatim t text := by
    subst text
    apply congrArg some
    apply earningsOf_of_not_fallsOn
    rintro d ⟨n, equals, -⟩
    cases equals
  rendered other never := by
    rw [earningsOf_of_not_fallsOn never]
    cases v with
    | text t => exact absurd rfl (other t)
    | null | bool | whole | real | list | record => rfl

end Snapshot

/-- **The day of the next earnings.** An overview has no earnings just if the snapshot has no
timestamp for them or a null; it has others as they are read from the timestamp. -/
theorem earnings_are_dated (s : Snapshot) :
    ((Snapshot.overview s).earnings = none ↔
      Record.get? s "earningsTimestamp" = none ∨
        Record.get? s "earningsTimestamp" = some .null) ∧
    ∀ v, Record.get? s "earningsTimestamp" = some v → v ≠ .null →
      EarningsRead v (Snapshot.overview s).earnings := by
  have read : (Snapshot.overview s).earnings =
      ((Record.get? s "earningsTimestamp").filter fun v => !v.isNull).map Snapshot.earningsOf := rfl
  rw [read]
  constructor
  · rw [Option.map_eq_none_iff, Option.filter_eq_none_iff]
    cases Record.get? s "earningsTimestamp" with
    | none => simp
    | some v => cases v <;> simp [Value.isNull]
  · intro v here present
    have shown : (some v).filter (fun v => !v.isNull) = some v := by
      cases v with
      | null => exact absurd rfl present
      | bool | whole | real | text | list | record => rfl
    rw [here, shown]
    exact Snapshot.earningsOf_read v

/-- A snapshot with a timestamp for the next earnings. -/
def reporting (v : Value) : Snapshot := [("earningsTimestamp", v)]

/-- A whole double is a day, and an integer just above the signed 64-bit ones is none. -/
theorem earnings_are_dated_whole :
    (Snapshot.overview (reporting (.real 1721939400.0))).earnings =
        some (.on ⟨2024, 7, 25, by decide⟩) ∧
      (Snapshot.overview (reporting (.whole 0x8000000000000000))).earnings =
        some (.raw "9223372036854775808") := by
  constructor
  · have read := (earnings_are_dated (reporting (.real 1721939400.0))).2 _ rfl nofun
    have whole : Decimal.whole? 1721939400.0 = some 1721939400 := by decide +kernel
    exact (read.on_iff _).2 ⟨1721939400, Decimal.whole?_eq_some_iff.1 whole, by decide +kernel⟩
  · have read := (earnings_are_dated (reporting (.whole 0x8000000000000000))).2 _ rfl nofun
    apply read.rendered nofun
    rintro d ⟨n, rfl, day⟩
    have near := d.dayNumber_isSigned32
    unfold Word.IsSigned32 at near
    omega

end MarketDesk
