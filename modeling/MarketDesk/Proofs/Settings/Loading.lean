import MarketDesk.Proofs.Text.Numerals
import MarketDesk.Proofs.Text.Trimming
import MarketDesk.Settings.Basic

/-!
# What settings follow

`Follows` says which settings a set of variables asks for: a host is a text that is not blank, and a
number counts only if its trimmed text spells one that fits. `settings_follow_variables` says that
loading gives these settings and that there are no others, whatever the variables are; and that
each setting is its own variable's.
-/

namespace MarketDesk.Settings

open MarketDesk.Text
open MarketDesk.Calendar.Date (Blank)

variable {bound standard n : Nat} {value : Option String} {lookup : String → Option String}

/-- The trimmed text of the variable spells the number, which is below the bound. -/
def Gives (bound : Nat) (value : Option String) (n : Nat) : Prop :=
  ∃ s t, value = some s ∧ Trims s.toList t ∧ SpellsUnsigned t n ∧ n < bound

/-- The number that the variable gives, or the standard one if it gives none. -/
inductive NumberFrom (bound standard : Nat) (value : Option String) : Nat → Prop where
  | given {n : Nat} : Gives bound value n → NumberFrom bound standard value n
  | fallback : (∀ n, ¬ Gives bound value n) → NumberFrom bound standard value standard

/-- The trimmed text of the variable, or the standard one if it is not set or blank. -/
inductive HostFrom (standard : String) (value : Option String) : String → Prop where
  | given {s : String} {t : List Char} : value = some s → Trims s.toList t → t ≠ [] →
      HostFrom standard value (String.ofList t)
  | unset : value = none → HostFrom standard value standard
  | blank {s : String} : value = some s → Blank s.toList → HostFrom standard value standard

/-- The positive number that the variable gives, or none. -/
inductive SweepFrom (value : Option String) : Option UInt64 → Prop where
  | every {n : UInt64} : Gives Word.size64 value n.toNat → 0 < n → SweepFrom value (some n)
  | never : (∀ n, Gives Word.size64 value n → n = 0) → SweepFrom value none

/-- The settings are those that the variables ask for. -/
structure Follows (lookup : String → Option String) (s : Settings) : Prop where
  host : HostFrom "0.0.0.0" (lookup "STOCKDATA_HOST") s.host
  port : NumberFrom Word.size16 7776 (lookup "STOCKDATA_PORT") s.port.toNat
  cacheLifetime :
    NumberFrom Word.size64 300 (lookup "STOCKDATA_CACHE_TTL_SECS") s.cacheLifetime.toNat
  requestTimeout :
    NumberFrom Word.size64 30 (lookup "STOCKDATA_UPSTREAM_TIMEOUT_SECS") s.requestTimeout.toNat
  cacheSweep : SweepFrom (lookup "STOCKDATA_CACHE_SWEEP_SECS") s.cacheSweep

/-- Each setting is the same for any variables among which its own has the same value. -/
structure Separate (settings : (String → Option String) → Settings) : Prop where
  host : ∀ l l', l "STOCKDATA_HOST" = l' "STOCKDATA_HOST" →
    (settings l).host = (settings l').host
  port : ∀ l l', l "STOCKDATA_PORT" = l' "STOCKDATA_PORT" →
    (settings l).port = (settings l').port
  cacheLifetime : ∀ l l', l "STOCKDATA_CACHE_TTL_SECS" = l' "STOCKDATA_CACHE_TTL_SECS" →
    (settings l).cacheLifetime = (settings l').cacheLifetime
  requestTimeout :
    ∀ l l', l "STOCKDATA_UPSTREAM_TIMEOUT_SECS" = l' "STOCKDATA_UPSTREAM_TIMEOUT_SECS" →
      (settings l).requestTimeout = (settings l').requestTimeout
  cacheSweep : ∀ l l', l "STOCKDATA_CACHE_SWEEP_SECS" = l' "STOCKDATA_CACHE_SWEEP_SECS" →
    (settings l).cacheSweep = (settings l').cacheSweep

/-! ## Numbers -/

theorem numberBelow?_eq_some_iff {s : String} :
    numberBelow? bound s = some n ↔ ∃ t, Trims s.toList t ∧ SpellsUnsigned t n ∧ n < bound := by
  rw [numberBelow?, Option.filter_eq_some_iff, unsigned?_eq_some_iff, decide_eq_true_eq]
  constructor
  · rintro ⟨spelled, fits⟩
    exact ⟨_, trims_trimBlank _, spelled, fits⟩
  · rintro ⟨t, trims, spelled, fits⟩
    rw [trimBlank_eq_iff.2 trims]
    exact ⟨spelled, fits⟩

/-- What is read off a variable is what it gives. -/
theorem bind_numberBelow?_eq_some_iff :
    value.bind (numberBelow? bound) = some n ↔ Gives bound value n := by
  simp only [Option.bind_eq_some_iff, numberBelow?_eq_some_iff, Gives]
  constructor
  · rintro ⟨s, there, t, trims, spelled, fits⟩
    exact ⟨s, t, there, trims, spelled, fits⟩
  · rintro ⟨s, t, there, trims, spelled, fits⟩
    exact ⟨s, there, t, trims, spelled, fits⟩

theorem Gives.unique {m : Nat} (h : Gives bound value m) (h' : Gives bound value n) : m = n := by
  rw [← bind_numberBelow?_eq_some_iff] at h h'
  exact Option.some.inj (h.symm.trans h')

theorem Gives.lt (h : Gives bound value n) : n < bound := by
  obtain ⟨-, -, -, -, -, fits⟩ := h
  exact fits

/-- A number of some type, which holds every number below the bound, is set from a variable. -/
theorem numberFrom_getD {α : Type} {ofNat : Nat → α} {toNat : α → Nat}
    (holds : ∀ n < bound, toNat (ofNat n) = n) (standard : α) (value : Option String) :
    NumberFrom bound (toNat standard) value
      (toNat ((value.bind fun s => (numberBelow? bound s).map ofNat).getD standard)) := by
  have mapped : (value.bind fun s => (numberBelow? bound s).map ofNat) =
      (value.bind (numberBelow? bound)).map ofNat := Option.map_bind.symm
  rw [mapped]
  cases read : value.bind (numberBelow? bound) with
  | none =>
    refine .fallback fun n gives => ?_
    rw [← bind_numberBelow?_eq_some_iff, read] at gives
    cases gives
  | some n =>
    have gives := bind_numberBelow?_eq_some_iff.1 read
    rw [Option.map_some, Option.getD_some, holds n gives.lt]
    exact .given gives

theorem NumberFrom.unique {m : Nat} (h : NumberFrom bound standard value m)
    (h' : NumberFrom bound standard value n) : m = n := by
  cases h with
  | given gives =>
    cases h' with
    | given gives' => exact gives.unique gives'
    | fallback nothing => exact (nothing _ gives).elim
  | fallback nothing =>
    cases h' with
    | given gives => exact (nothing _ gives).elim
    | fallback => rfl

/-! ## The other settings -/

theorem hostFrom_getD (standard : String) (value : Option String) :
    HostFrom standard value (((value.map trim).filter (!·.isEmpty)).getD standard) := by
  cases value with
  | none => exact .unset rfl
  | some s =>
    rw [Option.map_some, trim]
    have trims := trims_trimBlank s.toList
    cases trimmed : trimBlank s.toList with
    | nil =>
      rw [trimmed] at trims
      exact .blank rfl (trims_nil_iff.1 trims)
    | cons c t =>
      rw [trimmed] at trims
      have shown : (String.ofList (c :: t)).isEmpty = false := by simp
      rw [Option.filter_some, shown]
      exact .given rfl trims (List.cons_ne_nil c t)

theorem HostFrom.unique {standard host host' : String} (h : HostFrom standard value host)
    (h' : HostFrom standard value host') : host = host' := by
  cases h with
  | given there trims nonempty =>
    cases h' with
    | given there' trims' =>
      cases there.symm.trans there'
      rw [trims.unique trims']
    | unset absent => simp [absent] at there
    | blank there' blank =>
      cases there.symm.trans there'
      exact (nonempty (trims.unique (trims_nil_iff.2 blank))).elim
  | unset absent =>
    cases h' with
    | given there => simp [absent] at there
    | unset | blank => rfl
  | blank there blank =>
    cases h' with
    | given there' trims nonempty =>
      cases there.symm.trans there'
      exact (nonempty (trims.unique (trims_nil_iff.2 blank))).elim
    | unset | blank => rfl

theorem sweepFrom_filter (value : Option String) :
    SweepFrom value ((value.bind unsigned64?).filter fun n => decide (0 < n)) := by
  have mapped : value.bind unsigned64? = (value.bind (numberBelow? Word.size64)).map UInt64.ofNat :=
    Option.map_bind.symm
  rw [mapped]
  cases read : value.bind (numberBelow? Word.size64) with
  | none =>
    refine .never fun n gives => ?_
    rw [← bind_numberBelow?_eq_some_iff, read] at gives
    cases gives
  | some n =>
    have gives := bind_numberBelow?_eq_some_iff.1 read
    have same : (UInt64.ofNat n).toNat = n := UInt64.toNat_ofNat_of_lt' gives.lt
    rw [Option.map_some, Option.filter_some]
    split
    next positive =>
      rw [decide_eq_true_eq] at positive
      exact .every (same.symm ▸ gives) positive
    next zero =>
      rw [decide_eq_true_eq, UInt64.lt_iff_toNat_lt, same] at zero
      refine .never fun m gives' => ?_
      rw [gives'.unique gives]
      exact Nat.eq_zero_of_not_pos zero

theorem SweepFrom.unique {sweep sweep' : Option UInt64} (h : SweepFrom value sweep)
    (h' : SweepFrom value sweep') : sweep = sweep' := by
  have clash : ∀ {n : UInt64}, Gives Word.size64 value n.toNat → 0 < n →
      ¬ ∀ n, Gives Word.size64 value n → n = 0 := by
    intro n gives positive zero
    rw [UInt64.lt_iff_toNat_lt, zero _ gives] at positive
    exact Nat.lt_irrefl _ positive
  cases h with
  | every gives positive =>
    cases h' with
    | every gives' => exact congrArg some (UInt64.toNat_inj.1 (gives.unique gives'))
    | never zero => exact (clash gives positive zero).elim
  | never zero =>
    cases h' with
    | every gives positive => exact (clash gives positive zero).elim
    | never => rfl

/-! ## All settings -/

theorem load_follows (lookup : String → Option String) : Follows lookup (load lookup) where
  host := hostFrom_getD _ _
  port := numberFrom_getD (fun _ => UInt16.toNat_ofNat_of_lt') default.port _
  cacheLifetime := numberFrom_getD (fun _ => UInt64.toNat_ofNat_of_lt') default.cacheLifetime _
  requestTimeout := numberFrom_getD (fun _ => UInt64.toNat_ofNat_of_lt') default.requestTimeout _
  cacheSweep := sweepFrom_filter _

theorem Follows.unique {s s' : Settings} (h : Follows lookup s) (h' : Follows lookup s') :
    s = s' := by
  cases s
  cases s'
  rw [Settings.mk.injEq]
  exact ⟨h.host.unique h'.host, UInt16.toNat_inj.1 (h.port.unique h'.port),
    UInt64.toNat_inj.1 (h.cacheLifetime.unique h'.cacheLifetime),
    UInt64.toNat_inj.1 (h.requestTimeout.unique h'.requestTimeout),
    h.cacheSweep.unique h'.cacheSweep⟩

theorem load_separate : Separate load where
  host l l' same := by simp only [load, same]
  port l l' same := by simp only [load, same]
  cacheLifetime l l' same := by simp only [load, same]
  requestTimeout l l' same := by simp only [load, same]
  cacheSweep l l' same := by simp only [load, same]

/-- **Settings follow their variables.** Whatever the variables are, the settings that are loaded are
the only ones that they ask for, and each setting depends on its own variable alone. -/
theorem settings_follow_variables :
    (∀ (lookup : String → Option String) (s : Settings), Follows lookup s ↔ s = load lookup) ∧
      Separate load := by
  refine ⟨fun lookup s => ⟨fun follows => follows.unique (load_follows lookup), ?_⟩, load_separate⟩
  rintro rfl
  exact load_follows lookup

example : load (fun name => ([("STOCKDATA_HOST", " ::1\t"), ("STOCKDATA_PORT", " +0065535 "),
    ("STOCKDATA_CACHE_TTL_SECS", "18446744073709551616"),
    ("STOCKDATA_UPSTREAM_TIMEOUT_SECS", "-1"),
    ("STOCKDATA_CACHE_SWEEP_SECS", "00")].find? (·.1 == name)).map Prod.snd) =
    ⟨"::1", 65535, 300, 30, none⟩ := by decide

end MarketDesk.Settings
