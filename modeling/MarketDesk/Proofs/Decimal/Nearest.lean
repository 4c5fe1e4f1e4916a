import Mathlib
import MarketDesk.Json.Value
import MarketDesk.Proofs.Decimal.Exact
import MarketDesk.Word

/-!
# Integers as doubles

An integer of 64 bits is read as the nearest double, and of two nearest ones as the one whose last
bit is zero (`IsNearest`). The mantissa is shortened bit by bit, and two bits are carried along that
tell on which side of the middle the rest lies: `Residue` is what they mean, and each shift keeps
it. Every other double is a multiple of the same step or lies below the binade of the integer.
-/

namespace MarketDesk.Decimal

open Float.Model Float.Model.UnpackedFloat

/-- The double is the nearest one to an integer, and of two nearest ones the one whose last bit is
zero. Zero has no sign. -/
structure IsNearest (n : Int) (x : Float) (v : ℚ) : Prop where
  value : exactly? x = some v
  least : ∀ y w, exactly? y = some w → |(n : ℚ) - v| ≤ |(n : ℚ) - w|
  even : ∀ y w, exactly? y = some w → |(n : ℚ) - w| = |(n : ℚ) - v| → w ≠ v →
    x.toBits.toNat % 2 = 0
  zero : n = 0 → x.toBits = 0

/-! ## Shortening a mantissa -/

/-- The bits behind a mantissa that was shortened by `k` bits: the first of them, and whether any
other is set. -/
structure Residue (em : ExtendedMantissa) (m k : Nat) : Prop where
  mantissa : em.mantissa = m / 2 ^ k
  roundBit : em.roundBit = true ↔ 2 ^ k ≤ 2 * (m % 2 ^ k)
  stickyBit : em.stickyBit = true ↔ 2 * (m % 2 ^ k) ≠ 0 ∧ 2 * (m % 2 ^ k) ≠ 2 ^ k

/-- Of the multiples of a unit, the one of `r` units is nearest, and `r` is even on a tie. -/
structure RoundsTo (m unit r : Nat) : Prop where
  above : 2 * m ≤ 2 * (r * unit) + unit
  below : 2 * (r * unit) ≤ 2 * m + unit
  even : 2 * m = 2 * (r * unit) + unit ∨ 2 * (r * unit) = 2 * m + unit → r % 2 = 0

section Shifts

variable {em : ExtendedMantissa} {m k r : Nat} {e : Int} {s : Sign}

theorem residue_exact (m : Nat) : Residue ⟨m, false, false⟩ m 0 where
  mantissa := by simp
  roundBit := by simp [Nat.mod_one]
  stickyBit := by simp [Nat.mod_one]

/-- One more bit behind the mantissa. -/
theorem Residue.shiftRightOne (residue : Residue em m k) :
    Residue em.shiftRightOne m (k + 1) := by
  obtain ⟨mantissa, roundBit, stickyBit⟩ := residue
  have bound : m % 2 ^ k < 2 ^ k := Nat.mod_lt m (Nat.two_pow_pos k)
  have rest : m % 2 ^ (k + 1) = m % 2 ^ k + 2 ^ k * (m / 2 ^ k % 2) := Nat.mod_pow_succ
  have double : 2 ^ (k + 1) = 2 * 2 ^ k := Nat.pow_succ'
  obtain bit | bit : m / 2 ^ k % 2 = 0 ∨ m / 2 ^ k % 2 = 1 := by omega
  all_goals
    rw [bit] at rest
    refine ⟨?_, ?_, ?_⟩
    · rw [ExtendedMantissa.shiftRightOne, mantissa, Nat.div_div_eq_div_mul, Nat.pow_succ]
    · rw [ExtendedMantissa.shiftRightOne, mantissa, bit]
      simp
      omega
    · rw [ExtendedMantissa.shiftRightOne, Bool.or_eq_true, roundBit, stickyBit]
      omega

theorem residue_shift (m k : Nat) :
    Residue (ExtendedMantissa.ofMantissaAndAccuracy m .exact >>> k) m k := by
  induction k with
  | zero => exact residue_exact m
  | succ k ih => exact ih.shiftRightOne

/-- The two bits suffice to round. -/
theorem Residue.roundsTo (residue : Residue em m k) : RoundsTo m (2 ^ k) em.roundedMantissa := by
  obtain ⟨mantissa, roundBit, stickyBit⟩ := residue
  have whole : 2 ^ k * (m / 2 ^ k) + m % 2 ^ k = m := Nat.div_add_mod m (2 ^ k)
  have bound : m % 2 ^ k < 2 ^ k := Nat.mod_lt m (Nat.two_pow_pos k)
  rw [Nat.mul_comm, ← mantissa] at whole
  generalize m % 2 ^ k = rest at *
  generalize 2 ^ k = unit at *
  obtain ⟨q, round, sticky⟩ := em
  dsimp only at *
  have next : (q + 1) * unit = q * unit + unit := Nat.succ_mul q unit
  -- Exact, below the middle, on it, above it.
  cases round <;> cases sticky <;>
    simp only [ExtendedMantissa.roundedMantissa, ExtendedMantissa.accuracy,
      Accuracy.roundToNearestEven, Bool.false_eq_true, false_iff, true_iff] at *
  · exact ⟨by omega, by omega, by omega⟩
  · exact ⟨by omega, by omega, by omega⟩
  · obtain parity | parity : q % 2 = 0 ∨ q % 2 = 1 := by omega
    · rw [parity, Nat.add_zero]
      exact ⟨by omega, by omega, by omega⟩
    · rw [parity]
      exact ⟨by omega, by omega, by omega⟩
  · exact ⟨by omega, by omega, by omega⟩

/-- Among the normal numbers the exponent makes the mantissa as long as it can be. -/
theorem targetExponent_eq (long : 52 ≤ m.log2) (least : -1074 ≤ e) :
    Format.binary64.targetExponent (totalExponent m e) = e + (m.log2 - 52 : Nat) := by
  have minimum : Format.binary64.minExponent = -1074 := by decide
  have bits : Format.binary64.mantissaBits = 53 := rfl
  rw [Format.targetExponent, totalExponent, minimum, bits]
  omega

theorem shiftToTargetExponent_eq (long : m.log2 = 52 + k) (least : -1074 ≤ e) :
    shiftToTargetExponent Format.binary64 m e .exact =
      (ExtendedMantissa.ofMantissaAndAccuracy m .exact >>> k, e + k) := by
  have target := targetExponent_eq (by omega : 52 ≤ m.log2) least
  have amount : (e + (m.log2 - 52 : Nat) - e).toNat = k := by omega
  rw [shiftToTargetExponent, target, shiftToExponent, amount]

/-- Rounding to 53 bits may give the least number of 54. -/
theorem RoundsTo.bounds (rounds : RoundsTo m (2 ^ k) r) (long : m.log2 = 52 + k) :
    2 ^ 52 ≤ r ∧ r ≤ 2 ^ 53 := by
  obtain ⟨above, below, -⟩ := rounds
  have positive : 0 < 2 ^ k := Nat.two_pow_pos k
  have nonzero : m ≠ 0 := by
    rintro rfl
    rw [Nat.log2_zero] at long
    omega
  have lower : 2 ^ (52 + k) ≤ m := long ▸ Nat.log2_self_le nonzero
  have upper : m < 2 ^ (52 + k + 1) := long ▸ Nat.lt_log2_self
  rw [Nat.pow_succ, Nat.pow_add] at upper
  rw [Nat.pow_add] at lower
  constructor
  · have enough : 2 ^ 53 * 2 ^ k ≤ (2 * r + 1) * 2 ^ k := by
      rw [Nat.add_mul, Nat.mul_assoc]
      omega
    have := Nat.le_of_mul_le_mul_right enough positive
    omega
  · have enough : 2 * r * 2 ^ k < (2 ^ 54 + 1) * 2 ^ k := by
      rw [Nat.add_mul, Nat.mul_assoc]
      omega
    have := Nat.lt_of_mul_lt_mul_right enough
    omega

/-- A long mantissa is shortened to the nearest one of 53 bits, in the next binade if need be. -/
theorem roundWithAccuracy_eq (s : Sign) (long : m.log2 = 52 + k) (least : -1074 ≤ e) :
    ∃ r short exponent positive, RoundsTo m (2 ^ k) r ∧
      roundWithAccuracy Format.binary64 s m e .exact = .finite s short exponent positive ∧
      short.log2 = 52 ∧ (exponent = e + k ∧ short = r ∨
        exponent = e + k + 1 ∧ short = 2 ^ 52 ∧ r = 2 ^ 53) := by
  have residue := residue_shift m k
  have shifted := shiftToTargetExponent_eq long least
  generalize ExtendedMantissa.ofMantissaAndAccuracy m .exact >>> k = em at residue shifted
  have rounds := residue.roundsTo
  obtain ⟨lower, upper⟩ := rounds.bounds long
  unfold roundWithAccuracy
  rw [shifted]
  dsimp only
  generalize em.roundedMantissa = r at rounds lower upper
  obtain inside | carried : r < 2 ^ 53 ∨ r = 2 ^ 53 := by omega
  · have length : r.log2 = 52 := (Nat.log2_eq_iff (by omega)).2 ⟨lower, inside⟩
    have kept : shiftToTargetExponent Format.binary64 r (e + k) .exact =
        (⟨r, false, false⟩, e + k) := by
      rw [@shiftToTargetExponent_eq r 0 (e + k) length (by omega), Int.natCast_zero, Int.add_zero]
      rfl
    rw [kept]
    have positive : 0 < r := by omega
    exact ⟨r, r, e + k, positive, rounds, dif_neg (Nat.ne_of_gt positive), length,
      .inl ⟨rfl, rfl⟩⟩
  · subst carried
    have kept : shiftToTargetExponent Format.binary64 (2 ^ 53) (e + k) .exact =
        (⟨2 ^ 52, false, false⟩, e + k + 1) := by
      rw [@shiftToTargetExponent_eq (2 ^ 53) 1 (e + k) Nat.log2_two_pow (by omega)]
      rfl
    rw [kept]
    exact ⟨2 ^ 53, 2 ^ 52, e + k + 1, by decide, rounds, rfl, Nat.log2_two_pow,
      .inr ⟨rfl, rfl, rfl⟩⟩

/-- Packing keeps normal numbers. -/
theorem unpack_pack_normal (s : Sign) {positive : 0 < m} (length : m.log2 = 52)
    (least : -1074 ≤ e) (most : e ≤ 971) :
    (Float.Model.pack (.finite s m e positive)).unpack = .finite s m e positive := by
  obtain ⟨lower, upper⟩ := (Nat.log2_eq_iff (Nat.ne_of_gt positive)).1 length
  obtain ⟨biased, same⟩ : ∃ biased : Nat, e = (biased : Int) - 1075 :=
    ⟨(e + 1075).toNat, by omega⟩
  have range : 1 ≤ biased ∧ biased ≤ 2046 := by omega
  have packed : UnpackedFloat.pack Format.binary64 (.finite s m e positive) =
      packComponents Format.binary64 s (BitVec.ofNat _ biased) (BitVec.ofNat _ m) := by
    have exponent : (e + Format.binary64.exponentBias +
        Format.binary64.mantissaBitsWithoutImplicit).toNat = biased := by
      have bias : Format.binary64.exponentBias = 1023 := rfl
      have bits : Format.binary64.mantissaBitsWithoutImplicit = 52 := rfl
      rw [bias, bits]
      omega
    rw [UnpackedFloat.pack]
    dsimp only
    rw [exponent, if_neg (by simp; omega), length]
    exact if_pos rfl
  show UnpackedFloat.unpack Format.binary64 (UnpackedFloat.pack Format.binary64 _) = _
  rw [packed, UnpackedFloat.unpack]
  simp only [unpackExponent_packComponents, unpackMantissa_packComponents,
    unpackSign_packComponents, Sign.ofBitVec_toBitVec]
  have field : (BitVec.ofNat Format.binary64.exponentBits biased).toNat = biased := by
    rw [BitVec.toNat_ofNat]
    exact Nat.mod_eq_of_lt (by simp; omega)
  have fraction : (BitVec.ofNat Format.binary64.mantissaBitsWithoutImplicit m).toNat =
      m % 0x10000000000000 := BitVec.toNat_ofNat m 52
  have notLast : BitVec.ofNat Format.binary64.exponentBits biased ≠ -1#11 := by
    intro last
    rw [last] at field
    have value : (-1#11).toNat = 2047 := rfl
    omega
  have notLeast : BitVec.ofNat Format.binary64.exponentBits biased ≠ 0#11 := by
    intro least
    rw [least] at field
    have value : (0#11).toNat = 0 := rfl
    omega
  rw [if_neg notLast, if_neg notLeast]
  have whole : (1#1 ++ BitVec.ofNat Format.binary64.mantissaBitsWithoutImplicit m).toNat = m := by
    rw [toNat_implicit, fraction]
    omega
  have exponent : ((BitVec.ofNat Format.binary64.exponentBits biased).toNat : Int) -
      (Format.binary64.exponentBias + Format.binary64.mantissaBitsWithoutImplicit) = e := by
    have bias : Format.binary64.exponentBias = 1023 := rfl
    have bits : Format.binary64.mantissaBitsWithoutImplicit = 52 := rfl
    rw [field, bias, bits]
    omega
  simp only [whole, exponent]

end Shifts

/-! ## Positive integers -/

section Positive

variable {n v short : Nat}

theorem log2_mul_two_pow (positive : 0 < n) (i : Nat) : (n * 2 ^ i).log2 = n.log2 + i := by
  induction i with
  | zero => rw [Nat.pow_zero, Nat.mul_one, Nat.add_zero]
  | succ i ih =>
    have nonzero : n * 2 ^ i ≠ 0 := Nat.ne_of_gt (Nat.mul_pos positive (Nat.two_pow_pos i))
    rw [Nat.pow_succ', Nat.mul_left_comm, Nat.log2_two_mul nonzero, ih, Nat.add_assoc]

/-- A short integer gets a longer mantissa, and a long one is rounded. -/
theorem normalize_eq (positive : 0 < n) :
    UnpackedFloat.normalize Format.binary64 n 0 .positive =
      roundWithAccuracy Format.binary64 .positive (n * 2 ^ (52 - n.log2))
        (-(52 - n.log2 : Nat)) .exact := by
  have greater : compare (n : Int) 0 = .gt := by
    rw [Int.compare_eq_gt]
    omega
  have amount : (0 - Format.binary64.targetExponent (totalExponent n 0)).toNat = 52 - n.log2 := by
    have minimum : Format.binary64.minExponent = -1074 := by decide
    have bits : Format.binary64.mantissaBits = 53 := rfl
    rw [Format.targetExponent, totalExponent, minimum, bits]
    omega
  rw [UnpackedFloat.normalize, greater]
  dsimp only
  rw [UnpackedFloat.round, decreaseExponent, Int.toNat_natCast, amount, Nat.shiftLeft_eq,
    Int.zero_sub]

/-- What an integer is rounded to: itself, or the nearest multiple of a power of two, of which it
has at least `2 ^ 52`. The mantissa that is packed is even if the multiple is. -/
inductive Rounded (n v short : Nat) : Prop where
  | exact : v = n → Rounded n v short
  | shortened {k r : Nat} : RoundsTo n (2 ^ k) r → v = r * 2 ^ k → 2 ^ 52 * 2 ^ k ≤ n →
      (r % 2 = 0 → short % 2 = 0) → Rounded n v short

theorem RoundsTo.eq_of_one {r : Nat} (rounds : RoundsTo n 1 r) : r = n := by
  obtain ⟨above, below, -⟩ := rounds
  omega

/-- A positive integer of 64 bits becomes a normal number. -/
theorem exists_rounded (positive : 0 < n) (bound : n < 2 ^ 64) :
    ∃ (v short : Nat) (exponent : Int) (nonzero : 0 < short),
      UnpackedFloat.normalize Format.binary64 n 0 .positive =
        .finite .positive short exponent nonzero ∧
      (∀ s, (Float.Model.pack (.finite s short exponent nonzero)).unpack =
        .finite s short exponent nonzero) ∧
      (short : ℚ) * 2 ^ exponent = v ∧ Rounded n v short := by
  have length : n.log2 < 64 := (Nat.log2_lt (Nat.ne_of_gt positive)).2 bound
  have long : (n * 2 ^ (52 - n.log2)).log2 = 52 + (n.log2 - 52) := by
    rw [log2_mul_two_pow positive]
    omega
  obtain ⟨r, short, exponent, nonzero, rounds, result, normal, shape⟩ :=
    roundWithAccuracy_eq .positive long (by omega : -1074 ≤ (-(52 - n.log2 : Nat) : Int))
  rw [normalize_eq positive, result]
  have kept : ∀ s, (Float.Model.pack (.finite s short exponent nonzero)).unpack =
      .finite s short exponent nonzero := fun s =>
    unpack_pack_normal s normal (by omega) (by omega)
  have value : (short : ℚ) * 2 ^ exponent =
      r * 2 ^ (-(52 - n.log2 : Nat) + (n.log2 - 52 : Nat) : Int) := by
    rcases shape with ⟨rfl, rfl⟩ | ⟨rfl, rfl, rfl⟩
    · rfl
    · rw [zpow_add_one₀ two_ne_zero]
      push_cast
      ring
  have parity : r % 2 = 0 → short % 2 = 0 := by
    rcases shape with ⟨-, rfl⟩ | ⟨-, rfl, -⟩
    · exact id
    · exact fun _ => rfl
  obtain short' | long' : n.log2 ≤ 52 ∨ 52 < n.log2 := by omega
  · refine ⟨n, short, exponent, nonzero, rfl, kept, ?_, .exact rfl⟩
    have none : n.log2 - 52 = 0 := by omega
    rw [none] at rounds value
    have same := rounds.eq_of_one
    rw [value, same, Int.natCast_zero, Int.add_zero, zpow_neg, zpow_natCast]
    push_cast
    exact mul_inv_cancel_right₀ (pow_ne_zero _ two_ne_zero) _
  · refine ⟨r * 2 ^ (n.log2 - 52), short, exponent, nonzero, rfl, kept, ?_, ?_⟩
    · have none : 52 - n.log2 = 0 := by omega
      rw [value, none, Int.natCast_zero, Int.neg_zero, Int.zero_add, zpow_natCast]
      push_cast
      rfl
    · have none : 52 - n.log2 = 0 := by omega
      rw [none, Nat.pow_zero, Nat.mul_one] at rounds
      refine .shortened rounds rfl ?_ parity
      rw [← Nat.pow_add, Nat.add_sub_cancel' long'.le]
      exact Nat.log2_self_le (Nat.ne_of_gt positive)

end Positive

/-! ## Other doubles -/

section Others

variable {x y : Float} {w : ℚ} {b : Binary} {n v short : Nat}

theorem Binary.mantissa_lt (parts : Binary.ofFloat? y = some b) : b.mantissa < 2 ^ 53 := by
  unfold Binary.ofFloat? at parts
  dsimp only at parts
  split at parts
  · cases parts
  · split at parts <;> cases parts <;> dsimp only <;> omega

/-- The last bit of a double is that of its mantissa. -/
theorem Binary.mantissa_mod_two (parts : Binary.ofFloat? y = some b) :
    b.mantissa % 2 = y.toBits.toNat % 2 := by
  unfold Binary.ofFloat? at parts
  dsimp only at parts
  split at parts
  · cases parts
  · split at parts <;> cases parts <;> dsimp only <;> omega

/-- The number is a multiple of every power of two of which it has at least `2 ^ 52`. -/
def IsSparse (w : ℚ) : Prop := ∀ k : Nat, (∃ j : Int, w = j * 2 ^ k) ∨ |w| < 2 ^ 52 * 2 ^ k

theorem IsSparse.neg (sparse : IsSparse w) : IsSparse (-w) := by
  intro k
  rw [abs_neg]
  refine (sparse k).imp_left ?_
  rintro ⟨j, rfl⟩
  refine ⟨-j, ?_⟩
  push_cast
  ring

/-- Doubles have 53 bits. -/
theorem isSparse_of_exactly? (value : exactly? y = some w) : IsSparse w := by
  intro k
  rw [exactly?_eq] at value
  obtain ⟨b, parts, rfl⟩ := Option.map_eq_some_iff.1 value
  have bound : |(b.signed : ℚ)| < 2 ^ 53 := by
    have small := b.mantissa_lt parts
    have magnitude : |b.signed| < 2 ^ 53 := by
      rw [Binary.signed, abs_lt]
      split <;> omega
    exact_mod_cast magnitude
  obtain above | below : (k : Int) ≤ b.exponent ∨ b.exponent < k := by omega
  · left
    obtain ⟨i, same⟩ : ∃ i : Nat, b.exponent = i + k := ⟨(b.exponent - k).toNat, by omega⟩
    refine ⟨b.signed * 2 ^ i, ?_⟩
    rw [same, zpow_add₀ two_ne_zero, zpow_natCast, zpow_natCast]
    push_cast
    ring
  · right
    have positive : (0 : ℚ) < 2 ^ b.exponent := zpow_pos two_pos _
    have step : (2 : ℚ) ^ b.exponent ≤ 2 ^ ((k : Int) - 1) :=
      zpow_le_zpow_right₀ one_le_two (by omega)
    have half : (2 : ℚ) ^ 53 * 2 ^ ((k : Int) - 1) = 2 ^ 52 * 2 ^ k := by
      rw [zpow_sub_one₀ two_ne_zero, zpow_natCast]
      ring
    rw [abs_mul, abs_of_pos positive, ← half]
    calc |(b.signed : ℚ)| * 2 ^ b.exponent < 2 ^ 53 * 2 ^ b.exponent :=
          mul_lt_mul_of_pos_right bound positive
      _ ≤ 2 ^ 53 * 2 ^ ((k : Int) - 1) := mul_le_mul_of_nonneg_left step (by positivity)

/-- Other multiples of the unit are at least half a unit away. -/
theorem RoundsTo.half_le {unit r : Nat} (rounds : RoundsTo n unit r) {j : Int} (other : j ≠ r) :
    (unit : ℚ) / 2 ≤ |(n : ℚ) - j * unit| := by
  obtain ⟨above, below, -⟩ := rounds
  have above : 2 * (n : ℚ) ≤ 2 * (r * unit) + unit := by exact_mod_cast above
  have below : 2 * ((r : ℚ) * unit) ≤ 2 * n + unit := by exact_mod_cast below
  have nonneg : (0 : ℚ) ≤ unit := Nat.cast_nonneg unit
  obtain less | greater : j + 1 ≤ r ∨ (r : Int) + 1 ≤ j := by omega
  · have less : (j : ℚ) + 1 ≤ r := by exact_mod_cast less
    have apart := mul_le_mul_of_nonneg_right less nonneg
    refine le_abs.2 (.inl ?_)
    linarith
  · have greater : (r : ℚ) + 1 ≤ j := by exact_mod_cast greater
    have apart := mul_le_mul_of_nonneg_right greater nonneg
    refine le_abs.2 (.inr ?_)
    linarith

/-- The multiple that an integer is rounded to is at most half a unit away, and even if it is that
far away. -/
theorem RoundsTo.le_half {unit r : Nat} (rounds : RoundsTo n unit r) :
    |(n : ℚ) - r * unit| ≤ unit / 2 ∧ (|(n : ℚ) - r * unit| = unit / 2 → r % 2 = 0) := by
  obtain ⟨above, below, even⟩ := rounds
  have above' : 2 * (n : ℚ) ≤ 2 * (r * unit) + unit := by exact_mod_cast above
  have below' : 2 * ((r : ℚ) * unit) ≤ 2 * n + unit := by exact_mod_cast below
  constructor
  · rw [abs_le]
    constructor <;> linarith
  · intro tie
    apply even
    rcases eq_or_eq_neg_of_abs_eq tie with tie | tie
    · left
      have tie : 2 * (n : ℚ) = 2 * (r * unit) + unit := by linarith
      exact_mod_cast tie
    · right
      have tie : 2 * ((r : ℚ) * unit) = 2 * n + unit := by linarith
      exact_mod_cast tie

/-- No double is nearer than the one that an integer is rounded to. -/
theorem Rounded.nearest (rounded : Rounded n v short) (sparse : IsSparse w) :
    |(n : ℚ) - v| ≤ |(n : ℚ) - w| ∧ (|(n : ℚ) - w| = |(n : ℚ) - v| → w ≠ v → short % 2 = 0) := by
  cases rounded with
  | exact same =>
    subst same
    rw [sub_self, abs_zero]
    refine ⟨abs_nonneg _, fun none other => ?_⟩
    exact (other (sub_eq_zero.1 (abs_eq_zero.1 none)).symm).elim
  | @shortened k r rounds same least parity =>
    subst same
    push_cast
    obtain ⟨near, tie⟩ := rounds.le_half
    push_cast at near tie
    have far : ∀ {j : Int}, j ≠ r → (2 ^ k : ℚ) / 2 ≤ |(n : ℚ) - j * 2 ^ k| := fun other => by
      simpa using rounds.half_le other
    rcases sparse k with ⟨j, rfl⟩ | small
    · by_cases same : j = r
      · subst same
        rw [Int.cast_natCast]
        exact ⟨le_rfl, fun _ other => (other rfl).elim⟩
      · have away := far same
        exact ⟨near.trans away, fun equal _ => parity (tie (near.antisymm (equal ▸ away)))⟩
    · -- The binade of the integer begins with a multiple that lies between.
      have least : (2 ^ 52 : ℚ) * 2 ^ k ≤ n := by exact_mod_cast least
      have between : |(n : ℚ) - 2 ^ 52 * 2 ^ k| < |(n : ℚ) - w| := by
        rw [abs_of_nonneg (sub_nonneg.2 least)]
        refine lt_of_lt_of_le ?_ (le_abs_self _)
        linarith [(abs_lt.1 small).2]
      have nearer : |(n : ℚ) - r * 2 ^ k| ≤ |(n : ℚ) - 2 ^ 52 * 2 ^ k| := by
        by_cases same : (2 ^ 52 : Int) = r
        · have same : (2 ^ 52 : ℚ) = r := by exact_mod_cast same
          rw [same]
        · have away := far same
          push_cast at away
          exact near.trans away
      exact ⟨(nearer.trans_lt between).le, fun equal _ =>
        ((nearer.trans_lt between).ne equal.symm).elim⟩

end Others

/-! ## Integers -/

section Integers

open Json

variable {n : Int} {x : Float} {s : Sign} {short : Nat} {exponent : Int} {nonzero : 0 < short}

/-- A double with a given mantissa and exponent. -/
theorem exactly?_of_unpack (unpacked : x.toModel.unpack = .finite s short exponent nonzero) :
    exactly? x = some ((s.apply short : ℚ) * 2 ^ exponent) ∧ x.toBits.toNat % 2 = short % 2 := by
  constructor
  · rw [exactly?, unpacked]
  · have parts := Binary.ofFloat?_eq x
    rw [unpacked] at parts
    exact (Binary.mantissa_mod_two parts).symm

theorem toModel_toFloat {m : Nat} (bound : m < 2 ^ 64) :
    (UInt64.ofNat m).toFloat.toModel =
      Float.Model.pack (UnpackedFloat.normalize Format.binary64 m 0 .positive) := by
  have same : (UInt64.ofNat m).toNat = m := by
    rw [UInt64.toNat_ofNat']
    exact Nat.mod_eq_of_lt bound
  show Float.Model.pack
    (UnpackedFloat.normalize Format.binary64 (UInt64.ofNat m).toNat 0 .positive) = _
  rw [same]

/-- What is nearest to a magnitude is nearest with a sign. -/
theorem Rounded.isNearest {m v : Nat} {sign : ℚ} (rounded : Rounded m v short)
    (unit : sign = 1 ∨ sign = -1) (magnitude : (n : ℚ) = sign * m)
    (value : exactly? x = some (sign * v)) (parity : x.toBits.toNat % 2 = short % 2)
    (other : n ≠ 0) : IsNearest n x (sign * v) := by
  have square : sign * sign = 1 := by rcases unit with rfl | rfl <;> norm_num
  have mirrored : ∀ w : ℚ, |(n : ℚ) - w| = |(m : ℚ) - sign * w| := fun w => by
    have absolute : |sign| = 1 := by rcases unit with rfl | rfl <;> norm_num
    have factor : sign * (m - sign * w) = n - w := by
      rw [magnitude, mul_sub, ← mul_assoc, square, one_mul]
    rw [← factor, abs_mul, absolute, one_mul]
  have sparse : ∀ {y w}, exactly? y = some w → IsSparse (sign * w) := fun there => by
    rcases unit with rfl | rfl
    · rw [one_mul]
      exact isSparse_of_exactly? there
    · rw [neg_one_mul]
      exact (isSparse_of_exactly? there).neg
  have back : ∀ w : ℚ, sign * (sign * w) = w := fun w => by rw [← mul_assoc, square, one_mul]
  refine ⟨value, fun y w there => ?_, fun y w there equal apart => ?_,
    fun zero => (other zero).elim⟩
  · rw [mirrored, mirrored, back]
    exact (rounded.nearest (sparse there)).1
  · rw [mirrored, mirrored, back] at equal
    rw [parity]
    refine (rounded.nearest (sparse there)).2 equal fun same => apart ?_
    rw [← same, back]

/-- **Integers become the nearest doubles.** -/
theorem exists_isNearest (fits : Word.IsSigned64 n ∨ Word.IsUnsigned64 n) :
    ∃ v, IsNearest n (floatOfInt n) v := by
  have bound : n.natAbs < 2 ^ 64 := by
    unfold Word.IsSigned64 Word.IsUnsigned64 at fits
    omega
  obtain none | positive : n.natAbs = 0 ∨ 0 < n.natAbs := by omega
  · obtain rfl : n = 0 := by omega
    have value : exactly? (floatOfInt 0) = some 0 := rfl
    refine ⟨0, value, fun y w _ => ?_, fun y w _ equal other => ?_, fun _ => rfl⟩
    · rw [Int.cast_zero, sub_self, abs_zero]
      exact abs_nonneg _
    · rw [Int.cast_zero, sub_self, abs_zero, abs_eq_zero, zero_sub, neg_eq_zero] at equal
      exact (other equal).elim
  obtain ⟨v, short, exponent, nonzero, result, kept, value, rounded⟩ :=
    exists_rounded positive bound
  have model := toModel_toFloat bound
  rw [result] at model
  obtain below | above : n < 0 ∨ 0 < n := by omega
  · have unpacked : (floatOfInt n).toModel.unpack = .finite .negative short exponent nonzero := by
      rw [floatOfInt, if_pos below]
      show (Float.Model.pack (UInt64.ofNat n.natAbs).toFloat.toModel.unpack.neg).unpack = _
      rw [model, kept]
      exact kept .negative
    obtain ⟨worth, parity⟩ := exactly?_of_unpack unpacked
    refine ⟨_, rounded.isNearest (.inr rfl) ?_ ?_ parity below.ne⟩
    · rw [Nat.cast_natAbs, abs_of_neg below, Int.cast_neg, neg_one_mul, neg_neg]
    · rw [worth, ← value]
      simp [Sign.apply]
  · have unpacked : (floatOfInt n).toModel.unpack = .finite .positive short exponent nonzero := by
      rw [floatOfInt, if_neg (by omega)]
      show (UInt64.ofNat n.natAbs).toFloat.toModel.unpack = _
      rw [model]
      exact kept .positive
    obtain ⟨worth, parity⟩ := exactly?_of_unpack unpacked
    refine ⟨_, rounded.isNearest (.inl rfl) ?_ ?_ parity above.ne'⟩
    · rw [Nat.cast_natAbs, abs_of_pos above, one_mul]
    · rw [worth, ← value]
      simp [Sign.apply]

end Integers

end MarketDesk.Decimal
