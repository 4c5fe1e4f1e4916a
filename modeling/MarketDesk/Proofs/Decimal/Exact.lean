import Mathlib.Algebra.Order.Field.Power
import Mathlib.Data.Rat.Cast.Order
import MarketDesk.Decimal.Binary

/-!
# The exact value of a double

`exactly?` is the number that a double stands for, read off its sign, mantissa and exponent; NaN and
the infinities stand for none. Taking a double apart by its bits finds the same parts, and the
integer that it is found to equal is its value (`whole?_eq_some_iff`), whatever its magnitude.
-/

namespace MarketDesk.Decimal

open Float.Model Float.Model.UnpackedFloat

/-- The number that a double stands for. -/
def exactly? (x : Float) : Option ℚ :=
  match x.toModel.unpack with
  | .zero _ => some 0
  | .finite s m e _ => some (s.apply m * 2 ^ e)
  | .infinity _ | .notANumber => none

/-! ## Bits -/

section Parts

variable (b : BitVec Format.binary64.numBits)

theorem toNat_unpackMantissa : (unpackMantissa b).toNat = b.toNat % 0x10000000000000 := by
  have cut : (unpackMantissa b).toNat = (b.extractLsb 51 0).toNat := rfl
  rw [cut]
  simp

theorem toNat_unpackExponent :
    (unpackExponent b).toNat = b.toNat / 0x10000000000000 % 0x800 := by
  have cut : (unpackExponent b).toNat = (b.extractLsb 62 52).toNat := rfl
  rw [cut]
  simp [Nat.shiftRight_eq_div_pow]

theorem toNat_unpackSign : (unpackSign b).toNat = b.toNat / 0x8000000000000000 := by
  have bound : b.toNat < 0x10000000000000000 := b.isLt
  have cut : (unpackSign b).toNat = (b.extractLsb 63 63).toNat := rfl
  rw [cut, BitVec.extractLsb_toNat, Nat.shiftRight_eq_div_pow]
  omega

/-- The sign bit is the highest one. -/
theorem ofBitVec_unpackSign :
    (Sign.ofBitVec (unpackSign b) == .negative) = decide (0x8000000000000000 ≤ b.toNat) := by
  have bound : b.toNat < 0x10000000000000000 := b.isLt
  have sign := toNat_unpackSign b
  unfold Sign.ofBitVec
  by_cases high : 0x8000000000000000 ≤ b.toNat
  · have negative : unpackSign b ≠ 0#1 := by
      intro zero
      rw [zero, BitVec.toNat_ofNat] at sign
      omega
    rw [if_neg negative, decide_eq_true high]
    rfl
  · have positive : unpackSign b = 0#1 := by
      apply BitVec.eq_of_toNat_eq
      rw [sign, BitVec.toNat_ofNat]
      omega
    rw [if_pos positive, decide_eq_false high]
    rfl

theorem unpackMantissa_eq_zero_iff : unpackMantissa b = 0#52 ↔ b.toNat % 0x10000000000000 = 0 := by
  rw [← toNat_unpackMantissa, ← BitVec.toNat_inj]
  rfl

theorem unpackExponent_eq_zero_iff :
    unpackExponent b = 0#11 ↔ b.toNat / 0x10000000000000 % 0x800 = 0 := by
  rw [← toNat_unpackExponent, ← BitVec.toNat_inj]
  rfl

theorem unpackExponent_eq_last_iff :
    unpackExponent b = -1#11 ↔ b.toNat / 0x10000000000000 % 0x800 = 2047 := by
  rw [← toNat_unpackExponent, ← BitVec.toNat_inj]
  rfl

theorem toNat_implicit (m : BitVec 52) : (1#1 ++ m).toNat = 0x10000000000000 + m.toNat := by
  rw [BitVec.toNat_append, ← Nat.shiftLeft_add_eq_or_of_lt m.isLt]
  rfl

end Parts

/-- Taking a double apart by its bits finds the parts that it stands for. -/
theorem Binary.ofFloat?_eq (x : Float) :
    Binary.ofFloat? x =
      match x.toModel.unpack with
      | .zero s => some ⟨s == .negative, 0, -1074⟩
      | .finite s m e _ => some ⟨s == .negative, m, e⟩
      | .infinity _ | .notANumber => none := by
  unfold Binary.ofFloat? Float.Model.unpack UnpackedFloat.unpack
  obtain ⟨b, bits⟩ : ∃ b : BitVec Format.binary64.numBits, x.toModel.toBits.toBitVec = b :=
    ⟨_, rfl⟩
  have word : x.toBits.toNat = b.toNat := by
    rw [← bits]
    rfl
  rw [word, bits]
  dsimp only
  by_cases last : b.toNat / 0x10000000000000 % 0x800 = 2047
  · rw [if_pos last, if_pos ((unpackExponent_eq_last_iff b).2 last)]
    by_cases zero : b.toNat % 0x10000000000000 = 0
    · rw [if_pos ((unpackMantissa_eq_zero_iff b).2 zero)]
    · rw [if_neg ((unpackMantissa_eq_zero_iff b).not.2 zero)]
  · rw [if_neg last, if_neg ((unpackExponent_eq_last_iff b).not.2 last)]
    by_cases least : b.toNat / 0x10000000000000 % 0x800 = 0
    · rw [if_pos least, if_pos ((unpackExponent_eq_zero_iff b).2 least)]
      by_cases zero : b.toNat % 0x10000000000000 = 0
      · rw [dif_pos ((unpackMantissa_eq_zero_iff b).2 zero), zero, ← ofBitVec_unpackSign]
      · rw [dif_neg ((unpackMantissa_eq_zero_iff b).not.2 zero)]
        apply congrArg some
        show _ = Binary.mk (Sign.ofBitVec (unpackSign b) == .negative) (unpackMantissa b).toNat
          ((unpackExponent b).toNat - (1023 + 52) + 1)
        rw [ofBitVec_unpackSign, toNat_unpackMantissa, toNat_unpackExponent, least]
        rfl
    · rw [if_neg least, if_neg ((unpackExponent_eq_zero_iff b).not.2 least)]
      apply congrArg some
      show _ = Binary.mk (Sign.ofBitVec (unpackSign b) == .negative)
        (1#1 ++ unpackMantissa b).toNat ((unpackExponent b).toNat - (1023 + 52))
      rw [ofBitVec_unpackSign, toNat_implicit, toNat_unpackMantissa, toNat_unpackExponent]
      rfl

/-! ## Whole numbers -/

namespace Binary

variable {b : Binary} {n : Int}

/-- The mantissa with its sign. -/
def signed (b : Binary) : Int := if b.negative then -b.mantissa else b.mantissa

/-- The integer part, with its sign. -/
def truncated (b : Binary) : Int := if b.negative then -b.wholePart else b.wholePart

theorem mul_zpow_eq_iff (a n : Int) (k : Nat) : (a : ℚ) * 2 ^ (k : Int) = n ↔ a * 2 ^ k = n := by
  rw [zpow_natCast]
  norm_cast

theorem mul_zpow_neg_eq_iff (a n : Int) (k : Nat) :
    (a : ℚ) * 2 ^ (-(k : Int)) = n ↔ a = n * 2 ^ k := by
  rw [zpow_neg, zpow_natCast, ← div_eq_mul_inv, div_eq_iff (pow_ne_zero k two_ne_zero)]
  norm_cast

/-- With an exponent that is not negative, the integer part is the number. -/
theorem truncated_of_nonneg {k : Nat} (h : b.exponent = k) :
    b.isWhole = true ∧ b.truncated = b.signed * 2 ^ k := by
  have nonneg : 0 ≤ b.exponent := by omega
  constructor
  · unfold isWhole
    simp [nonneg]
  · unfold truncated signed wholePart
    rw [if_pos nonneg, h]
    split <;> simp

theorem div_eq_iff_mul (m k : Nat) (a : Int) :
    m % 2 ^ k = 0 ∧ ((m / 2 ^ k : Nat) : Int) = a ↔ (m : Int) = a * 2 ^ k := by
  have scale : 0 < 2 ^ k := Nat.two_pow_pos k
  constructor
  · rintro ⟨divides, rfl⟩
    exact_mod_cast (Nat.div_mul_cancel (Nat.dvd_of_mod_eq_zero divides)).symm
  · intro same
    obtain ⟨t, rfl⟩ : ∃ t : Nat, a = t := by
      apply Int.eq_ofNat_of_zero_le
      have nonneg : 0 ≤ a * 2 ^ k := same ▸ Int.natCast_nonneg m
      exact nonneg_of_mul_nonneg_left nonneg (by exact_mod_cast scale)
    have same : m = t * 2 ^ k := by exact_mod_cast same
    rw [same, Nat.mul_mod_left, Nat.mul_div_cancel t scale]
    exact ⟨rfl, rfl⟩

/-- With a negative exponent, the number is an integer just if the mantissa can be divided. -/
theorem truncated_of_neg {k : Nat} (h : b.exponent = -(k : Int)) (pos : 0 < k) :
    b.isWhole = true ∧ b.truncated = n ↔ b.signed = n * 2 ^ k := by
  have neg : ¬ 0 ≤ b.exponent := by omega
  have magnitude : b.exponent.natAbs = k := by omega
  have divided : b.isWhole = true ↔ b.mantissa % 2 ^ k = 0 := by
    unfold isWhole
    rw [decide_eq_false neg, magnitude, Bool.false_or, beq_iff_eq]
    rfl
  have part : b.wholePart = b.mantissa / 2 ^ k := by
    unfold wholePart
    rw [if_neg neg, magnitude]
    rfl
  rw [divided, truncated, signed, part]
  cases b.negative with
  | true =>
    have negated := div_eq_iff_mul b.mantissa k (-n)
    rw [Int.neg_mul] at negated
    simp only [if_pos]
    omega
  | false => exact div_eq_iff_mul b.mantissa k n

/-- The number that the parts stand for is an integer just if it is whole, and the integer is then
the integer part. -/
theorem truncated_eq_iff :
    b.isWhole = true ∧ b.truncated = n ↔ (b.signed : ℚ) * 2 ^ b.exponent = n := by
  obtain ⟨k, nonneg | neg⟩ := b.exponent.eq_nat_or_neg
  · obtain ⟨whole, part⟩ := truncated_of_nonneg nonneg
    rw [nonneg, mul_zpow_eq_iff, part]
    simp [whole]
  · rcases Nat.eq_zero_or_pos k with rfl | pos
    · obtain ⟨whole, part⟩ := truncated_of_nonneg (b := b) (k := 0) (by omega)
      rw [neg, mul_zpow_neg_eq_iff, part]
      simp [whole]
    · rw [neg, mul_zpow_neg_eq_iff]
      exact truncated_of_neg neg pos

end Binary

theorem exactly?_eq (x : Float) :
    exactly? x = (Binary.ofFloat? x).map fun b => (b.signed : ℚ) * 2 ^ b.exponent := by
  rw [Binary.ofFloat?_eq, exactly?]
  cases x.toModel.unpack with
  | zero s => cases s <;> simp [Binary.signed]
  | finite s m e _ => cases s <;> rfl
  | infinity s => rfl
  | notANumber => rfl

/-- **Whole doubles.** The integer that a double is found to equal is the number it stands for. -/
theorem whole?_eq_some_iff {x : Float} {n : Int} :
    whole? x = some n ↔ exactly? x = some (n : ℚ) := by
  rw [exactly?_eq, whole?, truncate?]
  cases Binary.ofFloat? x with
  | none => simp
  | some b =>
    show (if b.isWhole then some b.truncated else none) = some n ↔ some _ = some (n : ℚ)
    rw [Option.some.injEq, ← Binary.truncated_eq_iff]
    cases b.isWhole <;> simp

end MarketDesk.Decimal
