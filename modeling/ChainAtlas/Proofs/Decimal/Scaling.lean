import ChainAtlas.Proofs.Decimal.Value
import Mathlib.Tactic.Linarith
import Mathlib.Tactic.Tauto

/-!
# Scaling by a power of ten, and where digits get lost

`Decimal.scale` keeps all digits of a coefficient, but it does not keep all exponents: below
`leastLeadingExponent` it rounds the coefficient to the last place that is left, and a small enough
number is rounded to zero.  This file says exactly when that matters.

* `magnitude_scale`: as long as the scaled exponent is not too small, scaling is exact.
* `IsLostByScaling`: the number is at most half of the smallest unit that a scaled number with as
  many digits can have.  Of all numbers but zero, exactly these are scaled to zero
  (`isLostByScaling_iff_of_lt`).
* `natCast_eq_magnitude_scale_iff`: so scaling makes a fraction into a whole number in no other way
  than by making zero of a number that is lost.

Between the two there are numbers that are rounded and not lost.  They are no danger: rounded or
not, they are fractions far below one, and a fraction is never taken for a whole number.
-/

namespace ChainAtlas
namespace Numeral

/-- A quotient is rounded to zero up to one half, because the even neighbour of one half is zero. -/
theorem roundHalfEven_eq_zero_iff {numerator denominator : ℕ} (h : 0 < denominator) :
    roundHalfEven numerator denominator = 0 ↔ 2 * numerator ≤ denominator := by
  have hsplit := Nat.div_add_mod numerator denominator
  have hmod := Nat.mod_lt numerator h
  simp only [roundHalfEven]
  rcases Nat.eq_zero_or_pos (numerator / denominator) with hq | hq
  · rw [hq, Nat.mul_zero, Nat.zero_add] at hsplit
    rw [hq, hsplit]
    split_ifs with hbelow habove
    · exact iff_of_true rfl hbelow.le
    · exact iff_of_false (by simp) (by omega)
    · exact iff_of_true rfl (by omega)
  · have hle : denominator ≤ denominator * (numerator / denominator) :=
      Nat.le_mul_of_pos_right _ hq
    refine iff_of_false (fun hzero => ?_) (by omega)
    split_ifs at hzero <;> omega

/-- Rounding a quotient by at least two never makes a number larger. -/
theorem roundHalfEven_le {numerator denominator : ℕ} (h : 2 ≤ denominator) :
    roundHalfEven numerator denominator ≤ numerator := by
  rcases Nat.eq_zero_or_pos (roundHalfEven numerator denominator) with hzero | hpos
  · omega
  · have hsplit := Nat.div_add_mod numerator denominator
    have hdouble : 2 * (numerator / denominator) ≤ denominator * (numerator / denominator) :=
      Nat.mul_le_mul_right _ h
    have hbig : denominator < 2 * numerator := by
      by_contra hle
      have := (roundHalfEven_eq_zero_iff (by omega)).2 (Nat.le_of_not_lt hle)
      omega
    simp only [roundHalfEven] at hpos ⊢
    split_ifs at hpos ⊢ <;> omega

namespace Decimal

variable {d : Decimal} {power : ℕ}

/-- The least exponent that a scaled number can have, given the digits of its coefficient. -/
def leastScaledExponent (d : Decimal) : ℤ := leastLeadingExponent - (d.precision - 1 : ℕ)

/-- Whether a number that is not zero is scaled to zero: it is then at most half of the smallest
unit. -/
def IsLostByScaling (d : Decimal) (power : ℕ) : Prop :=
  0 < d.magnitude ∧ 2 * (d.magnitude * 10 ^ power) ≤ (10 : ℚ) ^ d.leastScaledExponent

theorem magnitude_mul_pow (d : Decimal) (power : ℕ) :
    d.magnitude * 10 ^ power = d.coefficient * (10 : ℚ) ^ (d.exponent + power) := by
  rw [magnitude, zpow_add₀ (by norm_num), zpow_natCast, mul_assoc]

theorem scale_eq_of_le (h : d.leastScaledExponent ≤ d.exponent + power) :
    d.scale power = { d with exponent := d.exponent + power } := by
  rw [leastScaledExponent] at h
  simp [scale, h]

/-- **Scaling is exact** unless the scaled exponent is too small. -/
theorem magnitude_scale (h : d.leastScaledExponent ≤ d.exponent + power) :
    (d.scale power).magnitude = d.magnitude * 10 ^ power := by
  rw [scale_eq_of_le h, magnitude_mul_pow, magnitude]

/-! ## Below the least exponent -/

/-- The shortcut for numbers that are far too small agrees with rounding. -/
theorem coefficient_scale_of_lt (h : d.exponent + power < d.leastScaledExponent) :
    (d.scale power).coefficient =
      roundHalfEven d.coefficient (10 ^ (d.leastScaledExponent - (d.exponent + power)).toNat) := by
  have hnot : ¬ d.leastScaledExponent ≤ d.exponent + power := by omega
  rw [leastScaledExponent] at hnot ⊢
  simp only [scale, hnot, if_false]
  split_ifs with hshort
  · have hlt : d.coefficient < 10 ^ d.precision := lt_pow_digitCount d.coefficient
    have hpow := Nat.pow_le_pow_right (n := 10) (by norm_num) hshort
    rw [Nat.pow_succ] at hpow
    exact ((roundHalfEven_eq_zero_iff (by positivity)).2 (by omega)).symm
  · rfl

theorem exponent_scale_of_lt (h : d.exponent + power < d.leastScaledExponent) :
    (d.scale power).exponent = d.leastScaledExponent := by
  have hnot : ¬ d.leastScaledExponent ≤ d.exponent + power := by omega
  rw [leastScaledExponent] at hnot ⊢
  simp [scale, hnot]

/-- What is scaled below the least exponent is a fraction of one. -/
theorem magnitude_scale_lt_one (h : d.exponent + power < d.leastScaledExponent) :
    (d.scale power).magnitude < 1 := by
  have hpos : 0 < d.precision := digitCount_pos d.coefficient
  have htwo : 2 ≤ 10 ^ (d.leastScaledExponent - (d.exponent + power)).toNat :=
    calc 2 ≤ 10 ^ 1 := by norm_num
      _ ≤ _ := Nat.pow_le_pow_right (by norm_num) (by omega)
  have hlt : (d.scale power).coefficient < 10 ^ d.precision := by
    rw [coefficient_scale_of_lt h]
    exact (roundHalfEven_le htwo).trans_lt (lt_pow_digitCount d.coefficient)
  rw [magnitude, exponent_scale_of_lt h]
  calc ((d.scale power).coefficient : ℚ) * 10 ^ d.leastScaledExponent
      < ((10 ^ d.precision : ℕ) : ℚ) * 10 ^ d.leastScaledExponent :=
        mul_lt_mul_of_pos_right (Nat.cast_lt.2 hlt) (ten_zpow_pos _)
    _ = 10 ^ ((d.precision : ℤ) + d.leastScaledExponent) := by
        rw [zpow_add₀ (by norm_num), zpow_natCast]
        push_cast
        rfl
    _ ≤ 10 ^ (0 : ℤ) := zpow_le_zpow_right₀ (by norm_num) (by
        rw [leastScaledExponent, leastLeadingExponent]
        omega)
    _ = 1 := zpow_zero 10

/-- The unscaled digits below the least exponent are a fraction of one as well. -/
theorem magnitude_mul_pow_lt_one (h : d.exponent + power < d.leastScaledExponent) :
    d.magnitude * 10 ^ power < 1 := by
  have hlt : (d.coefficient : ℚ) < ((10 ^ d.precision : ℕ) : ℚ) :=
    Nat.cast_lt.2 (lt_pow_digitCount d.coefficient)
  have hpos : 0 < d.precision := digitCount_pos d.coefficient
  calc d.magnitude * 10 ^ power
      = d.coefficient * (10 : ℚ) ^ (d.exponent + power) := magnitude_mul_pow d power
    _ < ((10 ^ d.precision : ℕ) : ℚ) * 10 ^ (d.exponent + power) :=
        mul_lt_mul_of_pos_right hlt (ten_zpow_pos _)
    _ = 10 ^ ((d.precision : ℤ) + (d.exponent + power)) := by
        rw [zpow_add₀ (by norm_num) (d.precision : ℤ), zpow_natCast]
        push_cast
        rfl
    _ ≤ 10 ^ (0 : ℤ) := zpow_le_zpow_right₀ (by norm_num) (by
        rw [leastScaledExponent, leastLeadingExponent] at h
        omega)
    _ = 1 := zpow_zero 10

/-! ## What is lost -/

/-- Only a number whose scaled exponent is too small can be lost. -/
theorem lt_of_isLostByScaling (h : d.IsLostByScaling power) :
    d.exponent + power < d.leastScaledExponent := by
  by_contra hle
  have hone : (1 : ℚ) ≤ d.coefficient :=
    Nat.one_le_cast.2 (Nat.one_le_iff_ne_zero.2 (magnitude_pos_iff.1 h.1))
  have hpow : (10 : ℚ) ^ d.leastScaledExponent ≤ 10 ^ (d.exponent + (power : ℤ)) :=
    zpow_le_zpow_right₀ (by norm_num) (not_lt.1 hle)
  have hle' : (10 : ℚ) ^ (d.exponent + (power : ℤ)) ≤ d.magnitude * 10 ^ power := by
    rw [magnitude_mul_pow]
    exact le_mul_of_one_le_left (ten_zpow_pos _).le hone
  have hscaled : 0 < d.magnitude * 10 ^ power := mul_pos h.1 (by positivity)
  linarith [h.2]

/-- **What is lost** is exactly what is scaled to zero without being zero. -/
theorem isLostByScaling_iff_of_lt (h : d.exponent + power < d.leastScaledExponent) :
    d.IsLostByScaling power ↔ d.coefficient ≠ 0 ∧ (d.scale power).coefficient = 0 := by
  have hgap : d.leastScaledExponent =
      ((d.leastScaledExponent - (d.exponent + power)).toNat : ℤ) + (d.exponent + power) := by
    omega
  rw [IsLostByScaling, magnitude_pos_iff, coefficient_scale_of_lt h,
    roundHalfEven_eq_zero_iff (by positivity)]
  refine and_congr_right fun _ => ?_
  rw [magnitude_mul_pow, ← mul_assoc]
  conv_lhs => rhs; rw [hgap, zpow_add₀ (by norm_num), zpow_natCast]
  rw [mul_le_mul_iff_left₀ (ten_zpow_pos _)]
  exact_mod_cast Iff.rfl

/-- Below one there is no whole number but zero. -/
theorem natCast_eq_iff_of_lt_one {q : ℚ} (h : q < 1) (n : ℕ) : (n : ℚ) = q ↔ n = 0 ∧ q = 0 := by
  constructor
  · rintro rfl
    have hzero : n = 0 := Nat.lt_one_iff.1 (by exact_mod_cast h)
    exact ⟨hzero, Nat.cast_eq_zero.2 hzero⟩
  · rintro ⟨rfl, rfl⟩
    exact Nat.cast_zero

/-- **Scaling makes a whole number** of what it does not lose exactly when the scaled number is
whole, and zero of what it loses. -/
theorem natCast_eq_magnitude_scale_iff (n : ℕ) :
    (n : ℚ) = (d.scale power).magnitude ↔
      d.IsLostByScaling power ∧ n = 0 ∨
        ¬ d.IsLostByScaling power ∧ (n : ℚ) = d.magnitude * 10 ^ power := by
  by_cases hle : d.leastScaledExponent ≤ d.exponent + power
  · have hkept : ¬ d.IsLostByScaling power := fun hlost =>
      absurd (lt_of_isLostByScaling hlost) (not_lt.2 hle)
    rw [magnitude_scale hle]
    simp [hkept]
  · have hlt : d.exponent + power < d.leastScaledExponent := not_le.1 hle
    -- both numbers are below one, so zero is the only whole number that they may be
    have hscaled : (n : ℚ) = (d.scale power).magnitude ↔
        n = 0 ∧ (d.scale power).coefficient = 0 := by
      rw [natCast_eq_iff_of_lt_one (magnitude_scale_lt_one hlt), magnitude_eq_zero_iff]
    have hexact : (n : ℚ) = d.magnitude * 10 ^ power ↔ n = 0 ∧ d.coefficient = 0 := by
      have hpow : (10 : ℚ) ^ power ≠ 0 := by positivity
      rw [natCast_eq_iff_of_lt_one (magnitude_mul_pow_lt_one hlt), mul_eq_zero,
        or_iff_left hpow, magnitude_eq_zero_iff]
    have hround : d.coefficient = 0 → (d.scale power).coefficient = 0 := by
      intro hzero
      rw [coefficient_scale_of_lt hlt, hzero]
      exact (roundHalfEven_eq_zero_iff (by positivity)).2 (Nat.zero_le _)
    rw [hscaled, hexact, isLostByScaling_iff_of_lt hlt]
    tauto

end Decimal
end Numeral
end ChainAtlas
