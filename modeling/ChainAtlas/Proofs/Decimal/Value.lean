import ChainAtlas.Numeral.Decimal
import Mathlib.Algebra.Order.Field.Power
import Mathlib.Tactic.NormNum
import Mathlib.Tactic.Positivity

/-!
# The rational number that a decimal denotes

A decimal is kept as a coefficient and an exponent, and everything that is asked of it --- whether
it is below a power of ten, whether it is whole, which whole number it is --- is answered from the
number of its digits, so that no huge power of ten is ever computed.  Here every one of these
answers is tied to the rational number that the decimal denotes.

* `isBelowPow_iff`: the comparison of leading exponents is a comparison of numbers.
* `isBelowZero_iff`: a negative zero is not below zero.
* `isWhole_iff`, `isWhole_and_toNat_eq_iff`: the test for wholeness is exact, and so is the whole
  number.

The key fact is `magnitude_mem_decade`: a number that is not zero lies in the decade that the number
of its digits names.
-/

namespace ChainAtlas
namespace Numeral
namespace Decimal

/-- The number that a decimal denotes, the sign being left aside. -/
def magnitude (d : Decimal) : ℚ := d.coefficient * (10 : ℚ) ^ d.exponent

/-- The number that a decimal denotes. -/
def value (d : Decimal) : ℚ := if d.negative then -d.magnitude else d.magnitude

variable {d : Decimal}

theorem ten_zpow_pos (power : ℤ) : (0 : ℚ) < 10 ^ power := zpow_pos (by norm_num) power

theorem magnitude_nonneg (d : Decimal) : 0 ≤ d.magnitude :=
  mul_nonneg (Nat.cast_nonneg _) (ten_zpow_pos _).le

/-- A magnitude vanishes with its coefficient. -/
theorem magnitude_eq_zero_iff : d.magnitude = 0 ↔ d.coefficient = 0 := by
  rw [magnitude, mul_eq_zero, Nat.cast_eq_zero]
  exact or_iff_left (ten_zpow_pos _).ne'

theorem magnitude_pos_iff : 0 < d.magnitude ↔ d.coefficient ≠ 0 := by
  rw [lt_iff_le_and_ne, ne_comm, ne_eq, magnitude_eq_zero_iff]
  exact and_iff_right (magnitude_nonneg d)

/-- Whether a decimal is below zero. -/
theorem isBelowZero_iff : d.isBelowZero = true ↔ d.value < 0 := by
  rw [isBelowZero, Bool.and_eq_true, bne_iff_ne, ← magnitude_pos_iff, value]
  cases d.negative with
  | false => simpa using magnitude_nonneg d
  | true => simp

/-- A number that is not below zero is its own magnitude. -/
theorem value_eq_magnitude (h : 0 ≤ d.value) : d.value = d.magnitude := by
  rw [value] at h ⊢
  cases hneg : d.negative with
  | false => rfl
  | true =>
    rw [hneg, if_pos rfl] at h
    have hzero : d.magnitude = 0 := le_antisymm (neg_nonneg.1 h) (magnitude_nonneg d)
    rw [if_pos rfl, hzero, neg_zero]

/-! ## Decades -/

/-- A number that is not zero lies between the power of ten of its first digit and the next one. -/
theorem magnitude_mem_decade (h : d.coefficient ≠ 0) :
    (10 : ℚ) ^ d.leadingExponent ≤ d.magnitude ∧
      d.magnitude < (10 : ℚ) ^ (d.leadingExponent + 1) := by
  have hlow : ((10 ^ (d.precision - 1) : ℕ) : ℚ) ≤ d.coefficient :=
    Nat.cast_le.2 (pow_le_of_digitCount h)
  have hhigh : (d.coefficient : ℚ) < ((10 ^ d.precision : ℕ) : ℚ) :=
    Nat.cast_lt.2 (lt_pow_digitCount d.coefficient)
  have hpos : 0 < d.precision := digitCount_pos d.coefficient
  have hfirst : d.leadingExponent = ((d.precision - 1 : ℕ) : ℤ) + d.exponent := by
    rw [leadingExponent]; omega
  have hnext : d.leadingExponent + 1 = (d.precision : ℤ) + d.exponent := by
    rw [leadingExponent]; omega
  rw [hnext, hfirst, zpow_add₀ (by norm_num), zpow_add₀ (by norm_num), zpow_natCast,
    zpow_natCast, magnitude]
  push_cast at hlow hhigh
  exact ⟨mul_le_mul_of_nonneg_right hlow (ten_zpow_pos _).le,
    mul_lt_mul_of_pos_right hhigh (ten_zpow_pos _)⟩

/-- Being below a power of ten is told from the leading exponent. -/
theorem isBelowPow_iff (power : ℤ) : d.isBelowPow power = true ↔ d.magnitude < 10 ^ power := by
  rw [isBelowPow, Bool.or_eq_true, beq_iff_eq, decide_eq_true_eq]
  by_cases hzero : d.coefficient = 0
  · have hmag : d.magnitude = 0 := magnitude_eq_zero_iff.2 hzero
    simp [hzero, hmag, ten_zpow_pos power]
  · obtain ⟨hlow, hhigh⟩ := magnitude_mem_decade hzero
    rw [or_iff_right hzero]
    constructor
    · intro hlt
      exact hhigh.trans_le (zpow_le_zpow_right₀ (by norm_num) (by omega))
    · intro hlt
      exact (zpow_lt_zpow_iff_right₀ (by norm_num)).1 (hlow.trans_lt hlt)

/-! ## Whole numbers -/

/-- A number with an exponent that is not negative is whole. -/
theorem magnitude_of_exponent_nonneg (h : 0 ≤ d.exponent) :
    d.magnitude = ((d.coefficient * 10 ^ d.exponent.toNat : ℕ) : ℚ) := by
  have hexp : d.exponent = (d.exponent.toNat : ℤ) := by omega
  rw [magnitude, hexp, zpow_natCast, Int.toNat_natCast]
  push_cast
  rfl

/-- A number with a negative exponent is a quotient by a power of ten. -/
theorem magnitude_of_exponent_neg (h : d.exponent < 0) :
    d.magnitude = (d.coefficient : ℚ) / ((10 ^ (-d.exponent).toNat : ℕ) : ℚ) := by
  have hexp : d.exponent = -((-d.exponent).toNat : ℤ) := by omega
  rw [magnitude, hexp, zpow_neg, zpow_natCast, ← div_eq_mul_inv, neg_neg, Int.toNat_natCast]
  push_cast
  rfl

/-- With a negative exponent, the whole numbers are the coefficients that its power of ten divides.
-/
theorem natCast_eq_magnitude_iff_of_neg (h : d.exponent < 0) (n : ℕ) :
    (n : ℚ) = d.magnitude ↔ n * 10 ^ (-d.exponent).toNat = d.coefficient := by
  have hpow : ((10 ^ (-d.exponent).toNat : ℕ) : ℚ) ≠ 0 := by positivity
  rw [magnitude_of_exponent_neg h, eq_div_iff hpow, ← Nat.cast_mul, Nat.cast_inj]

/-- A whole number is what `toNat` says it is. -/
theorem isWhole_and_toNat_eq_iff (n : ℕ) :
    (d.isWhole = true ∧ d.toNat = n) ↔ (n : ℚ) = d.magnitude := by
  rw [isWhole, toNat]
  by_cases hzero : d.coefficient = 0
  · have hmag : d.magnitude = 0 := magnitude_eq_zero_iff.2 hzero
    simp [hzero, hmag, eq_comm]
  by_cases hexp : 0 ≤ d.exponent
  · rw [magnitude_of_exponent_nonneg hexp, Nat.cast_inj]
    simp [hzero, hexp, eq_comm]
  · have hneg : d.exponent < 0 := by omega
    rw [natCast_eq_magnitude_iff_of_neg hneg]
    have hpow : 0 < 10 ^ (-d.exponent).toNat := by positivity
    by_cases hlong : (-d.exponent).toNat < d.precision
    · simp only [hzero, hexp, hlong, if_true, if_false, beq_iff_eq, Bool.or_eq_true,
        Bool.and_eq_true, decide_eq_true_eq, false_or, true_and]
      constructor
      · rintro ⟨hmod, rfl⟩
        exact Nat.div_mul_cancel (Nat.dvd_of_mod_eq_zero hmod)
      · intro hn
        rw [← hn]
        exact ⟨Nat.mul_mod_left _ _, Nat.mul_div_cancel _ hpow⟩
    · -- the power of ten is longer than the coefficient, so it divides nothing but zero
      have hlt : d.coefficient < 10 ^ (-d.exponent).toNat :=
        (lt_pow_digitCount d.coefficient).trans_le
          (Nat.pow_le_pow_right (by norm_num) (Nat.le_of_not_lt hlong))
      simp only [hzero, hexp, hlong, if_false, beq_iff_eq, Bool.or_eq_true, Bool.and_eq_true,
        decide_eq_true_eq, false_or, false_and]
      constructor
      · exact False.elim
      · intro hn
        rcases Nat.eq_zero_or_pos n with rfl | hpos
        · exact hzero (by rw [← hn, Nat.zero_mul])
        · have hle : 10 ^ (-d.exponent).toNat ≤ n * 10 ^ (-d.exponent).toNat :=
            Nat.le_mul_of_pos_left _ hpos
          omega

/-- The test for wholeness is exact. -/
theorem isWhole_iff : d.isWhole = true ↔ ∃ n : ℕ, (n : ℚ) = d.magnitude := by
  constructor
  · intro h
    exact ⟨d.toNat, (isWhole_and_toNat_eq_iff _).1 ⟨h, rfl⟩⟩
  · rintro ⟨n, hn⟩
    exact ((isWhole_and_toNat_eq_iff n).2 hn).1

end Decimal
end Numeral
end ChainAtlas
