import ChainAtlas.Numeral.Positional
import Mathlib.Data.Nat.Digits.Lemmas

/-!
# What positional numerals denote

The digits of a numeral are read from the left, and they denote what they do by their places, counted
from the right; `ofDigits_eq_ofDigits_reverse` is the bridge to `Nat.ofDigits` and all that is known of
it.  A number is shown in decimal when it has no more digits than the limit, that is when it is below a
power of ten.
-/

namespace ChainAtlas
namespace Numeral

/-- Reading digits from the left gives what they denote by their places, counted from the right. -/
theorem ofDigits_eq_ofDigits_reverse (base : ℕ) (ds : List ℕ) :
    ofDigits base ds = Nat.ofDigits base ds.reverse := by
  induction ds using List.reverseRecOn with
  | nil => rfl
  | append_singleton ds d ih =>
    have hd : ofDigits base [d] = d := by rw [ofDigits_cons]; simp
    rw [ofDigits_append, ih, hd, List.reverse_append, List.reverse_singleton,
      List.singleton_append, Nat.ofDigits_cons, List.length_singleton, pow_one, mul_comm, add_comm]

/-- Zeros in front are no part of a number. -/
theorem ofDigits_zeros_append (base n : ℕ) (ds : List ℕ) :
    ofDigits base (List.replicate n 0 ++ ds) = ofDigits base ds := by
  induction n with
  | zero => rfl
  | succ n ih => rw [List.replicate_succ, List.cons_append, ofDigits_zero_cons, ih]

theorem ofDigits_power (base n : ℕ) : ofDigits base (1 :: List.replicate n 0) = base ^ n := by
  have hzeros : ofDigits base (List.replicate n 0) = 0 := by
    simpa using ofDigits_zeros_append base n []
  rw [ofDigits_cons, hzeros, List.length_replicate, Nat.one_mul, Nat.add_zero]

/-! ## Numbers that can be shown -/

theorem lt_pow_digitLimit {n : ℕ} (h : n < 100) : n < 10 ^ digitLimit :=
  calc n < 10 ^ 2 := h
    _ ≤ 10 ^ digitLimit := Nat.pow_le_pow_right (by norm_num) (by decide)

theorem isShowable_iff {n : ℤ} : isShowable n = true ↔ n.natAbs < 10 ^ digitLimit := by
  rw [isShowable, decide_eq_true_eq]

theorem isShowable_natCast_iff {n : ℕ} : isShowable n = true ↔ n < 10 ^ digitLimit := by
  rw [isShowable_iff, Int.natAbs_natCast]

end Numeral
end ChainAtlas
