/-!
# Positional numerals

A numeral is a list of digits, most significant first, and denotes a number in any base.  Reading is
a left fold, so a numeral is read from left to right exactly as it is typed; leading zeros change
nothing, and appending one numeral to another shifts the first by as many places as the second has.
-/

namespace ChainAtlas
namespace Numeral

/-- Powers are the core library's, also in a file that knows of monoids. -/
local instance corePow {α : Type} [NatPow α] : Pow α Nat := instPowNat

/-- The number that a list of digits denotes in a base. -/
def ofDigits (base : Nat) (digits : List Nat) : Nat :=
  digits.foldl (fun n digit => n * base + digit) 0

@[simp] theorem ofDigits_nil (base : Nat) : ofDigits base [] = 0 := rfl

theorem foldl_digits (base : Nat) (digits : List Nat) (start : Nat) :
    digits.foldl (fun n digit => n * base + digit) start =
      start * base ^ digits.length + ofDigits base digits := by
  induction digits generalizing start with
  | nil => simp
  | cons d ds ih =>
    simp only [ofDigits, List.foldl_cons, List.length_cons]
    rw [ih (start * base + d), ih (0 * base + d), Nat.pow_succ]
    simp [Nat.add_mul, Nat.mul_assoc, Nat.mul_comm base, Nat.add_assoc]

theorem ofDigits_cons (base d : Nat) (ds : List Nat) :
    ofDigits base (d :: ds) = d * base ^ ds.length + ofDigits base ds := by
  simpa [ofDigits] using foldl_digits base ds d

theorem ofDigits_append (base : Nat) (xs ys : List Nat) :
    ofDigits base (xs ++ ys) = ofDigits base xs * base ^ ys.length + ofDigits base ys := by
  simp only [ofDigits, List.foldl_append]
  exact foldl_digits base ys _

/-- A leading zero is no part of the number. -/
@[simp] theorem ofDigits_zero_cons (base : Nat) (ds : List Nat) :
    ofDigits base (0 :: ds) = ofDigits base ds := by
  simp [ofDigits_cons]

/-- A numeral is smaller than the power of the base that its length names. -/
theorem ofDigits_lt_pow {base : Nat} {ds : List Nat} (h : ∀ d ∈ ds, d < base) :
    ofDigits base ds < base ^ ds.length := by
  induction ds with
  | nil => simp
  | cons d ds ih =>
    have hd : d < base := h d List.mem_cons_self
    have hds := ih fun x hx => h x (List.mem_cons_of_mem _ hx)
    rw [ofDigits_cons, List.length_cons, Nat.pow_succ]
    calc d * base ^ ds.length + ofDigits base ds
        < d * base ^ ds.length + base ^ ds.length := by omega
      _ = (d + 1) * base ^ ds.length := by rw [Nat.add_mul, Nat.one_mul]
      _ ≤ base * base ^ ds.length := Nat.mul_le_mul_right _ hd
      _ = base ^ ds.length * base := Nat.mul_comm _ _

/-- Count decimal digits, dividing by ten at most `steps` times. -/
def digitCountWithin : (steps : Nat) → (n : Nat) → Nat
  | 0, _ => 1
  | steps + 1, n => if n < 10 then 1 else digitCountWithin steps (n / 10) + 1

/-- The number of decimal digits that a number is written with. -/
def digitCount (n : Nat) : Nat := digitCountWithin n n

theorem digitCount_pos (n : Nat) : 0 < digitCount n := by
  cases n with
  | zero => decide
  | succ n => simp only [digitCount, digitCountWithin]; split <;> omega

theorem lt_pow_digitCountWithin {steps n : Nat} (h : n ≤ steps) :
    n < 10 ^ digitCountWithin steps n := by
  induction steps generalizing n with
  | zero => simp [digitCountWithin, Nat.le_zero.1 h]
  | succ steps ih =>
    rw [digitCountWithin]
    split
    · omega
    · have := ih (n := n / 10) (by omega)
      rw [Nat.pow_succ]; omega

/-- A number is smaller than the power of ten that its digit count names. -/
theorem lt_pow_digitCount (n : Nat) : n < 10 ^ digitCount n :=
  lt_pow_digitCountWithin (Nat.le_refl n)

theorem pow_le_of_digitCountWithin {steps n : Nat} (h : n ≠ 0) :
    10 ^ (digitCountWithin steps n - 1) ≤ n := by
  induction steps generalizing n with
  | zero => simpa [digitCountWithin] using Nat.one_le_iff_ne_zero.2 h
  | succ steps ih =>
    rw [digitCountWithin]
    split
    · simpa using Nat.one_le_iff_ne_zero.2 h
    · have := ih (n := n / 10) (by omega)
      cases hc : digitCountWithin steps (n / 10) with
      | zero => simp; omega
      | succ k =>
        rw [hc] at this
        simp only [Nat.add_sub_cancel] at this ⊢
        rw [Nat.pow_succ]; omega

/-- A positive number is not smaller than the power of ten one below. -/
theorem pow_le_of_digitCount {n : Nat} (h : n ≠ 0) : 10 ^ (digitCount n - 1) ≤ n :=
  pow_le_of_digitCountWithin h

/-- The greatest number of decimal digits that a whole number may be read or shown with. -/
def digitLimit : Nat := 4300

/-- Whether a whole number is short enough to be shown in decimal. -/
def isShowable (n : Int) : Bool := n.natAbs < 10 ^ digitLimit

/-- The value of an ASCII decimal digit. -/
def digit? (c : Char) : Option Nat :=
  if '0' ≤ c ∧ c ≤ '9' then some (c.toNat - 0x30) else none

/-- The values of a list of ASCII decimal digits. -/
def digits? (text : List Char) : Option (List Nat) := text.mapM digit?

/-- The nearest whole number to a quotient; of two equally near ones the even one. -/
def roundHalfEven (numerator denominator : Nat) : Nat :=
  let quotient := numerator / denominator
  let twice := 2 * (numerator % denominator)
  if twice < denominator then quotient
  else if denominator < twice then quotient + 1
  else quotient + quotient % 2

end Numeral
end ChainAtlas
