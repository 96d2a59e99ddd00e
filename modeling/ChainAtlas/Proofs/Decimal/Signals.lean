import ChainAtlas.Proofs.Decimal.Value

/-!
# Operations that may be stopped

A `Decimal` is a finite number, and every operation on it has a result.  What is read from a text
need not be a number: the words for infinity and for what is not a number are read too, and a text
may spell nothing at all.  Here the operations are taken on whatever was read, and each of them may
end in a signal instead of a result.

Of an operand that is no finite number one thing may be asked, namely whether it is one
(`Reading.isFinite`).  Every other operation counts as stopped by such an operand, also where some
operands of this sort would get through.  So whoever is never stopped here is never stopped at all.

Of the operations on finite numbers only scaling can be stopped, since a scaled number has to keep to
bounds that a number as it is read need not keep to (`Reading.scale_number`).  The lower bound makes
no signal; what happens there is the subject of `IsLostByScaling`.
-/

namespace ChainAtlas
namespace Numeral
namespace Decimal

/-- What stops an operation. -/
inductive Signal where
  /-- The operation has no result for its operands, or a text spells nothing. -/
  | invalidOperation
  /-- The exponent of the result is too large. -/
  | overflow
  /-- The result is to have no digits. -/
  | noPrecision
  deriving DecidableEq, Repr

/-- The greatest exponent of a scaled number's first digit. -/
def greatestScaledExponent : ℤ := 999999

namespace Reading

variable {d : Decimal} {power : ℕ}

/-- What a text spells, be it a number or a word. -/
def ofText (text : List Char) : Except Signal Reading :=
  match read? text with
  | none => .error .invalidOperation
  | some reading => .ok reading

/-- Whether what was read is a finite number. -/
def isFinite : Reading → Bool
  | .number _ => true
  | .infinity | .notANumber => false

/-- The finite number that an operation works on. -/
def operand : Reading → Except Signal Decimal
  | .number d => .ok d
  | .infinity | .notANumber => .error .invalidOperation

/-- Whether a number is less than another. -/
def isLess (reading : Reading) (bound : ℚ) : Except Signal Bool :=
  reading.operand.map fun d => decide (d.value < bound)

/-- Whether a number is another one than the whole number that it is rounded to. -/
def isFraction (reading : Reading) : Except Signal Bool := reading.operand.map fun d => !d.isWhole

/-- The whole number that a number is cut off to, the sign being left aside. -/
def toNat (reading : Reading) : Except Signal ℕ := reading.operand.map Decimal.toNat

/-- The number times a power of ten, at the precision of its own digits.  The power must be in
proportion to the bounds that the result has to keep to. -/
def scale (reading : Reading) (power : ℕ) : Except Signal Reading :=
  reading.operand.bind fun d =>
    if d.precision = 0 then .error .noPrecision
    else if 2 * (greatestScaledExponent + d.precision) < power then .error .invalidOperation
    else if d.coefficient ≠ 0 ∧ greatestScaledExponent < d.leadingExponent + power then
      .error .overflow
    else .ok (.number (d.scale power))

@[simp] theorem isLess_number (d : Decimal) (bound : ℚ) :
    (number d).isLess bound = .ok (decide (d.value < bound)) := rfl

@[simp] theorem isFraction_number (d : Decimal) : (number d).isFraction = .ok (!d.isWhole) := rfl

@[simp] theorem toNat_number (d : Decimal) : (number d).toNat = .ok d.toNat := rfl

/-- **Scaling is not stopped** by a zero, nor by a number that stays below the greatest exponent. -/
theorem scale_number (hpower : (power : ℤ) ≤ 2 * greatestScaledExponent)
    (hbound : d.coefficient ≠ 0 → d.leadingExponent + power ≤ greatestScaledExponent) :
    (number d).scale power = .ok (.number (d.scale power)) := by
  have hdigits : 0 < d.precision := digitCount_pos d.coefficient
  have hprecision : d.precision ≠ 0 := hdigits.ne'
  have hproportion : ¬ 2 * (greatestScaledExponent + d.precision) < (power : ℤ) := by omega
  have hoverflow : ¬ (d.coefficient ≠ 0 ∧ greatestScaledExponent < d.leadingExponent + power) :=
    fun h => absurd h.2 (not_lt.2 (hbound h.1))
  show (if d.precision = 0 then _ else _) = _
  rw [if_neg hprecision, if_neg hproportion, if_neg hoverflow]

example : (number ⟨false, 1, 999982⟩).scale 18 = .error .overflow := by decide

end Reading
end Decimal
end Numeral
end ChainAtlas
