import ChainAtlas.Numeral.Positional
import ChainAtlas.Text.Ascii

/-!
# Decimal numbers as typed

An amount is typed as a decimal of any length, in plain or in exponent form.  It is held exactly, as
a coefficient and an exponent of ten, never as a rounded number: `1.50` is the coefficient 150 with
the exponent -2.  Exponents may be huge, so nothing here multiplies out a power of ten unless the
coefficient is long enough to make that cheap; comparisons go through the number of digits instead.

The words for infinity and for "not a number" are read too, because a text that spells one of them is
refused for another reason than a text that spells nothing.
-/

namespace ChainAtlas
namespace Numeral

attribute [local instance] corePow

/-- A decimal number: its sign, and `coefficient * 10 ^ exponent`. -/
structure Decimal where
  negative : Bool
  coefficient : Nat
  exponent : Int
  deriving DecidableEq, Repr, Inhabited

namespace Decimal

open Text

/-! ## Magnitude and wholeness -/

/-- The number of digits of the coefficient; a zero has one. -/
def precision (d : Decimal) : Nat := digitCount d.coefficient

/-- The exponent of ten of the first digit. -/
def leadingExponent (d : Decimal) : Int := d.exponent + d.precision - 1

/-- Whether the number is below a power of ten, the sign being left aside. -/
def isBelowPow (d : Decimal) (power : Int) : Bool :=
  d.coefficient == 0 || d.leadingExponent < power

/-- Whether the number is whole.  A negative exponent that reaches past the coefficient leaves a
fraction, and a shorter one leaves none exactly when the power of ten divides the coefficient. -/
def isWhole (d : Decimal) : Bool :=
  d.coefficient == 0 || 0 ≤ d.exponent ||
    ((-d.exponent).toNat < d.precision && d.coefficient % 10 ^ (-d.exponent).toNat == 0)

/-- The whole number below, the sign being left aside. -/
def toNat (d : Decimal) : Nat :=
  if d.coefficient = 0 then 0
  else if 0 ≤ d.exponent then d.coefficient * 10 ^ d.exponent.toNat
  else if (-d.exponent).toNat < d.precision then d.coefficient / 10 ^ (-d.exponent).toNat
  else 0

/-- Whether the number is less than zero.  A negative zero is not. -/
def isBelowZero (d : Decimal) : Bool := d.negative && d.coefficient != 0

/-! ## Scaling -/

/-- The least exponent of a scaled number's first digit before digits are lost. -/
def leastLeadingExponent : Int := -999999

/-- The number times a power of ten, at the precision of its own coefficient.  Below the least
exponent that this precision allows, the coefficient is rounded to the nearest whole number of units,
the even one on a tie. -/
def scale (d : Decimal) (power : Nat) : Decimal :=
  let exponent := d.exponent + power
  let least := leastLeadingExponent - (d.precision - 1 : Nat)
  if least ≤ exponent then { d with exponent }
  else
    let lost := (least - exponent).toNat
    let coefficient :=
      if d.precision < lost then 0 else roundHalfEven d.coefficient (10 ^ lost)
    { d with coefficient, exponent := least }

/-! ## Reading -/

/-- What a typed number may turn out to be. -/
inductive Reading where
  | number (d : Decimal)
  | infinity
  | notANumber
  deriving DecidableEq, Repr

/-- The greatest exponent of a first digit. -/
def greatestLeadingExponent : Int := 999999999999999999

/-- The least exponent of a last digit. -/
def leastExponent : Int := -1999999999999999997

/-- Whether the exponents of a number are within bounds. -/
def isRepresentable (d : Decimal) : Bool :=
  d.leadingExponent ≤ greatestLeadingExponent && leastExponent ≤ d.exponent

/-- The number that a sign and digits denote, `fraction` being those after the point. -/
def ofParts (negative : Bool) (whole fraction : List Nat) (exponent : Int) : Decimal :=
  ⟨negative, ofDigits 10 (whole ++ fraction), exponent - fraction.length⟩

/-- The integer that an exponent spells: an optional sign and one or more digits. -/
def exponent? : List Char → Option Int
  | '-' :: text => if text.isEmpty then none else (digits? text).map fun ds => -(ofDigits 10 ds : Int)
  | '+' :: text => if text.isEmpty then none else (digits? text).map fun ds => (ofDigits 10 ds : Int)
  | text => if text.isEmpty then none else (digits? text).map fun ds => (ofDigits 10 ds : Int)

/-- Whether a character opens the exponent of a number. -/
def isExponentMark (c : Char) : Bool := c == 'e' || c == 'E'

/-- The finite number that a text without a sign spells. -/
def finite? (negative : Bool) (text : List Char) : Option Decimal := do
  let mantissa := text.takeWhile (!isExponentMark ·)
  let exponent ← match text.dropWhile (!isExponentMark ·) with
    | [] => some 0
    | _ :: tail => exponent? tail
  let whole ← digits? (mantissa.takeWhile (· != '.'))
  let fraction ← digits? ((mantissa.dropWhile (· != '.')).drop 1)
  guard (!(whole ++ fraction).isEmpty)
  let d := ofParts negative whole fraction exponent
  guard d.isRepresentable
  return d

/-- The number that an ASCII text without a sign spells, words in any case included. -/
def unsigned? (negative : Bool) (text : List Char) : Option Reading :=
  let small := text.map Char.toLower
  if small = ['i', 'n', 'f'] ∨ small = ['i', 'n', 'f', 'i', 'n', 'i', 't', 'y'] then some .infinity
  else match small with
    | 'n' :: 'a' :: 'n' :: payload => (digits? payload).map fun _ => .notANumber
    | 's' :: 'n' :: 'a' :: 'n' :: payload => (digits? payload).map fun _ => .notANumber
    | _ => (finite? negative text).map .number

/-- The number that an ASCII text with an optional sign spells. -/
def signed? : List Char → Option Reading
  | '-' :: text => unsigned? true text
  | '+' :: text => unsigned? false text
  | text => unsigned? false text

/-- The number that a text spells: blanks around it are dropped and underscores in it are ignored. -/
def read? (text : List Char) : Option Reading := do
  let ascii ← asciiForm? ((trimBlanks text).filter (· != '_'))
  signed? ascii

end Decimal
end Numeral
end ChainAtlas
