import ChainAtlas.Numeral.Positional

/-!
# Double-precision numbers

A number with a fraction or an exponent is read as a double-precision binary number: the nearest
multiple of a power of two with a significand of 53 bits, the even significand winning a tie, an
infinity when the magnitude is too large.  The value is kept as what it denotes, sign, significand
and exponent of two, so every comparison with a whole number is exact arithmetic.

The exact quotient is never built when the answer is already settled by the size of the decimal: a
numeral may name an exponent that no machine could write out.
-/

namespace ChainAtlas

/-- A double-precision number.  A finite one is `significand * 2 ^ exponent`, with a sign that zero
has as well. -/
inductive Binary64 where
  | notANumber
  | infinite (negative : Bool)
  | finite (negative : Bool) (significand : Nat) (exponent : Int)
  deriving DecidableEq, Repr, Inhabited

namespace Binary64

open Numeral

attribute [local instance] corePow

/-- The least exponent of two: the one of zero and of the subnormal numbers. -/
def minExponent : Int := -1074

/-- The greatest exponent of two of a finite number. -/
def maxExponent : Int := 971

/-- The numerator and the denominator of `numerator / denominator` divided by a power of two. -/
def shifted (numerator denominator : Nat) (exponent : Int) : Nat × Nat :=
  if 0 ≤ exponent then (numerator, denominator * 2 ^ exponent.toNat)
  else (numerator * 2 ^ (-exponent).toNat, denominator)

/-- The exponent of the greatest power of two that does not exceed a positive quotient. -/
def binaryMagnitude (numerator denominator : Nat) : Int :=
  let guess : Int := (numerator.log2 : Int) - denominator.log2
  let (n, d) := shifted numerator denominator guess
  if d ≤ n then guess else guess - 1

/-- The double-precision number nearest to a quotient. -/
def ofQuotient (negative : Bool) (numerator denominator : Nat) : Binary64 :=
  if numerator = 0 then .finite negative 0 minExponent
  else
    let exponent := max minExponent (binaryMagnitude numerator denominator - 52)
    let (n, d) := shifted numerator denominator exponent
    let significand := roundHalfEven n d
    let (significand, exponent) :=
      if significand = 2 ^ (53 : Nat) then (2 ^ (52 : Nat), exponent + 1)
      else (significand, exponent)
    if maxExponent < exponent then .infinite negative
    else .finite negative significand exponent

/-- The double-precision number nearest to `coefficient * 10 ^ exponent`. -/
def ofDecimal (negative : Bool) (coefficient : Nat) (exponent : Int) : Binary64 :=
  let magnitude := exponent + digitCount coefficient
  if coefficient = 0 ∨ magnitude < -330 then .finite negative 0 minExponent
  else if 310 < magnitude then .infinite negative
  else if 0 ≤ exponent then ofQuotient negative (coefficient * 10 ^ exponent.toNat) 1
  else ofQuotient negative coefficient (10 ^ (-exponent).toNat)

/-- Whether a double-precision number equals a whole number. -/
def equalsInt : Binary64 → Int → Bool
  | .notANumber, _ => false
  | .infinite _, _ => false
  | .finite negative significand exponent, n =>
    let signed : Int := if negative then -significand else significand
    if 0 ≤ exponent then signed * 2 ^ exponent.toNat == n
    else signed == n * 2 ^ (-exponent).toNat

/-! ## The shortest decimal -/

/-- The decimal digits of a positive number that is read back as the same double-precision number:
`coefficient * 10 ^ exponent`. -/
structure Shortest where
  coefficient : Nat
  exponent : Int
  deriving DecidableEq, Repr, Inhabited

/-- A quotient of natural numbers, scaled by a power of ten. -/
def scaledFloor (numerator denominator : Nat) (exponent : Int) : Nat :=
  if 0 ≤ exponent then numerator / (denominator * 10 ^ exponent.toNat)
  else numerator * 10 ^ (-exponent).toNat / denominator

/-- The decimal magnitude of a positive quotient: `10 ^ (m - 1) ≤ q < 10 ^ m`. -/
def decimalMagnitude (numerator denominator : Nat) : Int :=
  (digitCount (scaledFloor numerator denominator (-330)) : Int) - 330

/-- The numbers that round to a given one, as an interval.  All of it is held over one denominator:
the number itself, its lower and its upper end, and whether the ends belong to it. -/
structure Interval where
  value : Nat
  lower : Nat
  upper : Nat
  denominator : Nat
  closed : Bool
  deriving DecidableEq, Repr

/-- The interval of the numbers nearest to `significand * 2 ^ exponent`.  Below a power of two the
neighbour is only half as far away, except among the subnormal numbers. -/
def interval (significand : Nat) (exponent : Int) : Interval :=
  let below := if significand = 2 ^ (52 : Nat) ∧ minExponent < exponent then 1 else 2
  let up := 2 ^ exponent.toNat
  { value := 4 * significand * up
    lower := (4 * significand - below) * up
    upper := (4 * significand + 2) * up
    denominator := 4 * 2 ^ (-exponent).toNat
    closed := significand % 2 = 0 }

/-- Whether `coefficient * 10 ^ exponent` lies in an interval. -/
def Interval.holds (i : Interval) (coefficient : Nat) (exponent : Int) : Bool :=
  let c := coefficient * i.denominator * 10 ^ exponent.toNat
  let scale := 10 ^ (-exponent).toNat
  if i.closed then i.lower * scale ≤ c && c ≤ i.upper * scale
  else i.lower * scale < c && c < i.upper * scale

/-- The decimal with a given exponent that is nearest to the middle of an interval, if one of the
two neighbours of the middle lies in the interval.  Of two equally near ones the even one is taken. -/
def Interval.nearest? (i : Interval) (exponent : Int) : Option Shortest :=
  let under := scaledFloor i.value i.denominator exponent
  let above := under + 1
  match i.holds under exponent, i.holds above exponent with
  | true, false => some ⟨under, exponent⟩
  | false, true => some ⟨above, exponent⟩
  | false, false => none
  | true, true =>
    let target := 2 * i.value * 10 ^ (-exponent).toNat
    let middle := (2 * under + 1) * i.denominator * 10 ^ exponent.toNat
    if target < middle then some ⟨under, exponent⟩
    else if middle < target then some ⟨above, exponent⟩
    else some ⟨under + under % 2, exponent⟩

/-- The shortest decimal that reads back as a positive finite number.  Seventeen digits always
suffice. -/
def shortest (significand : Nat) (exponent : Int) : Shortest :=
  let i := interval significand exponent
  let magnitude := decimalMagnitude i.value i.denominator
  ((List.range 17).findSome? fun n => i.nearest? (magnitude - ((n : Nat) + 1 : Nat))).getD ⟨0, 0⟩

/-- The decimal digits of a shortest decimal without the zeros at its end, and the place of the
decimal point: the number is `0.d₁d₂…` times ten to that place. -/
def Shortest.digits (s : Shortest) : List Char × Int :=
  let all := (toString s.coefficient).toList
  let kept := (all.reverse.dropWhile (· == '0')).reverse
  (kept, s.exponent + all.length)

/-! ## Writing -/

/-- How the digits of a number are laid out. -/
structure Layout where
  /-- The least place of the decimal point that is written without an exponent. -/
  leastPlace : Int
  /-- The greatest place of the decimal point that is written without an exponent. -/
  greatestPlace : Int
  /-- The least number of digits of a written exponent. -/
  exponentWidth : Nat

/-- Positional notation from `0.0001` up to sixteen digits before the point; beyond that an exponent
with a sign and at least two digits. -/
def Layout.plain : Layout := ⟨-3, 16, 2⟩

/-- The text of a positive finite number, from its digits and the place of its decimal point. -/
def Layout.write (layout : Layout) (digits : List Char) (place : Int) : List Char :=
  if layout.leastPlace ≤ place ∧ place ≤ layout.greatestPlace then
    if place ≤ 0 then '0' :: '.' :: (List.replicate (-place).toNat '0' ++ digits)
    else
      let whole := digits.take place.toNat
      let zeros := List.replicate (place.toNat - digits.length) '0'
      let fraction := digits.drop place.toNat
      whole ++ zeros ++ '.' :: (if fraction.isEmpty then ['0'] else fraction)
  else
    let power := place - 1
    let exponent := (toString power.natAbs).toList
    let mantissa := match digits with
      | [] => []
      | [d] => [d]
      | d :: rest => d :: '.' :: rest
    mantissa ++ 'e' :: (if power < 0 then '-' else '+') ::
      (List.replicate (layout.exponentWidth - exponent.length) '0' ++ exponent)

/-- The text of a double-precision number: the fewest digits that read back as the same number. -/
def text : Binary64 → String
  | .notANumber => "nan"
  | .infinite negative => if negative then "-inf" else "inf"
  | .finite negative significand exponent =>
    let body :=
      if significand = 0 then ['0', '.', '0']
      else
        let (digits, place) := (shortest significand exponent).digits
        Layout.plain.write digits place
    String.ofList (if negative then '-' :: body else body)

example : (ofDecimal false 1 (-1)).text = "0.1" := by decide +kernel
example : (ofDecimal true 0 0).text = "-0.0" := by decide +kernel
example : (ofDecimal false 1 16).text = "1e+16" := by decide +kernel
example : (ofDecimal false 5 (-324)).text = "5e-324" := by decide +kernel
example : (ofDecimal false 1 400).text = "inf" := by decide +kernel

end Binary64
end ChainAtlas
