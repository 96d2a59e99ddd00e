import ChainAtlas.Numeral.Positional
import ChainAtlas.Text.Ascii

/-!
# Hexadecimal integers

The spelling of an integer to the base sixteen: spaces around it, one sign, the marker `0x` in either
case, and digits of either case, of which two neighbours may be divided by one underscore.  An
underscore may also stand between the marker and the first digit.  There is no bound on the number of
digits.
-/

namespace ChainAtlas
namespace Numeral
namespace Hexadecimal

open Text

/-- The value of a hexadecimal digit. -/
def digit? (c : Char) : Option Nat :=
  if '0' ≤ c ∧ c ≤ '9' then some (c.toNat - 0x30)
  else if 'a' ≤ c ∧ c ≤ 'f' then some (c.toNat - 0x57)
  else if 'A' ≤ c ∧ c ≤ 'F' then some (c.toNat - 0x37)
  else none

/-- Whether a character is a hexadecimal digit. -/
def isDigit (c : Char) : Bool := (digit? c).isSome

/-- The values of one or more digits, single underscores between them being skipped. -/
def digits? : List Char → Option (List Nat)
  | [] => none
  | [c] => (digit? c).map ([·])
  | c :: '_' :: rest => return (← digit? c) :: (← digits? rest)
  | c :: rest => return (← digit? c) :: (← digits? rest)

/-- A numeral without its marker, and without the underscore that may follow the marker. -/
def dropMarker : List Char → List Char
  | '0' :: 'x' :: '_' :: rest => rest
  | '0' :: 'X' :: '_' :: rest => rest
  | '0' :: 'x' :: rest => rest
  | '0' :: 'X' :: rest => rest
  | text => text

/-- The number that a numeral without a sign denotes. -/
def magnitude? (text : List Char) : Option Nat := (digits? (dropMarker text)).map (ofDigits 16)

/-- The integer that a numeral with an optional sign denotes. -/
def signed? : List Char → Option Int
  | '-' :: text => (magnitude? text).map fun n => -(n : Int)
  | '+' :: text => (magnitude? text).map Int.ofNat
  | text => (magnitude? text).map Int.ofNat

/-- The spaces that may stand around a numeral: those of ASCII. -/
def isSpace (c : Char) : Bool := c == ' ' || ('\t' ≤ c && c ≤ '\r')

/-- The integer that a text spells to the base sixteen. -/
def read? (text : List Char) : Option Int := do
  let ascii ← asciiForm? text
  signed? ((ascii.dropWhile isSpace).reverse.dropWhile isSpace).reverse

theorem digit?_lt {c : Char} {d : Nat} (h : digit? c = some d) : d < 16 := by
  simp only [digit?] at h
  repeat' split at h
  all_goals simp only [Option.some.injEq, reduceCtorEq] at h
  all_goals rename_i hc; obtain ⟨hlo, hhi⟩ := hc; subst h
  · have : c.toNat ≤ 0x39 := hhi
    omega
  · have : c.toNat ≤ 0x66 := hhi
    omega
  · have : c.toNat ≤ 0x46 := hhi
    omega

/-- Every hexadecimal digit is an ASCII character. -/
theorem toNat_lt_of_isDigit {c : Char} (h : isDigit c = true) : c.toNat < 0x80 := by
  simp only [isDigit, digit?] at h
  repeat' split at h
  all_goals cases h
  all_goals rename_i hc; obtain ⟨_, hhi⟩ := hc
  · have : c.toNat ≤ 0x39 := hhi
    omega
  · have : c.toNat ≤ 0x66 := hhi
    omega
  · have : c.toNat ≤ 0x46 := hhi
    omega

/-- A digit keeps its value in lower case. -/
theorem digit?_toLower (c : Char) (h : isDigit c = true) : digit? c.toLower = digit? c := by
  have hall : ∀ n < 0x80, isDigit (Char.ofNat n) = true →
      digit? (Char.ofNat n).toLower = digit? (Char.ofNat n) := by decide +kernel
  exact forall_ascii (P := fun c => isDigit c = true → digit? c.toLower = digit? c) hall
    (toNat_lt_of_isDigit h) h

theorem isDigit_toLower {c : Char} (h : isDigit c = true) : isDigit c.toLower = true := by
  rw [isDigit, digit?_toLower c h]; exact h

end Hexadecimal
end Numeral
end ChainAtlas
