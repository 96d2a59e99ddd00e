import ChainAtlas.Json.Basic
import ChainAtlas.Numeral.Hexadecimal
import ChainAtlas.Text.LowerCase

/-!
# Addresses

An address of an account or a contract is `0x` and forty hexadecimal digits.  The case of the digits
carries a checksum for those who care, so the text is kept as it came and two addresses are equal when
their texts are.  Whether two texts name the same account is another question: it ignores case.

The form of the text is part of the type, so an address that exists is well formed and putting it in
lower case cannot fail.
-/

namespace ChainAtlas

namespace Address

open Numeral.Hexadecimal (isDigit)

/-- Whether a text is `0x` and forty hexadecimal digits. -/
def isWellFormed : List Char → Bool
  | '0' :: 'x' :: digits => digits.length == 40 && digits.all isDigit
  | _ => false

/-- Why a value is no address. -/
inductive Fault where
  /-- It is no text. -/
  | notText (kind : Json.Kind)
  /-- It has another length. -/
  | badLength (text : String)
  /-- It has the length of an address and another form. -/
  | badForm (text : String)
  deriving DecidableEq, Repr

/-- The length of an address. -/
def length : Nat := 42

/-- The wording of a fault. -/
def Fault.message : Fault → String
  | .notText kind => s!"Address must be a string, got {kind.label}"
  | .badLength text => s!"Address must be {Address.length} characters long, got {text.length}: '{text}'"
  | .badForm text => s!"Address must be '0x' followed by 40 hex digits: '{text}'"

end Address

/-- An address: a text of the right form. -/
structure Address where
  text : String
  wellFormed : Address.isWellFormed text.toList = true
  deriving DecidableEq

namespace Address

open Numeral.Hexadecimal (isDigit)

/-- The address that a text is. -/
def ofText (text : String) : Except Fault Address :=
  if text.length ≠ Address.length then .error (.badLength text)
  else if h : isWellFormed text.toList = true then .ok ⟨text, h⟩
  else .error (.badForm text)

/-- The address that a JSON value is. -/
def ofJson : Json → Except Fault Address
  | .text text => ofText text
  | value => .error (.notText value.kind)

theorem length_of_isWellFormed {text : String} (h : isWellFormed text.toList = true) :
    text.length = Address.length := by
  rw [← String.length_toList]
  revert h
  generalize text.toList = input
  unfold isWellFormed
  split
  · intro h
    simp only [Bool.and_eq_true, beq_iff_eq] at h
    simp [h.1, Address.length]
  · intro h; cases h

/-- A text is an address exactly when it has the form of one. -/
theorem ofText_eq_ok_iff {text : String} {a : Address} :
    ofText text = .ok a ↔ a.text = text := by
  constructor
  · intro h
    unfold ofText at h
    split at h
    · cases h
    · split at h
      · cases h; rfl
      · cases h
  · rintro rfl
    have hlen := length_of_isWellFormed a.wellFormed
    simp [ofText, hlen, a.wellFormed]

/-! ## Letter case -/

/-- Every character of an address is an ASCII character. -/
theorem toNat_lt_of_isWellFormed {input : List Char} (h : isWellFormed input = true) :
    ∀ c ∈ input, c.toNat < 0x80 := by
  revert h
  unfold isWellFormed
  split
  · rename_i digits
    intro h c hc
    simp only [Bool.and_eq_true, List.all_eq_true] at h
    rcases List.mem_cons.1 hc with rfl | hc
    · decide
    · rcases List.mem_cons.1 hc with rfl | hc
      · decide
      · exact Numeral.Hexadecimal.toNat_lt_of_isDigit (h.2 c hc)
  · intro h; cases h

theorem isWellFormed_lowerCase {input : List Char} (h : isWellFormed input = true) :
    isWellFormed (Text.lowerCase input) = true := by
  rw [Text.lowerCase_of_ascii (toNat_lt_of_isWellFormed h)]
  revert h
  unfold isWellFormed
  split
  · rename_i digits
    intro h
    simp only [Bool.and_eq_true, beq_iff_eq, List.all_eq_true] at h
    have h0 : Char.toLower '0' = '0' := by decide
    have hx : Char.toLower 'x' = 'x' := by decide
    simp only [List.map_cons, h0, hx, List.length_map, List.all_map, Bool.and_eq_true, beq_iff_eq,
      List.all_eq_true, Function.comp_apply]
    exact ⟨h.1, fun c hc => Numeral.Hexadecimal.isDigit_toLower (h.2 c hc)⟩
  · intro h; cases h

/-- The same address with its digits in lower case. -/
def lower (a : Address) : Address where
  text := String.ofList (Text.lowerCase a.text.toList)
  wellFormed := by
    rw [String.toList_ofList]
    exact isWellFormed_lowerCase a.wellFormed

/-- Whether a text differs from an address at most in the case of its letters. -/
def sameAs (a : Address) (text : String) : Bool :=
  Text.lowerCase a.text.toList == Text.lowerCase text.toList

/-- The number that an address spells. -/
def toNat (a : Address) : Nat :=
  Numeral.ofDigits 16 ((a.text.toList.drop 2).filterMap Numeral.Hexadecimal.digit?)

end Address
end ChainAtlas
