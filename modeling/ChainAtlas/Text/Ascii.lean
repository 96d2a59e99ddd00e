import ChainAtlas.Text.Blank
import ChainAtlas.Text.DecimalDigit

/-!
# The ASCII spelling of a numeral

A numeral may be typed with the digits of any script and with any kind of space around it.  Before it
is read it gets its ASCII spelling: ASCII characters stay, a digit becomes the ASCII digit of its
value, a blank becomes a space, and anything else has no ASCII spelling.
-/

namespace ChainAtlas
namespace Text

/-- The ASCII character that a character of a numeral stands for. -/
def asciiChar? (c : Char) : Option Char :=
  if c.toNat < 0x80 then some c
  else if isBlank c then some ' '
  else (decimalDigit? c).map fun d => Char.ofNat (0x30 + d)

/-- The ASCII spelling of a numeral. -/
def asciiForm? (text : List Char) : Option (List Char) := text.mapM asciiChar?

/-- What holds of the first 128 code points holds of every ASCII character. -/
theorem forall_ascii {P : Char → Prop} (h : ∀ n < 0x80, P (Char.ofNat n)) {c : Char}
    (hc : c.toNat < 0x80) : P c := by
  rw [← Char.ofNat_toNat c]
  exact h c.toNat hc

/-- An ASCII text is its own ASCII spelling. -/
theorem asciiForm?_of_ascii {text : List Char} (h : ∀ c ∈ text, c.toNat < 0x80) :
    asciiForm? text = some text := by
  induction text with
  | nil => rfl
  | cons c rest ih =>
    have hc := h c List.mem_cons_self
    have hrest := ih fun d hd => h d (List.mem_cons_of_mem _ hd)
    simp only [asciiForm?] at hrest ⊢
    simp [asciiChar?, hc, hrest]

end Text
end ChainAtlas
