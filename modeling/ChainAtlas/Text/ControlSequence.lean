/-!
# Control sequences

A terminal takes an escape character and an opening bracket for the start of a control sequence.
Numbers, semicolons and question marks may follow, and a letter ends the sequence.  Anything else after
an escape character is no control sequence.
-/

namespace ChainAtlas
namespace Text
namespace ControlSequence

/-- The escape character. -/
def escape : Char := '\x1b'

/-- Whether a character may stand between the bracket and the letter of a sequence. -/
def isParameter (c : Char) : Bool := c.isDigit || c == ';' || c == '?'

/-- Whether what follows an escape character makes a control sequence of it. -/
def completes : List Char → Bool
  | '[' :: rest => (rest.dropWhile isParameter).head?.any Char.isAlpha
  | _ => false

/-- Drop the control sequences of a text; inside of one, everything up to its letter is dropped. -/
def dropFrom (inside : Bool) : List Char → List Char
  | [] => []
  | c :: rest =>
    if inside then dropFrom (!c.isAlpha) rest
    else if c == escape && completes rest then dropFrom true rest
    else c :: dropFrom false rest

/-- Characters without the control sequences among them. -/
def drop (text : List Char) : List Char := dropFrom false text

/-- A text without escape characters has no control sequences. -/
theorem drop_of_not_mem {text : List Char} (h : escape ∉ text) : drop text = text := by
  unfold drop
  induction text with
  | nil => rfl
  | cons c rest ih =>
    simp only [List.mem_cons, not_or] at h
    have hc : (c == escape) = false := beq_eq_false_iff_ne.2 (Ne.symm h.1)
    simp [dropFrom, hc, ih h.2]

/-- A text without its control sequences. -/
def strip (text : String) : String := String.ofList (drop text.toList)

theorem strip_eq_self {text : String} (h : escape ∉ text.toList) : strip text = text := by
  rw [strip, drop_of_not_mem h, String.ofList_toList]

example : drop "a\x1b[31mb\x1b[0m".toList = ['a', 'b'] := by decide
example : drop "\x1b\x1b[mm".toList = [escape, 'm'] := by decide
example : drop "\x1b[31".toList = "\x1b[31".toList := by decide

end ControlSequence
end Text
end ChainAtlas
