import ChainAtlas.Text.Attached
import ChainAtlas.Text.Wide

/-!
# Columns

How many columns a text fills.  Most characters fill one, wide characters two, and control characters
and attached characters none.  Two characters act upon their neighbours: a joiner takes the columns of
the character after it, and the selector of the form as an emoji widens the character before it.
-/

namespace ChainAtlas
namespace Text
namespace Columns

/-- The selector of the form as an emoji. -/
def emojiSelector : Char := '\ufe0f'

/-- Whether a character is a control character. -/
def isControl (c : Char) : Bool := c.toNat < 0x20 || (0x7f ≤ c.toNat && c.toNat ≤ 0x9f)

/-- The columns that a character fills by itself. -/
def ofChar (c : Char) : Nat :=
  if isControl c || isAttached c then 0 else if isWide c then 2 else 1

/-- The columns that a text fills, of which U+200D is the joiner, given the last character in front of it that fills a column and has
not been widened. -/
def measureAfter (before : Option Char) : List Char → Nat
  | [] => 0
  | '\u200d' :: _ :: rest => measureAfter before rest
  | c :: rest =>
    if c == emojiSelector then (if before.any isWidened then 1 else 0) + measureAfter none rest
    else ofChar c + measureAfter (if ofChar c == 0 then before else some c) rest

/-- The columns that a text fills. -/
def measure (text : List Char) : Nat := measureAfter none text

example : measure "漢字".toList = 4 := by decide +kernel
example : measure "e\u0301".toList = 1 := by decide +kernel
example : measure "a\u200db".toList = 1 := by decide +kernel
example : measure "❤\ufe0f".toList = 2 := by decide +kernel

end Columns
end Text
end ChainAtlas
