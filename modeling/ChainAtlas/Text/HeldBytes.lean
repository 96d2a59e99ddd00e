import ChainAtlas.Text.Utf8

/-!
# Bytes that are held as text

The variables and the arguments of a process are bytes, and a process holds them as texts.  Bytes that
are UTF-8 are held as the text that they spell (`held_of_decode`).  Of other bytes nothing is lost
either: each one that is part of no character is held as a character of its own, which stands for the
byte and for nothing else.  No encoding has such characters, so a text that holds one can be compared
and passed on, but it cannot be written to where UTF-8 is expected.

The characters of a text here are code points, among which there are no such characters.  The last
ones of the last private area take their part (`stray`).  A text that really has these cannot be told
from one that holds bytes; nothing in this library looks at them.
-/

namespace ChainAtlas
namespace Utf8

/-- The character that stands for a byte that is part of no character. -/
def stray (byte : UInt8) : Char := Char.ofNat (0x10ff00 + byte.toNat)

/-- Whether a character stands for a byte. -/
def isStray (c : Char) : Bool := 0x10ff80 ≤ c.toNat

/-- A character of which some bytes have been read, and these bytes. -/
abbrev Unfinished := Pending × List UInt8

/-- What the first byte of a character comes to: a character, a stray byte, or an unfinished
character. -/
def takeFirst (byte : UInt8) : List Char × Option Unfinished :=
  if byte.toNat < 0x80 then ([Char.ofNat byte.toNat], none)
  else match Pending.ofLead? 0 byte with
    | none => ([stray byte], none)
    | some p => ([], some (p, [byte]))

/-- What a byte comes to.  One that does not go on with an unfinished character leaves the bytes of that
character stray, and is the first of another one. -/
def takeByte (state : Option Unfinished) (byte : UInt8) : List Char × Option Unfinished :=
  match state with
  | none => takeFirst byte
  | some (p, seen) =>
    if byte.toNat < p.low || p.high < byte.toNat then
      let (chars, next) := takeFirst byte
      (seen.map stray ++ chars, next)
    else if p.later = 0 then ([Char.ofNat (p.extend byte)], none)
    else ([], some (p.advance byte, seen ++ [byte]))

/-- The characters that bytes are held as, an unfinished character being given. -/
def heldFrom (state : Option Unfinished) : List UInt8 → List Char
  | [] => state.elim [] fun unfinished => unfinished.2.map stray
  | byte :: rest =>
    let taken := takeByte state byte
    taken.1 ++ heldFrom taken.2 rest

/-- The text that bytes are held as. -/
def held (bytes : List UInt8) : String := String.ofList (heldFrom none bytes)

example : held [0x61, 0xc3, 0xff] = String.ofList ['a', stray 0xc3, stray 0xff] := by decide

end Utf8
end ChainAtlas
