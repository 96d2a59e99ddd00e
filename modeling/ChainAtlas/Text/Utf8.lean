/-!
# Reading UTF-8

A file is a list of bytes and a document is a list of characters.  The reader below takes one byte
at a time and remembers at most one unfinished character: where it started, how many of its bytes
have been seen, how many are still to come, and the bounds that the next one has to keep.  The bounds
are what excludes overlong forms, surrogates and numbers past the last code point: they are narrower
than the range of continuation bytes for the second byte after four of the leading bytes, and only
there.

A fault names the bytes that it covers.  These are the leading byte and the continuation bytes that
were still good, so a message can point at exactly the broken character.
-/

namespace ChainAtlas
namespace Utf8

/-- What is wrong with a run of bytes. -/
inductive Reason where
  | invalidStart
  | invalidContinuation
  | unexpectedEnd
  deriving DecidableEq, Repr

/-- The wording of a reason. -/
def Reason.message : Reason → String
  | .invalidStart => "invalid start byte"
  | .invalidContinuation => "invalid continuation byte"
  | .unexpectedEnd => "unexpected end of data"

/-- A run of bytes that is no character: where it starts, its first byte and its length. -/
structure Fault where
  start : Nat
  lead : UInt8
  length : Nat
  reason : Reason
  deriving DecidableEq, Repr

/-- A character of which some bytes have been read. -/
structure Pending where
  /-- The offset of its leading byte. -/
  start : Nat
  lead : UInt8
  /-- The number of its bytes that were read. -/
  seen : Nat
  /-- The number of its bytes after the next one. -/
  later : Nat
  /-- The least and the greatest value that the next byte may have. -/
  low : Nat
  high : Nat
  /-- The bits collected so far, as a number. -/
  bits : Nat
  deriving DecidableEq, Repr

namespace Pending

/-- The fault that ends an unfinished character. -/
def fault (p : Pending) (reason : Reason) : Fault := ⟨p.start, p.lead, p.seen, reason⟩

/-- What a leading byte starts, if it starts a character of several bytes. -/
def ofLead? (start : Nat) (lead : UInt8) : Option Pending :=
  let n := lead.toNat
  if n < 0xc2 then none
  else if n < 0xe0 then some ⟨start, lead, 1, 0, 0x80, 0xbf, n - 0xc0⟩
  else if n < 0xf0 then
    some ⟨start, lead, 1, 1, if n = 0xe0 then 0xa0 else 0x80, if n = 0xed then 0x9f else 0xbf,
      n - 0xe0⟩
  else if n < 0xf5 then
    some ⟨start, lead, 1, 2, if n = 0xf0 then 0x90 else 0x80, if n = 0xf4 then 0x8f else 0xbf,
      n - 0xf0⟩
  else none

/-- The number that a good continuation byte makes of the bits collected so far. -/
def extend (p : Pending) (byte : UInt8) : Nat := p.bits * 64 + (byte.toNat - 0x80)

/-- The character after a good continuation byte that is not its last. -/
def advance (p : Pending) (byte : UInt8) : Pending :=
  ⟨p.start, p.lead, p.seen + 1, p.later - 1, 0x80, 0xbf, p.extend byte⟩

end Pending

/-- Read the bytes from an offset on, an unfinished character being given. -/
def decodeFrom (offset : Nat) : Option Pending → List UInt8 → Except Fault (List Char)
  | none, [] => .ok []
  | some p, [] => .error (p.fault .unexpectedEnd)
  | none, byte :: rest =>
    if byte.toNat < 0x80 then
      return Char.ofNat byte.toNat :: (← decodeFrom (offset + 1) none rest)
    else
      match Pending.ofLead? offset byte with
      | none => .error ⟨offset, byte, 1, .invalidStart⟩
      | some p => decodeFrom (offset + 1) (some p) rest
  | some p, byte :: rest =>
    if byte.toNat < p.low || p.high < byte.toNat then .error (p.fault .invalidContinuation)
    else if p.later = 0 then
      return Char.ofNat (p.extend byte) :: (← decodeFrom (offset + 1) none rest)
    else decodeFrom (offset + 1) (some (p.advance byte)) rest

/-- The characters that a list of bytes spells. -/
def decode (bytes : List UInt8) : Except Fault (List Char) := decodeFrom 0 none bytes

/-- ASCII bytes are their own characters. -/
theorem decodeFrom_cons_of_lt {byte : UInt8} (h : byte.toNat < 0x80) (offset : Nat)
    (rest : List UInt8) :
    decodeFrom offset none (byte :: rest) =
      (decodeFrom (offset + 1) none rest).map (Char.ofNat byte.toNat :: ·) := by
  simp only [decodeFrom, h, if_true]
  cases decodeFrom (offset + 1) none rest <;> rfl

end Utf8
end ChainAtlas
