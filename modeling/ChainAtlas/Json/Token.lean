import ChainAtlas.Json.Basic
import ChainAtlas.Numeral.Hexadecimal

/-!
# The tokens of a JSON text

A text is first cut into tokens, each with the position where it starts, and then read token by token.
The cut never fails.  Where no token can be made the token list simply ends, and says why it ended:
the text was over, a character starts no token, a quoted text is broken, or a whole number is too
long.  Which of these is an error, and of what kind, is for the reader to say, because it depends on
what the reader was waiting for: a broken text where a comma was due is a missing comma.

Positions count characters from the start of the text.

A text is made of code points here, and an escape may name half of a surrogate pair alone, which is no
code point.  Such a half is read as U+FFFD (`unitChar`), so two names that differ in lone halves only are
read as the same name, and the texts of messages show U+FFFD for a lone half.
-/

namespace ChainAtlas
namespace Json

open Numeral

/-! ## Faults of a text -/

/-- What is wrong at a position of a JSON text. -/
inductive Complaint where
  | byteOrderMark
  | expectedValue
  | expectedName
  | expectedColon
  | expectedComma
  | extraData
  | unterminatedText
  | controlCharacter
  | badEscape
  | badUnicodeEscape
  deriving DecidableEq, Repr

/-- The wording of a complaint. -/
def Complaint.message : Complaint → String
  | .byteOrderMark => "Unexpected UTF-8 BOM (decode using utf-8-sig)"
  | .expectedValue => "Expecting value"
  | .expectedName => "Expecting property name enclosed in double quotes"
  | .expectedColon => "Expecting ':' delimiter"
  | .expectedComma => "Expecting ',' delimiter"
  | .extraData => "Extra data"
  | .unterminatedText => "Unterminated string starting at"
  | .controlCharacter => "Invalid control character at"
  | .badEscape => "Invalid \\escape"
  | .badUnicodeEscape => "Invalid \\uXXXX escape"

/-- A complaint and the position that it is about. -/
structure Misplaced where
  complaint : Complaint
  position : Nat
  deriving DecidableEq, Repr

/-! ## Tokens -/

/-- A token: a bracket, a mark, a quoted text, or any other scalar value. -/
inductive Token where
  | openList
  | closeList
  | openObject
  | closeObject
  | comma
  | colon
  | text (value : String)
  | scalar (value : Json)

/-- Why the tokens end. -/
inductive Ending where
  /-- The text is over. -/
  | finish
  /-- The next character starts no token. -/
  | stray
  /-- A quoted text starts here and is broken. -/
  | brokenText (fault : Misplaced)
  /-- A whole number starts here and has too many digits. -/
  | longNumeral (digits : Nat)
  deriving DecidableEq, Repr

/-- The tokens of a text with their positions, and how and where they end. -/
structure Tokens where
  tokens : List (Nat × Token)
  ending : Ending
  position : Nat

/-- One more token in front. -/
def Tokens.cons (position : Nat) (token : Token) (rest : Tokens) : Tokens :=
  { rest with tokens := (position, token) :: rest.tokens }

/-! ## White space -/

/-- The characters that may stand between tokens. -/
def isSpace (c : Char) : Bool := c == ' ' || c == '\t' || c == '\n' || c == '\r'

/-! ## Quoted texts -/

/-- The UTF-16 unit that four hexadecimal digits name. -/
def unit? (a b c d : Char) : Option Nat :=
  return ofDigits 16 [← Hexadecimal.digit? a, ← Hexadecimal.digit? b, ← Hexadecimal.digit? c,
    ← Hexadecimal.digit? d]

/-- The character that a letter after a backslash stands for. -/
def simpleEscape? (c : Char) : Option Char :=
  if c == '\x22' || c == '\\' || c == '/' then some c
  else if c == 'b' then some '\x08'
  else if c == 'f' then some '\x0c'
  else if c == 'n' then some '\n'
  else if c == 'r' then some '\r'
  else if c == 't' then some '\t'
  else none

/-- Whether a UTF-16 unit opens a surrogate pair. -/
def isHighSurrogate (unit : Nat) : Bool := 0xd800 ≤ unit && unit ≤ 0xdbff

/-- Whether a UTF-16 unit closes a surrogate pair. -/
def isLowSurrogate (unit : Nat) : Bool := 0xdc00 ≤ unit && unit ≤ 0xdfff

/-- The character that two UTF-16 units name together. -/
def joinSurrogates (high low : Nat) : Char :=
  Char.ofNat (0x10000 + (high - 0xd800) * 0x400 + (low - 0xdc00))

/-- The character of a single UTF-16 unit.  Half of a pair names none and becomes the replacement
character. -/
def unitChar (unit : Nat) : Char :=
  if isHighSurrogate unit || isLowSurrogate unit then '\ufffd' else Char.ofNat unit

/-- A quoted text that has been read: its characters, and how many characters of the JSON text it
took after the opening quote. -/
structure Quotation where
  value : List Char
  taken : Nat
  deriving DecidableEq, Repr

/-- One more character in front, which took `taken` characters to write. -/
def Quotation.cons (c : Char) (taken : Nat) (rest : Quotation) : Quotation :=
  ⟨c :: rest.value, taken + rest.taken⟩

/-- The unit of a second escape that a text starts with, if one more character follows it: `none` if
there is no such escape, `some none` if its digits are bad. -/
def secondUnit? : List Char → Option (Option Nat)
  | '\\' :: 'u' :: a :: b :: c :: d :: _ :: _ => some (unit? a b c d)
  | _ => none

/-- Read a quoted text up to its closing quote.  `start` is the position of the opening quote and
`position` the one of the next character.  Four digits of an escape must be followed by at least one
more character, and the second half of a surrogate pair by at least one more as well. -/
def quotation (start : Nat) (position : Nat) : List Char → Except Misplaced Quotation
  | [] => .error ⟨.unterminatedText, start⟩
  | '\x22' :: _ => .ok ⟨[], 1⟩
  | '\\' :: 'u' :: a :: b :: c :: d :: next :: rest =>
    match unit? a b c d with
    | none => .error ⟨.badUnicodeEscape, position + 1⟩
    | some unit =>
      match if isHighSurrogate unit then secondUnit? (next :: rest) else none with
      | some none => .error ⟨.badUnicodeEscape, position + 7⟩
      | some (some second) =>
        if isLowSurrogate second then
          return (← quotation start (position + 12) (rest.drop 5)).cons
            (joinSurrogates unit second) 12
        else return (← quotation start (position + 6) (next :: rest)).cons (unitChar unit) 6
      | none => return (← quotation start (position + 6) (next :: rest)).cons (unitChar unit) 6
  | '\\' :: 'u' :: _ => .error ⟨.badUnicodeEscape, position + 1⟩
  | '\\' :: [] => .error ⟨.unterminatedText, start⟩
  | '\\' :: c :: rest =>
    match simpleEscape? c with
    | none => .error ⟨.badEscape, position⟩
    | some c' => return (← quotation start (position + 2) rest).cons c' 2
  | c :: rest =>
    if c.toNat < 0x20 then .error ⟨.controlCharacter, position⟩
    else return (← quotation start (position + 1) rest).cons c 1
termination_by input => input.length

/-! ## Numbers -/

/-- The parts of a number, and how many characters it took. -/
structure NumberParts where
  negative : Bool
  whole : List Char
  fraction : List Char
  /-- The sign and the digits of the exponent, if there is one. -/
  exponent : Option (Bool × List Char)
  taken : Nat
  deriving DecidableEq, Repr

/-- The digits that a text starts with. -/
def leadingDigits (input : List Char) : List Char := input.takeWhile fun c => '0' ≤ c && c ≤ '9'

/-- The digits before the point: a zero alone, or digits that start with another one. -/
def wholePart? : List Char → Option (List Char)
  | '0' :: _ => some ['0']
  | input => match leadingDigits input with
    | [] => none
    | digits => some digits

/-- The digits after a point; none if no digit follows it. -/
def fractionPart : List Char → List Char
  | '.' :: rest => leadingDigits rest
  | _ => []

/-- The exponent after its mark, and how many characters it takes with the mark. -/
def exponentPart? : List Char → Option ((Bool × List Char) × Nat)
  | mark :: after =>
    if mark == 'e' || mark == 'E' then
      let (negative, digits, signs) := match after with
        | '-' :: rest => (true, leadingDigits rest, 1)
        | '+' :: rest => (false, leadingDigits rest, 1)
        | rest => (false, leadingDigits rest, 0)
      if digits.isEmpty then none else some ((negative, digits), 1 + signs + digits.length)
    else none
  | [] => none

/-- The number that a text starts with, cut into its parts. -/
def numberParts? (input : List Char) : Option NumberParts := do
  let (negative, body) := match input with
    | '-' :: rest => (true, rest)
    | rest => (false, rest)
  let whole ← wholePart? body
  let afterWhole := body.drop whole.length
  let fraction := fractionPart afterWhole
  let pointed := if fraction.isEmpty then 0 else fraction.length + 1
  let exponent := exponentPart? (afterWhole.drop pointed)
  return {
    negative, whole, fraction
    exponent := exponent.map Prod.fst
    taken := (if negative then 1 else 0) + whole.length + pointed
      + (match exponent with | some (_, taken) => taken | none => 0) }

/-- The number that a list of digits denotes. -/
def digitsValue (digits : List Char) : Nat := ofDigits 10 (digits.map fun c => c.toNat - 0x30)

/-- The value of a number; `none` if it is whole and has too many digits. -/
def NumberParts.value? (n : NumberParts) : Option Json :=
  if n.fraction.isEmpty && n.exponent.isNone then
    if digitLimit < n.whole.length then none
    else
      let magnitude : Int := digitsValue n.whole
      some (.int (if n.negative then -magnitude else magnitude))
  else
    let power : Int := match n.exponent with
      | none => 0
      | some (negative, digits) =>
        if negative then -(digitsValue digits : Int) else digitsValue digits
    some (.float (.ofDecimal n.negative (digitsValue (n.whole ++ n.fraction))
      (power - n.fraction.length)))

/-! ## Words -/

/-- The words that stand for values. -/
def words : List (List Char × Json) :=
  [("null".toList, .null), ("true".toList, .bool true), ("false".toList, .bool false),
   ("NaN".toList, .float .notANumber), ("Infinity".toList, .float (.infinite false)),
   ("-Infinity".toList, .float (.infinite true))]

/-- The word that a text starts with, by its value and its length. -/
def word? (input : List Char) : Option (Json × Nat) :=
  (words.find? fun word => word.1.isPrefixOf input).map fun word => (word.2, word.1.length)

/-! ## Cutting -/

/-- The first token of a text that starts with no white space, and how many characters it takes after
its first; or the reason why there is none. -/
def firstToken (position : Nat) : (input : List Char) → Except Ending (Token × Nat)
  | [] => .error .finish
  | '[' :: _ => .ok (.openList, 0)
  | ']' :: _ => .ok (.closeList, 0)
  | '\x7b' :: _ => .ok (.openObject, 0)
  | '\x7d' :: _ => .ok (.closeObject, 0)
  | ',' :: _ => .ok (.comma, 0)
  | ':' :: _ => .ok (.colon, 0)
  | '\x22' :: rest =>
    match quotation position (position + 1) rest with
    | .error fault => .error (.brokenText fault)
    | .ok q => .ok (.text (String.ofList q.value), q.taken)
  | input =>
    match word? input with
    | some (value, length) => .ok (.scalar value, length - 1)
    | none =>
      match numberParts? input with
      | none => .error .stray
      | some n =>
        match n.value? with
        | none => .error (.longNumeral n.whole.length)
        | some value => .ok (.scalar value, n.taken - 1)

/-- The tokens of a text whose first character has the given position. -/
def tokensFrom (position : Nat) (input : List Char) : Tokens :=
  match input with
  | [] => ⟨[], .finish, position⟩
  | c :: rest =>
    if isSpace c then tokensFrom (position + 1) rest
    else match firstToken position (c :: rest) with
      | .error ending => ⟨[], ending, position⟩
      | .ok (token, more) =>
        (tokensFrom (position + 1 + more) (rest.drop more)).cons position token
termination_by input.length

/-- The tokens of a text. -/
def tokens (input : List Char) : Tokens := tokensFrom 0 input

theorem tokensFrom_space {c : Char} (h : isSpace c = true) (position : Nat) (rest : List Char) :
    tokensFrom position (c :: rest) = tokensFrom (position + 1) rest := by
  rw [tokensFrom]; simp [h]

end Json
end ChainAtlas
