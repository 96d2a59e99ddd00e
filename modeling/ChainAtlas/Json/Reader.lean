import ChainAtlas.Json.Token

/-!
# Reading a JSON text

The reader is a machine that takes one token after another.  It keeps the containers that are still
open, innermost first, and knows what may come next; a token that may not come is a fault at the
token's position.  Nothing but the tokens moves it, and positions are only carried into faults.  So
two texts with the same tokens at different places have the same value, or both have none.

What is said about reading a text is meant for texts that escape no half of a surrogate pair alone.  A
text that does so has a value too, with U+FFFD for the half.
-/

namespace ChainAtlas
namespace Json

/-- An open container: the items of a list that were read, last one first, or the members of an
object that were read together with the name whose value is due. -/
inductive Frame where
  | list (items : List Json)
  | object (members : Members) (name : String)

/-- What the reader waits for. -/
inductive State where
  /-- A value. -/
  | wantValue (stack : List Frame)
  /-- The first item of a list, or its end. -/
  | wantFirstItem (stack : List Frame)
  /-- The first name of an object, or its end. -/
  | wantFirstName (stack : List Frame)
  /-- A further name of an object. -/
  | wantName (stack : List Frame) (members : Members)
  /-- The colon after a name. -/
  | wantColon (stack : List Frame) (members : Members) (name : String)
  /-- A comma after an item, or the end of the list. -/
  | afterItem (stack : List Frame) (items : List Json)
  /-- A comma after a member, or the end of the object. -/
  | afterMember (stack : List Frame) (members : Members)
  /-- Nothing more. -/
  | done (value : Json)

namespace State

/-- Put a finished value where it belongs. -/
def supply (value : Json) : List Frame → State
  | [] => .done value
  | .list items :: stack => .afterItem stack (value :: items)
  | .object members name :: stack => .afterMember stack (members.put name value)

/-- Take a token where a value is due. -/
def begin (stack : List Frame) (position : Nat) : Token → Except Misplaced State
  | .scalar value => .ok (supply value stack)
  | .text value => .ok (supply (.text value) stack)
  | .openList => .ok (.wantFirstItem stack)
  | .openObject => .ok (.wantFirstName stack)
  | _ => .error ⟨.expectedValue, position⟩

/-- Take one token. -/
def step (state : State) (position : Nat) (token : Token) : Except Misplaced State :=
  match state, token with
  | .wantValue stack, token => begin stack position token
  | .wantFirstItem stack, .closeList => .ok (supply (.list []) stack)
  | .wantFirstItem stack, token => begin (.list [] :: stack) position token
  | .wantFirstName stack, .closeObject => .ok (supply (.object []) stack)
  | .wantFirstName stack, .text name => .ok (.wantColon stack [] name)
  | .wantFirstName _, _ => .error ⟨.expectedName, position⟩
  | .wantName stack members, .text name => .ok (.wantColon stack members name)
  | .wantName _ _, _ => .error ⟨.expectedName, position⟩
  | .wantColon stack members name, .colon => .ok (.wantValue (.object members name :: stack))
  | .wantColon _ _ _, _ => .error ⟨.expectedColon, position⟩
  | .afterItem stack items, .comma => .ok (.wantValue (.list items :: stack))
  | .afterItem stack items, .closeList => .ok (supply (.list items.reverse) stack)
  | .afterItem _ _, _ => .error ⟨.expectedComma, position⟩
  | .afterMember stack members, .comma => .ok (.wantName stack members)
  | .afterMember stack members, .closeObject => .ok (supply (.object members) stack)
  | .afterMember _ _, _ => .error ⟨.expectedComma, position⟩
  | .done _, _ => .error ⟨.extraData, position⟩

/-- Take tokens one after another. -/
def run (state : State) (tokens : List (Nat × Token)) : Except Misplaced State :=
  tokens.foldlM (fun state token => state.step token.1 token.2) state

end State

/-- Why tokens spell no value: a complaint at a position, or a whole number of too many digits. -/
inductive Refusal where
  | misplaced (fault : Misplaced)
  | longNumeral (digits : Nat)
  deriving DecidableEq, Repr

/-- What the end of the tokens means where a value is due. -/
def Ending.insteadOfValue (position : Nat) : Ending → Refusal
  | .finish | .stray => .misplaced ⟨.expectedValue, position⟩
  | .brokenText fault => .misplaced fault
  | .longNumeral digits => .longNumeral digits

/-- What the end of the tokens means where a name is due. -/
def Ending.insteadOfName (position : Nat) : Ending → Refusal
  | .brokenText fault => .misplaced fault
  | _ => .misplaced ⟨.expectedName, position⟩

/-- What the end of the tokens makes of a state. -/
def State.finish (state : State) (position : Nat) (ending : Ending) : Except Refusal Json :=
  match state, ending with
  | .wantValue _, ending => .error (ending.insteadOfValue position)
  | .wantFirstItem _, ending => .error (ending.insteadOfValue position)
  | .wantFirstName _, ending => .error (ending.insteadOfName position)
  | .wantName _ _, ending => .error (ending.insteadOfName position)
  | .wantColon _ _ _, _ => .error (.misplaced ⟨.expectedColon, position⟩)
  | .afterItem _ _, _ => .error (.misplaced ⟨.expectedComma, position⟩)
  | .afterMember _ _, _ => .error (.misplaced ⟨.expectedComma, position⟩)
  | .done value, .finish => .ok value
  | .done _, _ => .error (.misplaced ⟨.extraData, position⟩)

/-- The value that the tokens of a text spell. -/
def Tokens.value (t : Tokens) : Except Refusal Json :=
  match State.run (.wantValue []) t.tokens with
  | .error fault => .error (.misplaced fault)
  | .ok state => state.finish t.position t.ending

/-! ## Places -/

/-- The line of a position, counted from one. -/
def lineOf (input : List Char) (position : Nat) : Nat := 1 + (input.take position).count '\n'

/-- The column of a position, counted from one. -/
def columnOf (input : List Char) (position : Nat) : Nat :=
  1 + ((input.take position).reverse.takeWhile (· != '\n')).length

/-- A complaint and its place in the text. -/
structure Located where
  complaint : Complaint
  position : Nat
  line : Nat
  column : Nat
  deriving DecidableEq, Repr

/-- A complaint with its place in a text. -/
def Misplaced.locate (fault : Misplaced) (input : List Char) : Located :=
  ⟨fault.complaint, fault.position, lineOf input fault.position, columnOf input fault.position⟩

/-- The wording of a complaint with its place. -/
def Located.message (fault : Located) : String :=
  s!"{fault.complaint.message}: line {fault.line} column {fault.column} (char {fault.position})"

/-- Why a text spells no value. -/
inductive ReadFault where
  | malformed (fault : Located)
  | longNumeral (digits : Nat)
  deriving DecidableEq, Repr

/-- A refusal of the tokens as a fault of the text. -/
def Refusal.locate (refusal : Refusal) (input : List Char) : ReadFault :=
  match refusal with
  | .misplaced fault => .malformed (fault.locate input)
  | .longNumeral digits => .longNumeral digits

/-- The wording of a fault of a text. -/
def ReadFault.message : ReadFault → String
  | .malformed fault => fault.message
  | .longNumeral digits =>
    s!"Exceeds the limit ({Numeral.digitLimit} digits) for integer string conversion: "
      ++ s!"value has {digits} digits; use sys.set_int_max_str_digits() to increase the limit"

/-! ## Reading -/

/-- The value that a text spells, refusals being by position.  A byte order mark at the start is
refused. -/
def parse (input : List Char) : Except Refusal Json :=
  match input with
  | '\ufeff' :: _ => .error (.misplaced ⟨.byteOrderMark, 0⟩)
  | input => (tokens input).value

/-- The value that a text spells. -/
def read (input : List Char) : Except ReadFault Json :=
  (parse input).mapError (·.locate input)

end Json
end ChainAtlas
