import ChainAtlas.Fault
import ChainAtlas.Numeral.Decimal
import ChainAtlas.Parameter

/-!
# Operations on the configuration contract

An operation reads or writes one parameter.  It is found by the name of its method, and it turns what
was typed as its value into the argument of the call.

An amount of tokens below ten thousand million is taken as a number of tokens and scaled to eighteen
decimal places; a larger one is taken as already scaled.  Nothing is rounded to make it fit: an amount
with a digit beyond the last place is refused.
-/

namespace ChainAtlas

open Numeral

/-- A read or a write of a parameter. -/
structure Operation where
  parameter : Parameter
  isSetter : Bool := false
  deriving DecidableEq, Repr, Inhabited

/-- The argument of a call that writes a parameter. -/
inductive Argument where
  | account (address : Address)
  | number (value : Nat)
  deriving DecidableEq

/-- The text of an argument.  A number of too many digits has none. -/
def Argument.text : Argument → Except Fault String
  | .account address => .ok address.text
  | .number value => if isShowable value then .ok (toString value) else .error .longNumber

namespace Operation

/-- The name of the method that an operation calls. -/
def method (op : Operation) : String :=
  if op.isSetter then op.parameter.setter else op.parameter.getter

/-- The operation that a method name stands for. -/
def ofMethod (method : String) : Except Fault Operation :=
  match Parameter.all.find? fun p => p.getter = method with
  | some p => .ok { parameter := p }
  | none =>
    match Parameter.all.find? fun p => p.setter = method with
    | none => .error (.unknownMethod method)
    | some p =>
      if p.settable then .ok { parameter := p, isSetter := true }
      else .error (.readOnly p.getter)

/-! ## Numbers -/

/-- The number of decimal places of an amount of tokens. -/
def tokenPlaces : Nat := 18

/-- The power of ten from which on an amount is taken as scaled already. -/
def scaledFrom : Int := 10

/-- The non-negative number that a text spells. -/
def amountOf (method raw : String) : Except Fault Decimal :=
  match Decimal.read? raw.toList with
  | none => .error (.notNumeric method raw)
  | some (.number d) => if d.isBelowZero then .error (.notPositive method raw) else .ok d
  | some _ => .error (.notPositive method raw)

/-- A number that has to be whole. -/
def wholeNumber (method raw : String) (d : Decimal) : Except Fault Nat :=
  if d.isWhole then .ok d.toNat else .error (.notWhole method raw)

/-- An amount of tokens, scaled to its decimal places unless it is so large that it must be scaled
already. -/
def tokenNumber (method raw : String) (d : Decimal) : Except Fault Nat :=
  if d.isBelowPow scaledFrom then
    let scaled := d.scale tokenPlaces
    if scaled.isWhole then .ok scaled.toNat
    else .error (.tooManyPlaces method raw tokenPlaces)
  else wholeNumber method raw d

/-! ## Arguments -/

/-- The argument that a text spells for a parameter of some kind. -/
def argumentOf (method raw : String) : ValueKind → Except Fault Argument
  | .address => ((Address.ofText raw).mapError .badAddress).map .account
  | .integer => do return .number (← wholeNumber method raw (← amountOf method raw))
  | .tokenAmount => do return .number (← tokenNumber method raw (← amountOf method raw))

/-- The argument of an operation for what was typed as its value.  A read has none and takes no value;
a write needs one. -/
def encode (op : Operation) (raw : Option String) : Except Fault (Option Argument) :=
  if op.isSetter then
    match raw.filter fun raw => raw ≠ "" with
    | none => .error (.missingValue op.method)
    | some raw => (argumentOf op.method raw op.parameter.kind).map some
  else match raw with
    | none => .ok none
    | some _ => .error (.needlessValue op.method)

end Operation
end ChainAtlas
