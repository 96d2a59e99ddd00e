import ChainAtlas.Directory
import ChainAtlas.Numeral.Binary64

/-!
# JSON values

A configuration document is a JSON value.  Two decisions matter for everything that reads one.

Whole numbers and numbers with a fraction or an exponent are different kinds: `137` is a chain ID and
`137.0` is not, so the reader keeps them apart and whole numbers have any size.

An object is the list of its members in the order of the document.  Networks, contracts and contract
names are listed in that order later on, so it is part of the value.  The names of one object are
pairwise different: when a document repeats a name, the first place gets the last value.
-/

namespace ChainAtlas

/-- A JSON value. -/
inductive Json where
  | null
  | bool (value : Bool)
  | int (value : Int)
  | float (value : Binary64)
  | text (value : String)
  | list (items : List Json)
  | object (members : List (String × Json))
  deriving Inhabited

/-- The members of an object, in order. -/
abbrev Members := Entries Json

namespace Json

/-! ## Kinds -/

/-- What kind of value a JSON value is. -/
inductive Kind where
  | null
  | bool
  | int
  | float
  | text
  | list
  | object
  deriving DecidableEq, Repr

/-- The kind of a value. -/
def kind : Json → Kind
  | .null => .null
  | .bool _ => .bool
  | .int _ => .int
  | .float _ => .float
  | .text _ => .text
  | .list _ => .list
  | .object _ => .object

/-- The name of a kind in messages. -/
def Kind.label : Kind → String
  | .null => "NoneType"
  | .bool => "bool"
  | .int => "int"
  | .float => "float"
  | .text => "str"
  | .list => "list"
  | .object => "dict"

/-- The text that a value is. -/
def text? : Json → Option String
  | .text s => some s
  | _ => none

/-- The whole number that a value is; a truth value is none. -/
def int? : Json → Option Int
  | .int n => some n
  | _ => none

/-- The truth value that a value is. -/
def bool? : Json → Option Bool
  | .bool b => some b
  | _ => none

/-- The items of a value that is a list. -/
def list? : Json → Option (List Json)
  | .list items => some items
  | _ => none

/-- The members of a value that is an object. -/
def object? : Json → Option Members
  | .object members => some members
  | _ => none

/-- Whether a value is null. -/
def isNull : Json → Bool
  | .null => true
  | _ => false

/-- Whether a value equals a whole number: numbers are compared by what they denote, and the truth
values count as one and zero. -/
def equalsInt : Json → Int → Bool
  | .int m, n => m == n
  | .bool b, n => (if b then 1 else 0) == n
  | .float x, n => x.equalsInt n
  | _, _ => false

@[simp] theorem equalsInt_int (m n : Int) : (Json.int m).equalsInt n = (m == n) := rfl

end Json
end ChainAtlas
