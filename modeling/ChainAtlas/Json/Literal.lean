import ChainAtlas.Json.Basic
import ChainAtlas.Text.Quoted

/-!
# Values in messages

A message shows a value as a literal: texts between quotes, items and members after one another with
a comma and a space between.  A text that is shown on its own is shown as it is.

A whole number is shown with at most `Numeral.digitLimit` digits.  A value that holds a longer one,
at whatever depth, has no literal, and a message that is to show it cannot be made.
-/

namespace ChainAtlas
namespace Json

mutual

/-- The literal of a value. -/
def literal : Json → String
  | .null => "None"
  | .bool value => if value then "True" else "False"
  | .int value => toString value
  | .float value => value.text
  | .text value => Text.quoted value
  | .list items => "[" ++ ", ".intercalate (itemLiterals items) ++ "]"
  | .object members => "\x7b" ++ ", ".intercalate (memberLiterals members) ++ "\x7d"

/-- The literals of the items of a list. -/
def itemLiterals : List Json → List String
  | [] => []
  | item :: rest => literal item :: itemLiterals rest

/-- The literals of the members of an object. -/
def memberLiterals : List (String × Json) → List String
  | [] => []
  | (name, value) :: rest => (Text.quoted name ++ ": " ++ literal value) :: memberLiterals rest

end

mutual

/-- Whether a value has a literal: no whole number in it is too long. -/
def isShowable : Json → Bool
  | .int value => Numeral.isShowable value
  | .list items => areItemsShowable items
  | .object members => areMembersShowable members
  | .null | .bool _ | .float _ | .text _ => true

/-- Whether all items of a list have literals. -/
def areItemsShowable : List Json → Bool
  | [] => true
  | item :: rest => isShowable item && areItemsShowable rest

/-- Whether all members of an object have literals. -/
def areMembersShowable : List (String × Json) → Bool
  | [] => true
  | (_, value) :: rest => isShowable value && areMembersShowable rest

end

/-- A value as it is shown on its own. -/
def shown : Json → String
  | .text value => value
  | value => literal value

@[simp] theorem isShowable_int (n : Int) : (Json.int n).isShowable = Numeral.isShowable n := by
  rw [isShowable]

@[simp] theorem isShowable_text (s : String) : (Json.text s).isShowable = true := by rw [isShowable]

end Json
end ChainAtlas
