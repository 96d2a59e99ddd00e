import ChainAtlas.Fault

/-!
# Fields of an entry

An entry of a document is an object, and its fields are recognised by name.  Two fields have an older
name beside the current one; an entry is brought to the current names first, and where it has a field
under both, the current name wins and the older one is dropped, whatever their values are.

A field is then asked for a value of a certain shape.  A shape is a name for messages together with
the values that have it, so asking yields the value itself and not yet another JSON value: a truth
value is no whole number, because the shape of whole numbers does not have it.
-/

namespace ChainAtlas
namespace Document

/-! ## Names -/

/-- The current name of a field. -/
def currentName (name : String) : String :=
  if name = "id" then "chainId"
  else if name = "blockExplorer" then "blockExplorerUrl"
  else name

/-- Whether a member is shadowed: it has an older name and the current one is there too. -/
def isShadowed (members : Members) (name : String) : Bool :=
  currentName name ≠ name && Entries.has members (currentName name)

/-- An entry under current names.  Shadowed members are left out, all others stay in order. -/
def normalize (members : Members) : Members :=
  (members.filter fun member => !isShadowed members member.1).map fun member =>
    (currentName member.1, member.2)

/-- A current name has no older name. -/
@[simp] theorem currentName_currentName (name : String) :
    currentName (currentName name) = currentName name := by
  unfold currentName
  by_cases h1 : name = "id"
  · simp [h1]
  · by_cases h2 : name = "blockExplorer"
    · simp [h2]
    · simp [h1, h2]

/-! ## Shapes -/

/-- A shape of values: its name in messages, and the value of a JSON value that has it. -/
structure Shape (α : Type) where
  label : String
  pick : Json → Option α

/-- Texts. -/
def Shape.text : Shape String := ⟨"str", Json.text?⟩

/-- Whole numbers. -/
def Shape.int : Shape Int := ⟨"int", Json.int?⟩

/-- Truth values. -/
def Shape.bool : Shape Bool := ⟨"bool", Json.bool?⟩

/-- Lists. -/
def Shape.list : Shape (List Json) := ⟨"list", Json.list?⟩

/-- Objects. -/
def Shape.object : Shape Members := ⟨"Mapping", Json.object?⟩

variable {α : Type}

/-- The value of a field that must be there, in a certain shape. -/
def required (shape : Shape α) (network : String) (members : Members) (field : String) :
    Except Fault α :=
  match Entries.get? members field with
  | none => .error (.missingField network field)
  | some value =>
    match shape.pick value with
    | none => .error (.fieldShape network field shape.label value.kind)
    | some picked => .ok picked

/-- The value of a field that may be absent.  Null is not the same as absent. -/
def orAbsent (shape : Shape α) (network : String) (members : Members) (field : String)
    (absent : α) : Except Fault α :=
  if Entries.has members field then required shape network members field else .ok absent

/-- The value under a name that is neither absent nor null. -/
def present? (members : Members) (field : String) : Option Json :=
  (Entries.get? members field).filter fun value => !value.isNull

/-- The value of a field that may be absent or null. -/
def orNull (shape : Shape α) (network : String) (members : Members) (field : String) :
    Except Fault (Option α) :=
  match present? members field with
  | none => .ok none
  | some _ => (required shape network members field).map some

/-- A required field is had exactly when it is there in the shape that is asked for. -/
theorem required_eq_ok_iff {shape : Shape α} {network : String} {members : Members}
    {field : String} {picked : α} :
    required shape network members field = .ok picked ↔
      ∃ value, Entries.get? members field = some value ∧ shape.pick value = some picked := by
  unfold required
  cases h : Entries.get? members field with
  | none => simp
  | some value => cases hp : shape.pick value <;> simp [hp]

end Document
end ChainAtlas
