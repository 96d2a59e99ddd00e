/-!
# Environment variables

The variables of a process, as what a program can learn about them: the value of each name, if it has
one.  A variable that is set to the empty text counts as unset wherever this library asks.

A value is a text, whatever bytes were given to the process: bytes that are not UTF-8 are held as a text
with a character for each byte that spells none (`Utf8.held`).  The library compares values and passes
them on, and does not look into them.  Whether a value can be printed is another matter, which is left
to whoever prints.
-/

namespace ChainAtlas

/-- The values of the variables. -/
abbrev Variables := String → Option String

namespace Variables

/-- The variables of a list of settings; of two settings of one name the first counts. -/
def ofList (settings : List (String × String)) : Variables := fun name => settings.lookup name

/-- The value of a variable unless it is unset or empty. -/
def value? (env : Variables) (name : String) : Option String :=
  (env name).filter fun value => value ≠ ""

theorem value?_eq_some_iff {env : Variables} {name value : String} :
    env.value? name = some value ↔ env name = some value ∧ value ≠ "" := by
  simp [value?, Option.filter_eq_some_iff]

theorem value?_eq_none_iff {env : Variables} {name : String} :
    env.value? name = none ↔ env name = none ∨ env name = some "" := by
  rw [value?]
  cases env name <;> simp

end Variables
end ChainAtlas
