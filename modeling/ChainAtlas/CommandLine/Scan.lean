/-!
# Scanning a command line

The arguments of a command are scanned from left to right, one at a time.  An argument is an option,
the value of the option before it, or an operand, and which of these it is depends on what came before
it and on nothing that comes after it.  So scanning is a machine with one step for an argument, and
the scan of a command line is the run of that machine: two command lines with a common part in front
share the run over that part.

Options may stand between operands.  There are two exceptions: after `--` every argument is an
operand, and a scan may be told to stop looking for options at the first operand, which is how the
options of a whole program are told from those of a command of it.
-/

namespace ChainAtlas
namespace CommandLine

/-- What an option says. -/
inductive Setting where
  | help
  | debug
  | fromVariable
  | environment (name : String)
  | protocol (tag : String)
  | url (url : String)
  | network (name : String)
  deriving DecidableEq, Repr

/-- What an option does: say something at once, or wait for a value. -/
inductive Effect where
  | flag (setting : Setting)
  | valued (setting : String → Setting)

/-- An option: its name, its letter if it has one, and what it does. -/
structure OptionForm where
  name : String
  letter : Option Char
  effect : Effect

/-- The options that a scan knows, and whether they may stand after an operand. -/
structure Grammar where
  forms : List OptionForm
  afterOperands : Bool

/-- What the next argument is taken for. -/
inductive Mode where
  /-- Anything. -/
  | free
  /-- The value of an option. -/
  | waiting (setting : String → Setting)
  /-- An operand. -/
  | operandsOnly

/-- A scan under way: what was set and which operands were found, in order. -/
structure Scan where
  settings : List Setting := []
  operands : List String := []
  mode : Mode := .free

/-- What the options in one argument say, and how the scan goes on after them. -/
structure Found where
  settings : List Setting
  mode : Mode

namespace Found

/-- One option with the value that is written into the same argument, if there is one.  A flag has no
use for a value. -/
def ofEffect : Effect → (value : Option String) → Option Found
  | .flag setting, none => some ⟨[setting], .free⟩
  | .flag _, some _ => none
  | .valued setting, none => some ⟨[], .waiting setting⟩
  | .valued setting, some value => some ⟨[setting value], .free⟩

end Found

namespace Grammar

/-- What the option with a name does. -/
def effectOfName? (g : Grammar) (name : String) : Option Effect :=
  (g.forms.find? fun form => form.name = name).map OptionForm.effect

/-- What the option with a letter does. -/
def effectOfLetter? (g : Grammar) (letter : Char) : Option Effect :=
  (g.forms.find? fun form => form.letter = some letter).map OptionForm.effect

/-- The parts of an argument before and after its first equals sign. -/
def splitValue (argument : List Char) : String × Option String :=
  match argument.dropWhile (· != '=') with
  | [] => (String.ofList argument, none)
  | _ :: value => (String.ofList (argument.takeWhile (· != '=')), some (String.ofList value))

/-- An option that is given by its name, with or without a value. -/
def readNamed (g : Grammar) (argument : List Char) : Option Found :=
  let (name, value) := splitValue argument
  (g.effectOfName? name).bind fun effect => Found.ofEffect effect value

/-- Options that are given by their letters.  What follows the letter of an option that takes a value
is the value. -/
def readLetters (g : Grammar) : List Char → Option Found
  | [] => some ⟨[], .free⟩
  | letter :: rest =>
    match g.effectOfLetter? letter, rest with
    | none, _ => none
    | some (.flag setting), rest =>
      (g.readLetters rest).map fun found => { found with settings := setting :: found.settings }
    | some (.valued setting), [] => some ⟨[], .waiting setting⟩
    | some (.valued setting), value => some ⟨[setting (String.ofList value)], .free⟩

/-- Whether an argument holds options: it starts with a hyphen and does not end there. -/
def holdsOptions : List Char → Bool
  | '-' :: _ :: _ => true
  | _ => false

/-- The options in an argument. -/
def read (g : Grammar) : List Char → Option Found
  | '-' :: '-' :: name => g.readNamed ('-' :: '-' :: name)
  | argument => g.readLetters (argument.drop 1)

end Grammar

namespace Scan

/-- Take an argument as an operand. -/
def addOperand (s : Scan) (g : Grammar) (argument : String) : Scan :=
  { s with
    operands := s.operands ++ [argument]
    mode := if g.afterOperands then s.mode else .operandsOnly }

/-- Take what the options in an argument say. -/
def add (s : Scan) (found : Found) : Scan :=
  { s with settings := s.settings ++ found.settings, mode := found.mode }

/-- Take one argument.  An option that is not known spoils the scan. -/
def step (g : Grammar) (s : Scan) (argument : String) : Option Scan :=
  match s.mode with
  | .waiting setting => some (s.add ⟨[setting argument], .free⟩)
  | .operandsOnly => some (s.addOperand g argument)
  | .free =>
    if argument = "--" then some { s with mode := .operandsOnly }
    else if Grammar.holdsOptions argument.toList then (g.read argument.toList).map s.add
    else some (s.addOperand g argument)

/-- Take arguments one after another. -/
def run (g : Grammar) (s : Scan) (arguments : List String) : Option Scan :=
  arguments.foldlM (step g) s

/-- Whether a scan may end: no option waits for its value. -/
def isComplete (s : Scan) : Bool :=
  match s.mode with
  | .waiting _ => false
  | _ => true

/-- The scan of a command line. -/
def ofArguments (g : Grammar) (arguments : List String) : Option Scan :=
  (run g {} arguments).filter isComplete

theorem run_append (g : Grammar) (s : Scan) (front back : List String) :
    run g s (front ++ back) = (run g s front).bind fun t => run g t back := by
  simp [run, List.foldlM_append, Option.bind_eq_bind]

theorem run_cons (g : Grammar) (s : Scan) (argument : String) (rest : List String) :
    run g s (argument :: rest) = (step g s argument).bind fun t => run g t rest := by
  simp [run, Option.bind_eq_bind]

/-- Whether something was set. -/
def has (s : Scan) (setting : Setting) : Bool := s.settings.contains setting

/-- The last value of a setting: of an option that is given repeatedly the last one counts. -/
def last? (s : Scan) (value? : Setting → Option String) : Option String :=
  (s.settings.filterMap value?).getLast?

end Scan
end CommandLine
end ChainAtlas
