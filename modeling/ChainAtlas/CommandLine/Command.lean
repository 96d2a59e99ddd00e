import ChainAtlas.CommandLine.Scan
import ChainAtlas.Endpoint

/-!
# Commands

A command line names one of five commands.  In front of the name stand the options of the program,
behind it the options and the operands of the command.  What a command line asks for is decided before
anything is done: a command with all that it needs to know, or the help text, or nothing that makes
sense.

A request for help is granted even where operands are missing or values are wrong, but not where the
options themselves cannot be told apart.
-/

namespace ChainAtlas
namespace CommandLine

/-- Which registry a command works on: that of a named environment, of the environment that a variable
selects, or the default one.  Asking for the first two at once is possible and refused when the
registry is needed. -/
structure Selection where
  environment : Option String
  fromVariable : Bool
  deriving DecidableEq, Repr

/-- A command, with what it was given. -/
inductive Command where
  /-- List the networks. -/
  | networks (selection : Selection)
  /-- Show the address of a contract. -/
  | address (network contract : String) (selection : Selection)
  /-- Show the URL to use for a network. -/
  | rpc (network : String) (protocol : Protocol) (selection : Selection)
  /-- Ask an endpoint for its chain ID and compare. -/
  | check (network : String) (url : Option String) (selection : Selection)
  /-- Show the call of a method of the configuration contract. -/
  | configOp (method : String) (value network : Option String) (selection : Selection)
  deriving DecidableEq, Repr

/-- What a command line asks for. -/
inductive Invocation where
  /-- Nothing that makes sense. -/
  | misused
  /-- The help text. -/
  | help
  /-- A command, perhaps with the log switched on. -/
  | perform (debug : Bool) (command : Command)
  deriving DecidableEq, Repr

/-! ## Options -/

/-- The option that asks for help. -/
def helpForm : OptionForm := ⟨"--help", none, .flag .help⟩

/-- The options of every command. -/
def commonForms : List OptionForm :=
  [helpForm, ⟨"--env", some 'e', .valued .environment⟩, ⟨"--from-node-env", none, .flag .fromVariable⟩]

/-- The options of the program. -/
def programGrammar : Grammar := ⟨[helpForm, ⟨"--debug", some 'd', .flag .debug⟩], false⟩

/-- The name of a command. -/
inductive Verb where
  | networks
  | address
  | rpc
  | check
  | configOp
  deriving DecidableEq, Repr

namespace Verb

/-- The command with a name. -/
def ofName? (name : String) : Option Verb :=
  [("networks", networks), ("address", address), ("rpc", rpc), ("check", check),
   ("config-op", configOp)].lookup name

/-- The options that only one command has. -/
def ownForms : Verb → List OptionForm
  | networks | address => []
  | rpc => [⟨"--protocol", some 'p', .valued .protocol⟩]
  | check => [⟨"--rpc-url", none, .valued .url⟩]
  | configOp => [⟨"--network", some 'n', .valued .network⟩]

/-- The options of a command. -/
def grammar (verb : Verb) : Grammar := ⟨commonForms ++ verb.ownForms, true⟩

end Verb

namespace Scan

/-- The environment that a scan names. -/
def environment? (s : Scan) : Option String :=
  s.last? fun | .environment name => some name | _ => none

/-- The tag of a transport that a scan names. -/
def protocolTag? (s : Scan) : Option String :=
  s.last? fun | .protocol tag => some tag | _ => none

/-- The URL that a scan names. -/
def url? (s : Scan) : Option String :=
  s.last? fun | .url url => some url | _ => none

/-- The network that the options of a scan name. -/
def network? (s : Scan) : Option String :=
  s.last? fun | .network name => some name | _ => none

/-- The registry that a scan asks for. -/
def selection (s : Scan) : Selection := ⟨s.environment?, s.has .fromVariable⟩

end Scan

/-! ## From arguments to commands -/

namespace Command

/-- The command that a scan describes, if the operands are as many as it takes and the transport is
one of the two. -/
def ofScan? (verb : Verb) (s : Scan) : Option Command :=
  match verb, s.operands with
  | .networks, [] => some (.networks s.selection)
  | .address, [network, contract] => some (.address network contract s.selection)
  | .rpc, [network] =>
    (Protocol.ofTag? (s.protocolTag?.getD Protocol.http.tag)).map fun protocol =>
      .rpc network protocol s.selection
  | .check, [network] => some (.check network s.url? s.selection)
  | .configOp, [method] => some (.configOp method none s.network? s.selection)
  | .configOp, [method, value] => some (.configOp method (some value) s.network? s.selection)
  | _, _ => none

end Command

namespace Invocation

/-- What the arguments of a command ask for. -/
def ofVerb (debug : Bool) (verb : Verb) (arguments : List String) : Invocation :=
  match Scan.ofArguments verb.grammar arguments with
  | none => .misused
  | some s =>
    if s.has .help then .help
    else match Command.ofScan? verb s with
      | none => .misused
      | some command => .perform debug command

/-- What is asked for where no command is named: help, if the arguments ask for it when they are taken
for options of the program. -/
def withoutVerb (arguments : List String) : Invocation :=
  match Scan.ofArguments programGrammar arguments with
  | none => .misused
  | some s => if s.has .help then .help else .misused

/-- What a command line asks for. -/
def ofArguments (arguments : List String) : Invocation :=
  match Scan.ofArguments programGrammar arguments with
  | none => .misused
  | some s =>
    if s.has .help then .help
    else match s.operands with
      | [] => .misused
      | name :: rest =>
        match Verb.ofName? name with
        | none => withoutVerb s.operands
        | some verb => ofVerb (s.has .debug) verb rest

end Invocation
end CommandLine
end ChainAtlas
