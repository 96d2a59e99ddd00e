import ChainAtlas.CommandLine.Command
import ChainAtlas.Operation
import ChainAtlas.Probe
import ChainAtlas.Registry.Load

/-!
# Running commands

A run is a value: how it ended, what it noted in the log, and which requests it made.  Everything that
a run learns from outside is given to it beforehand, the variables of the process and the reply that a
request will get.  So "this command sends nothing" and "these two commands end alike" are statements
about values.

A fault inside of a command is reported with its message if it belongs to one of the families that the
command reports.  What happens to any other fault is an ending of its own: the run breaks off.
-/

namespace ChainAtlas
namespace CommandLine

/-! ## What a run leaves behind -/

/-- What is noted in the log. -/
inductive Event where
  /-- A shipped document is read. -/
  | loading (document : String)
  /-- It held so many networks, for an environment. -/
  | parsed (count : Nat) (environment : Option String)
  /-- A variable gives the URL of a network. -/
  | overridden (variableName network : String)
  /-- An endpoint is asked for its chain ID. -/
  | asking (url : String)
  deriving DecidableEq, Repr

/-- A line of the log, given the directory of the shipped documents. -/
def Event.text (directory : String) : Event → String
  | .loading document =>
    s!"streamr_chains.registry: Loading chain configuration from {directory}/{document}.json"
  | .parsed count environment =>
    let environment := environment.getD "None"
    s!"streamr_chains.registry: Parsed {count} networks for environment {environment}"
  | .overridden variableName network =>
    s!"streamr_chains.rpc: Using {variableName} for network {network}"
  | .asking url => s!"streamr_chains.rpc: Requesting eth_chainId from {url}"

/-- The answer of a command. -/
inductive Output where
  /-- One text, as it is. -/
  | line (text : String)
  /-- A confirmation, which a console may style. -/
  | confirmation (text : String)
  /-- A table with a title; the first row names the columns. -/
  | table (title : String) (rows : List (List String))
  /-- Values under labels. -/
  | sheet (rows : List (String × String))
  deriving DecidableEq, Repr

/-- How a run ends. -/
inductive Ending where
  /-- The command line makes no sense. -/
  | misused
  /-- The help text is shown. -/
  | help
  /-- The answer is printed. -/
  | answered (output : Output)
  /-- A failure is reported with a message. -/
  | refused (message : String)
  /-- The run breaks off at a fault that it does not report. -/
  | broken (fault : Fault)

/-- The exit code of an ending. -/
def Ending.exitCode : Ending → Nat
  | .help | .answered _ => 0
  | .refused _ | .broken _ => 1
  | .misused => 2

/-- A run: its ending, its log, and the requests that it made. -/
structure Run where
  ending : Ending
  log : List Event := []
  requests : List Request := []

namespace Run

/-- The run that prints an answer. -/
def answer (output : Output) : Run := { ending := .answered output }

/-- The run that ends at a fault, reported if it is of one of the families given. -/
def ofFault (reported : List Family) (fault : Fault) : Run :=
  if fault.kind.families.any reported.contains then { ending := .refused fault.message }
  else { ending := .broken fault }

/-- A run with earlier entries in its log. -/
def noted (run : Run) (events : List Event) : Run := { run with log := events ++ run.log }

@[simp] theorem ending_noted (run : Run) (events : List Event) :
    (run.noted events).ending = run.ending := rfl

/-- A fault of a family that is reported ends a run with its message. -/
theorem ending_ofFault {reported : List Family} {fault : Fault} {family : Family}
    (hkind : family ∈ fault.kind.families) (hreported : family ∈ reported) :
    (ofFault reported fault).ending = .refused fault.message := by
  have h : fault.kind.families.any reported.contains = true :=
    List.any_eq_true.2 ⟨family, hkind, List.contains_iff_mem.2 hreported⟩
  simp [ofFault, h]

/-- A run that ends at a fault makes no request. -/
@[simp] theorem requests_ofFault (reported : List Family) (fault : Fault) :
    (ofFault reported fault).requests = [] := by
  unfold ofFault
  split <;> rfl

/-- Go on with a result, or end at its fault. -/
def attempt {α : Type} (reported : List Family) (result : Except Fault α) (next : α → Run) : Run :=
  match result with
  | .error fault => ofFault reported fault
  | .ok value => next value

end Run

/-! ## Registries -/

/-- What loading a registry notes in the log. -/
def loadEvents (registry : Registry) : List Event :=
  [.loading (registry.environment.getD Catalog.defaultName),
   .parsed registry.size registry.environment]

namespace Selection

/-- The message where an environment is named and is to be selected by a variable as well. -/
def conflictMessage : String := "--env and --from-node-env are mutually exclusive"

/-- Whether an environment is named and is to be selected by a variable as well. -/
def isConflicting (selection : Selection) : Bool :=
  selection.environment.isSome && selection.fromVariable

/-- The registry that is selected, unless the selection conflicts. -/
def registry (selection : Selection) (env : Variables) : Except Fault Registry :=
  if selection.fromVariable then Registry.loadSelected env
  else Registry.load selection.environment

/-- Go on with the registry that is selected. -/
def withRegistry (selection : Selection) (env : Variables) (next : Registry → Run) : Run :=
  if selection.isConflicting then { ending := .refused conflictMessage }
  else Run.attempt [.configuration] (selection.registry env) fun registry =>
    (next registry).noted (loadEvents registry)

end Selection

/-! ## The commands -/

/-- The contract that holds the parameters of the network. -/
def configContract : String := "StreamrConfig"

/-- The row of a network in the table of all. -/
def networkRow (n : Network) : List String :=
  [n.name, toString n.chainId, n.environment, toString n.contracts.size,
   match n.endpoints with
   | [] => "-"
   | endpoint :: _ => endpoint.url]

/-- The table of the networks of a registry. -/
def networkTable (registry : Registry) : Output :=
  .table "Networks" <|
    ["Network", "Chain ID", "Environment", "Contracts", "Default RPC"]
      :: registry.values.map networkRow

/-- What choosing a URL notes in the log. -/
def urlEvents (network : Network) (chosen : Except Fault Network.ChosenUrl) : List Event :=
  match chosen with
  | .ok ⟨_, .variableNamed name⟩ => [.overridden name network.name]
  | _ => []

/-- Show the address of a contract. -/
def runAddress (network contract : String) (registry : Registry) : Run :=
  Run.attempt [.configuration]
    (do (← registry.get network).contract contract)
    fun address => .answer (.line address.text)

/-- Show the URL to use for a network. -/
def runRpc (network : String) (protocol : Protocol) (env : Variables)
    (registry : Registry) : Run :=
  Run.attempt [.configuration] (registry.get network) fun network =>
    let chosen := network.chooseUrl none protocol env
    (Run.attempt [.configuration] chosen fun chosen => .answer (.line chosen.url)).noted
      (urlEvents network chosen)

/-- What is printed when an endpoint serves the chain that is configured. -/
def confirmation (network : Network) (chainId : Int) : String :=
  s!"✓ {network.name}: chain ID {chainId}"

/-- The families of the faults that a check reports. -/
def reportedByCheck : List Family := [.configuration, .runtime, .value]

/-- Ask an endpoint for its chain ID and compare. -/
def runCheck (network : String) (url : Option String) (env : Variables) (reply : Reply)
    (registry : Registry) : Run :=
  Run.attempt reportedByCheck (registry.get network) fun network =>
    let probe := Probe.verify network url env Probe.defaultTimeout reply
    let run := Run.attempt reportedByCheck probe.outcome fun chainId =>
      .answer (.confirmation (confirmation network chainId))
    { run with
      log := urlEvents network (network.chooseUrl url .http env)
        ++ probe.requests.map fun request => .asking request.url
      requests := probe.requests }

/-- The rows that describe an operation and its argument. -/
def operationRows (op : Operation) (argument : Option String) : List (String × String) :=
  [("Method", op.method), ("Parameter", op.parameter.getter), ("Kind", op.parameter.kind.label)]
    ++ argument.toList.map fun text => ("Argument", text)

/-- Show a call of a method of the configuration contract.  The text of the argument is made outside of
what the command reports. -/
def runConfigOp (method : String) (value network : Option String) (selection : Selection)
    (env : Variables) : Run :=
  let encoded : Except Fault (Operation × Option Argument) := do
    let op ← Operation.ofMethod method
    return (op, ← op.encode value)
  Run.attempt [.configuration, .value] encoded fun (op, argument) =>
    Run.attempt [] (argument.mapM Argument.text) fun text =>
      match network with
      | none => .answer (.sheet (operationRows op text))
      | some network =>
        selection.withRegistry env fun registry =>
          Run.attempt [.configuration]
            (do (← registry.get network).contract configContract)
            fun address => .answer (.sheet (operationRows op text ++ [("Contract", address.text)]))

namespace Command

/-- The run of a command. -/
def run (command : Command) (env : Variables) (reply : Reply) : Run :=
  match command with
  | .networks selection =>
    selection.withRegistry env fun registry => .answer (networkTable registry)
  | .address network contract selection =>
    selection.withRegistry env (runAddress network contract)
  | .rpc network protocol selection =>
    selection.withRegistry env (runRpc network protocol env)
  | .check network url selection =>
    selection.withRegistry env (runCheck network url env reply)
  | .configOp method value network selection =>
    runConfigOp method value network selection env

end Command

namespace Invocation

/-- The run of what a command line asks for.  The log is kept only where it is switched on. -/
def run (invocation : Invocation) (env : Variables) (reply : Reply) : Run :=
  match invocation with
  | .misused => { ending := .misused }
  | .help => { ending := .help }
  | .perform debug command =>
    let run := command.run env reply
    { run with log := if debug then run.log else [] }

end Invocation

/-- The run of a command line. -/
def runArguments (arguments : List String) (env : Variables) (reply : Reply) : Run :=
  (Invocation.ofArguments arguments).run env reply

/-- The names of the networks that ship. -/
def shippedNames : List String :=
  Catalog.documents.flatMap fun document => Entries.names (document.2.object?.getD [])

/-- The names of the variables that a run may ask for: the one that selects an environment, and one for
every network that ships. -/
def variableNames : List String :=
  Registry.selector :: (shippedNames.map Network.overrideVariable).eraseDups

end CommandLine
end ChainAtlas
