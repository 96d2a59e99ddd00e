import ChainAtlas.CommandLine.Run
import ChainAtlas.Text.HeldBytes

/-!
# Processes

A run is made of arguments, variables and a reply.  A process has to get the reply, and to print what
its run ends with.  Others do both for it, a transport and a console, and what they do is not known
here: they are functions that a process is given, and each of them may raise an exception instead of
giving a result.

A process prints one page, at its end.  A page is not made of lines yet.  How a table is drawn, how the
help text and a complaint about the arguments are worded, what becomes of control sequences, and which
characters can be written at all, is for the console to say.

Sending is done inside of a check, whose handler reports an exception if it is one of a value or of the
surroundings.  Printing is done outside of every handler, or inside of one for faults of the
configuration, which no exception from outside is.  So an exception that is raised by the console
passes through the command.
-/

namespace ChainAtlas
namespace CommandLine

/-! ## What others do -/

/-- What handlers can tell of an exception that is raised outside of the library. -/
inductive ExceptionKind where
  /-- It is about a value, such as a character that cannot be encoded. -/
  | value
  /-- It is about the surroundings. -/
  | runtime
  /-- Anything else, such as a file that is missing. -/
  | other
  deriving DecidableEq, Repr

/-- The families that an exception belongs to.  That of the configuration is the library's own. -/
def ExceptionKind.families : ExceptionKind → List Family
  | .value => [.value]
  | .runtime => [.runtime]
  | .other => []

/-- An exception that is raised outside of the library. -/
structure Exception where
  kind : ExceptionKind
  message : String
  deriving DecidableEq, Repr

/-- Whether a check reports an exception. -/
def Exception.isReported (exception : Exception) : Bool :=
  exception.kind.families.any reportedByCheck.contains

/-- What a process prints at its end. -/
inductive Page where
  /-- A complaint about the arguments. -/
  | usage (arguments : List String)
  /-- The help text that the arguments ask for. -/
  | help (arguments : List String)
  | answer (output : Output)
  /-- The message of a failure. -/
  | failure (message : String)
  deriving DecidableEq, Repr

/-- Whether a page goes to the standard error. -/
def Page.isComplaint : Page → Bool
  | .usage _ | .failure _ => true
  | .help _ | .answer _ => false

/-- What a process finds around it. -/
structure Surroundings where
  env : Variables
  /-- What becomes of a request.  A request that fails as the transport foresees has a reply too
  (`Reply.failed`). -/
  send : Request → Except Exception Reply
  /-- What is to be read where a page is printed. -/
  print : Page → Except Exception String

/-! ## The end of a process -/

/-- How a process finishes. -/
inductive Finish where
  /-- It exits with a code, and a page was printed, on which this text is to be read. -/
  | exited (code : Nat) (page : Page) (text : String)
  /-- A fault of the library passes through the command. -/
  | fell (fault : Fault)
  /-- An exception from outside passes through the command. -/
  | interrupted (exception : Exception)

/-- Print a page and exit. -/
def Surroundings.exit (s : Surroundings) (code : Nat) (page : Page) : Finish :=
  match s.print page with
  | .ok text => .exited code page text
  | .error exception => .interrupted exception

namespace Surroundings

variable {s : Surroundings} {code code' : Nat} {page page' : Page} {text : String}
  {exception : Exception}

/-- A process exits with a page if the page is printed. -/
theorem exit_eq_exited_iff :
    s.exit code page = .exited code' page' text ↔
      (code = code' ∧ page = page') ∧ s.print page' = .ok text := by
  constructor
  · intro h
    rw [exit] at h
    split at h
    · next htext =>
      cases h
      exact ⟨⟨rfl, rfl⟩, htext⟩
    · cases h
  · intro ⟨⟨hcode, hpage⟩, htext⟩
    subst hcode hpage
    rw [exit, htext]

/-- The only thing that can keep a process from that is an exception of the console. -/
theorem exit_eq_interrupted_iff :
    s.exit code page = .interrupted exception ↔ s.print page = .error exception := by
  rw [exit]
  cases s.print page <;> simp

theorem exit_ne_fell (s : Surroundings) (code : Nat) (page : Page) (fault : Fault) :
    s.exit code page ≠ .fell fault := by
  rw [exit]
  cases s.print page <;> simp

end Surroundings

/-- How a process finishes whose run has ended. -/
def Ending.finish (s : Surroundings) (arguments : List String) (ending : Ending) : Finish :=
  match ending with
  | .misused => s.exit ending.exitCode (.usage arguments)
  | .help => s.exit ending.exitCode (.help arguments)
  | .answered output => s.exit ending.exitCode (.answer output)
  | .refused message => s.exit ending.exitCode (.failure message)
  | .broken fault => .fell fault

/-- How a process finishes whose request has raised an exception. -/
def Exception.finish (s : Surroundings) (exception : Exception) : Finish :=
  if exception.isReported then s.exit 1 (.failure exception.message) else .interrupted exception

/-! ## Processes -/

/-- A process: how it finishes, what it notes in the log, and the requests that it makes. -/
structure Process where
  finish : Finish
  log : List Event
  requests : List Request

/-- A reply that tells nothing. -/
def noReply : Reply := .failed ""

/-- The process of a run that has all that it asks for. -/
def Run.completed (s : Surroundings) (arguments : List String) (run : Run) : Process :=
  ⟨run.ending.finish s arguments, run.log, run.requests⟩

/-- The process of a command line.  What a run asks does not depend on the reply, so it is found by a
run with any reply; what has to be asked is then sent once. -/
def process (arguments : List String) (s : Surroundings) : Process :=
  let asking := runArguments arguments s.env noReply
  match asking.requests with
  | [] => asking.completed s arguments
  | request :: _ =>
    match s.send request with
    | .ok reply => (runArguments arguments s.env reply).completed s arguments
    | .error exception => ⟨exception.finish s, asking.log, asking.requests⟩

section Equations

variable {arguments : List String} {s : Surroundings} {request : Request} {rest : List Request}

theorem process_of_nil (h : (runArguments arguments s.env noReply).requests = []) :
    process arguments s = (runArguments arguments s.env noReply).completed s arguments := by
  simp only [process, h]

theorem process_of_send_eq_ok {reply : Reply}
    (h : (runArguments arguments s.env noReply).requests = request :: rest)
    (hsend : s.send request = .ok reply) :
    process arguments s = (runArguments arguments s.env reply).completed s arguments := by
  simp only [process, h, hsend]

theorem process_of_send_eq_error {exception : Exception}
    (h : (runArguments arguments s.env noReply).requests = request :: rest)
    (hsend : s.send request = .error exception) :
    process arguments s = ⟨exception.finish s, (runArguments arguments s.env noReply).log,
      (runArguments arguments s.env noReply).requests⟩ := by
  simp only [process, h, hsend]

end Equations

end CommandLine
end ChainAtlas
