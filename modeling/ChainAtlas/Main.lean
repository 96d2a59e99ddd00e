import ChainAtlas.CommandLine.Layout

/-!
# The program

The program looks at the variables that a command can ask for, runs the command line as a process with
the plain console, and prints what the process has left behind.  It has no way to send a request, so a
command that makes one is told that the request failed.
-/

namespace ChainAtlas

/-- What every request is answered with. -/
def noTransport : Reply := .failed "no transport is available"

/-- The variables that a command can ask for, with the values that they have. -/
def readVariables : IO Variables := do
  let mut settings : List (String × String) := []
  for name in CommandLine.variableNames do
    if let some value ← IO.getEnv name then
      settings := (name, value) :: settings
  return Variables.ofList settings

/-- The surroundings of the program. -/
def surroundings : IO CommandLine.Surroundings := do
  return {
    env := ← readVariables
    send := fun _ => .ok noTransport
    print := fun page => .ok (CommandLine.Layout.print page) }

/-- Show how a process has finished, and the exit code. -/
def leave : CommandLine.Finish → IO UInt32
  | .exited code page text => do
    if page.isComplaint then IO.eprintln text else IO.println text
    return UInt32.ofNat code
  | .fell fault => do
    IO.eprintln fault.message
    return 1
  | .interrupted exception => do
    IO.eprintln exception.message
    return 1

end ChainAtlas

open ChainAtlas in
/-- Run the command line and leave with its exit code. -/
def main (arguments : List String) : IO UInt32 := do
  let process := CommandLine.process arguments (← surroundings)
  for event in process.log do
    IO.eprintln (event.text Catalog.directoryName)
  leave process.finish
