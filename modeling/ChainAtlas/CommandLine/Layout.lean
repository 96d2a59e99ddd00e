import ChainAtlas.CommandLine.Console
import ChainAtlas.CommandLine.Process
import ChainAtlas.Text.ControlSequence

/-!
# The plain console

A console prints the pages of a process.  The one of this program is plain: it draws no boxes, uses no
colours, folds no lines, and writes whatever there is to write.  Rows are laid out in columns that are
as wide as their widest cells, and the last cell of a row is not padded.  A text that is printed as it
is loses its control sequences, since nothing tells whether a terminal will read it; a message is read
for its markup.

This is one console among others, and its help text and its complaint about arguments are its own.  What
is known of processes holds with any console, and nothing that is known of them makes use of this one.
-/

namespace ChainAtlas
namespace CommandLine
namespace Layout

/-- The blanks between two columns. -/
def gap : String := "  "

/-- The widths of the columns of some rows. -/
def columnWidths (rows : List (List String)) : List Nat :=
  rows.foldr (fun row widths =>
    let cells := row.map String.length
    List.zipWith max cells widths ++ cells.drop widths.length ++ widths.drop cells.length) []

/-- A cell, padded to a width. -/
def pad (width : Nat) (cell : String) : String :=
  cell ++ String.ofList (List.replicate (width - cell.length) ' ')

/-- A row with its cells in columns of the given widths. -/
def rowLine (widths : List Nat) (row : List String) : String :=
  let padded := List.zipWith pad widths row.dropLast
  gap.intercalate (padded ++ row.getLast?.toList)

/-- Rows as lines. -/
def rowLines (rows : List (List String)) : List String := rows.map (rowLine (columnWidths rows))

example : rowLines [["a", "b"], ["long", "c"]] = ["a     b", "long  c"] := by decide +kernel

/-- How the program is called. -/
def usage : String := "Usage: streamr-chains [OPTIONS] COMMAND [ARGS]..."

/-- The commands and what each of them does. -/
def commandRows : List (List String) :=
  [["networks", "List configured networks."],
   ["address NETWORK CONTRACT", "Print the address of a deployed contract."],
   ["rpc NETWORK [--protocol http|websocket]", "Print the RPC URL of a network."],
   ["check NETWORK [--rpc-url URL]", "Verify that an endpoint serves the configured chain ID."],
   ["config-op METHOD [VALUE] [--network NAME]", "Print the encoded call of an operation."]]

/-- The help text. -/
def helpLines : List String :=
  [usage, "", "Look up contract addresses and RPC endpoints of Streamr networks", ""]
    ++ rowLines commandRows
    ++ ["", "Every command takes --env NAME or --from-node-env, and --help."]

/-- An answer as lines. -/
def outputLines : Output → List String
  | .line text => [Text.ControlSequence.strip text]
  | .confirmation text => [text]
  | .table title rows => title :: rowLines rows
  | .sheet rows => rowLines (rows.map fun (label, value) => [label ++ ":", value])

/-- A page as lines. -/
def pageLines : Page → List String
  | .usage _ => [usage]
  | .help _ => helpLines
  | .answer output => outputLines output
  | .failure message => [Console.errorLine message]

/-- What is to be read where a page is printed. -/
def print (page : Page) : String := "\n".intercalate (pageLines page)

/-- An answer that is one text is printed as it is, if it has no escape character. -/
theorem print_line {text : String} (h : Text.ControlSequence.escape ∉ text.toList) :
    print (.answer (.line text)) = text := by
  rw [print, pageLines, outputLines, Text.ControlSequence.strip_eq_self h, String.intercalate_singleton]

/-- The message of a failure is printed as it is, if it has no character that the console acts upon. -/
theorem print_failure {message : String} (h : ∀ c ∈ message.toList,
      c ≠ '\\' ∧ c ≠ ':' ∧ c ≠ '\t' ∧ Console.isTerminalControl c = false) :
    print (.failure message) = Console.errorLabel ++ message := by
  rw [print, pageLines, Console.errorLine, Console.shown_eq_self h, String.intercalate_singleton]

end Layout
end CommandLine
end ChainAtlas
