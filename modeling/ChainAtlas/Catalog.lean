import ChainAtlas.Catalog.Development
import ChainAtlas.Catalog.Full
import ChainAtlas.Catalog.Production

/-!
# The documents that ship

Three documents ship with the library.  One of them lists all chains and is the default; the other two
are chosen by the name of an environment.  The default document has a name as well, `chains`, but it
is the name of no environment.
-/

namespace ChainAtlas
namespace Catalog

/-- The name of the default document. -/
def defaultName : String := "chains"

/-- The documents of the environments, by the names of the environments in order. -/
def byEnvironment : Entries Json := [("development", development), ("production", production)]

/-- The environments that a document ships for, in order. -/
def environments : List String := byEnvironment.names

/-- All documents by name. -/
def documents : Entries Json := (defaultName, full) :: byEnvironment

/-! ## Files -/

/-- Where the document of an environment is kept: the name of its file, whether the file lies directly
among the shipped documents, and whether it is there. -/
structure Location where
  fileName : String
  inCatalog : Bool
  ships : Bool
  deriving DecidableEq, Repr

/-- The steps of a path, without empty ones and without those that stay where they are. -/
def pathSteps (path : List Char) : List (List Char) :=
  (path.splitOn '/').filter fun step => step ≠ [] ∧ step ≠ ['.']

/-- The directory that holds the shipped documents. -/
def directoryName : String := "data"

/-- The directory that holds the shipped documents and those around it, innermost first. -/
def directoryNames : List String := [directoryName, "streamr_chains", "src", "src"]

/-- How many levels above the shipped documents a step leads that is taken so many levels above them.
A step outwards always leads somewhere; of the steps inwards only those that lead back on the same way
are known to. -/
def stepFrom (level : Nat) (step : List Char) : Option Nat :=
  if step = ['.', '.'] then some (level + 1)
  else match level with
    | 0 => none
    | below + 1 => if directoryNames[below]? = some (String.ofList step) then some below else none

/-- The name of the file of a document. -/
def fileNameOf (document : String) : String := document ++ ".json"

/-- Where the document of an environment would be kept, or the default one.  An environment may be any
text, and one with a slash in it leads away from the shipped documents; it may lead back to them. -/
def locate (environment : Option String) : Location :=
  let path := fileNameOf (environment.getD defaultName)
  let steps := pathSteps path.toList
  let fileName := String.ofList (steps.getLast?.getD [])
  let isRelative := path.toList.head? != some '/'
  let isShipped := documents.names.any fun name => fileNameOf name == fileName
  { fileName
    inCatalog := steps.length == 1 && isRelative
    ships := isRelative && isShipped && steps.dropLast.foldlM stepFrom 0 == some 0 }

/-- A path in the form that messages show: empty steps and steps that stay are dropped. -/
def tidyPath (path : String) : String :=
  let steps := "/".intercalate ((pathSteps path.toList).map String.ofList)
  match path.toList with
  | '/' :: '/' :: '/' :: _ => "/" ++ steps
  | '/' :: '/' :: _ => "//" ++ steps
  | '/' :: _ => "/" ++ steps
  | _ => if steps = "" then "." else steps

end Catalog
end ChainAtlas
