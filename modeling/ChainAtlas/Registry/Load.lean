import ChainAtlas.Catalog
import ChainAtlas.Document.Entry
import ChainAtlas.Registry
import ChainAtlas.Text.Newline
import ChainAtlas.Variables

/-!
# Loading registries

There are four ways to a registry, and each ends in the same reading of a document: from a JSON value,
from the bytes of a file, from a shipped document by the name of an environment, and from a shipped
document by the variable that selects one.

A file is decoded as UTF-8 and its line ends are unified before it is read as JSON.  A file that is
missing and a text that is not JSON are faults of the document; bytes that are no text and a whole
number of too many digits are reported as what they are.
-/

namespace ChainAtlas
namespace Registry

/-- The registry of a document. -/
def ofDocument (document : Json) (environment : Option String) : Except Fault Registry := do
  return ⟨← Document.networks document, environment⟩

/-! ## Files -/

/-- What opening a path leads to. -/
inductive File where
  | missing
  /-- Something that cannot be opened for reading, with the number and the name of the reason. -/
  | unreadable (number : Nat) (reason : String)
  | bytes (content : List UInt8)
  deriving DecidableEq, Repr

/-- A fault of a JSON text as a fault of the file at a path. -/
def fileFault (path : String) : Json.ReadFault → Fault
  | .malformed fault => .fileMalformed path fault
  | .longNumeral digits => .longNumeral digits

/-- The document that the bytes of a file spell. -/
def decodeDocument (path : String) (content : List UInt8) : Except Fault Json :=
  match Utf8.decode content with
  | .error fault => .error (.fileUndecodable fault)
  | .ok text => (Json.read (Text.unifyLineEnds text)).mapError (fileFault path)

/-- The document in a file. -/
def readDocument (path : String) : File → Except Fault Json
  | .missing => .error (.fileMissing path)
  | .unreadable number reason => .error (.fileUnreadable path number reason)
  | .bytes content => decodeDocument path content

/-- The registry of a document file.  Messages show its path in tidy form. -/
def ofFile (path : String) (file : File) (environment : Option String) : Except Fault Registry :=
  if path.toList.contains '\x00' then .error .badPath
  else do ofDocument (← readDocument (Catalog.tidyPath path) file) environment

/-! ## Shipped documents -/

/-- The registry of a shipped document: the one of an environment, or the default one. -/
def load : (environment : Option String) → Except Fault Registry
  | none => ofDocument Catalog.full none
  | some environment =>
    match Catalog.byEnvironment.get? environment with
    | none => .error (.noSuchEnvironment environment Catalog.environments)
    | some document => ofDocument document (some environment)

/-- The variable that selects an environment. -/
def selector : String := "NODE_ENV"

/-- The environments that the variable may select. -/
def selectable : List String := ["production", "development"]

/-- The registry that the variables select. -/
def loadSelected (env : Variables) : Except Fault Registry :=
  match env.value? selector with
  | none => .error (.selectorMissing selectable)
  | some value =>
    if selectable.contains value then load (some value)
    else .error (.selectorInvalid value selectable)

end Registry
end ChainAtlas
