import ChainAtlas.Network
import ChainAtlas.Variables

/-!
# Which URL of a network is used

The URL for a network comes from the first of three sources that has one: the caller, a variable named
after the network, and the endpoints of the network.  An empty text is no URL.

The name of the variable is the name of the network in capitals, words being divided by underscores: a
word starts at a capital letter that follows a small letter or a digit, and every character that is no
ASCII letter or digit becomes an underscore itself.
-/

namespace ChainAtlas
namespace Network

/-! ## The name of the variable -/

/-- Whether a word ends between two neighbouring characters. -/
def isWordBreak (left right : Char) : Bool := (left.isLower || left.isDigit) && right.isUpper

/-- A name with an underscore between its words. -/
def divideWords : List Char → List Char
  | [] => []
  | [c] => [c]
  | c :: d :: rest =>
    if isWordBreak c d then c :: '_' :: divideWords (d :: rest) else c :: divideWords (d :: rest)

/-- A character of the name of a variable. -/
def variableChar (c : Char) : Char := if c.isAlphanum then c.toUpper else '_'

/-- The end of the name of every variable that holds a URL. -/
def overrideSuffix : String := "_RPC_URL"

/-- The name of the variable that holds the URL for a network of a given name. -/
def overrideVariable (name : String) : String :=
  String.ofList ((divideWords name.toList).map variableChar) ++ overrideSuffix

example : overrideVariable "polygonAmoy" = "POLYGON_AMOY_RPC_URL" := by decide +kernel
example : overrideVariable "dev0" = "DEV0_RPC_URL" := by decide +kernel

/-! ## The choice -/

/-- Where a URL comes from. -/
inductive UrlSource where
  | caller
  | variableNamed (name : String)
  | endpoints
  deriving DecidableEq, Repr

/-- A URL and where it comes from. -/
structure ChosenUrl where
  url : String
  source : UrlSource
  deriving DecidableEq, Repr

/-- The URL of the first endpoint of a transport. -/
def endpointUrl (n : Network) (protocol : Protocol) : Except Fault String :=
  match n.endpointsOf protocol with
  | [] => .error (.noEndpointOf protocol n.name (overrideVariable n.name))
  | endpoint :: _ => .ok endpoint.url

/-- The URL to use for a network, with its source. -/
def chooseUrl (n : Network) (given : Option String) (protocol : Protocol)
    (env : Variables) : Except Fault ChosenUrl :=
  match given.filter fun url => url ≠ "" with
  | some url => .ok ⟨url, .caller⟩
  | none =>
    match env.value? (overrideVariable n.name) with
    | some url => .ok ⟨url, .variableNamed (overrideVariable n.name)⟩
    | none => (n.endpointUrl protocol).map fun url => ⟨url, .endpoints⟩

/-- The URL to use for a network. -/
def resolveUrl (n : Network) (given : Option String) (protocol : Protocol)
    (env : Variables) : Except Fault String :=
  (n.chooseUrl given protocol env).map ChosenUrl.url

variable {n : Network} {protocol : Protocol} {env : Variables}

theorem endpointUrl_eq_ok_iff {url : String} :
    n.endpointUrl protocol = .ok url ↔
      ∃ e rest, n.endpointsOf protocol = e :: rest ∧ e.url = url := by
  rw [endpointUrl]
  cases n.endpointsOf protocol <;> simp

theorem endpointUrl_eq_error_iff {fault : Fault} :
    n.endpointUrl protocol = .error fault ↔
      n.endpointsOf protocol = [] ∧
        fault = .noEndpointOf protocol n.name (overrideVariable n.name) := by
  rw [endpointUrl]
  cases n.endpointsOf protocol <;> simp [eq_comm]

/-- A URL that the caller gives is the one to use, unless it is empty. -/
theorem resolveUrl_of_given (n : Network) {given : String} (h : given ≠ "") :
    n.resolveUrl (some given) protocol env = .ok given := by
  have hgiven : (some given).filter (fun url => url ≠ "") = some given :=
    Option.filter_some_pos (decide_eq_true h)
  rw [resolveUrl, chooseUrl, hgiven]
  rfl

/-- The URL that a variable gives is the one to use where the caller gives none. -/
theorem resolveUrl_of_variable {url : String}
    (henv : env.value? (overrideVariable n.name) = some url) :
    n.resolveUrl none protocol env = .ok url := by
  rw [resolveUrl, chooseUrl, henv]
  rfl

/-- Without a caller and a variable the URL is that of an endpoint. -/
theorem resolveUrl_of_unset (henv : env.value? (overrideVariable n.name) = none) :
    n.resolveUrl none protocol env = n.endpointUrl protocol := by
  rw [resolveUrl, chooseUrl, henv]
  cases n.endpointUrl protocol <;> rfl

end Network
end ChainAtlas
