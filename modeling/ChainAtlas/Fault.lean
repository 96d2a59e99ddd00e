import ChainAtlas.Address
import ChainAtlas.Endpoint
import ChainAtlas.Json.Literal
import ChainAtlas.Json.Reader
import ChainAtlas.Text.Utf8

/-!
# What can go wrong

A fault is a cause, with everything that its wording needs.  Its wording is one function of the cause,
and so is its kind.  The kinds are what callers tell apart: whether a chain ID or a name is wrong,
whether a document is malformed or something looked up is missing.

Kinds fall into families.  A caller who handles the family of configuration faults handles every kind
that this library defines for its own domain; a plain fault of a value, of a run or of the decoding of
bytes is outside of that family and passes such a caller by.
-/

namespace ChainAtlas

/-- A family of kinds. -/
inductive Family where
  /-- Everything about chain configuration. -/
  | configuration
  /-- A value that is not acceptable. -/
  | value
  /-- A thing that was looked up and is missing. -/
  | lookup
  /-- A failure of the surroundings. -/
  | runtime
  deriving DecidableEq, Repr

/-- The kind of a fault. -/
inductive Kind where
  | configuration
  | malformedDocument
  | malformedAddress
  | invalidChainId
  | invalidChainName
  | missingSelector
  | invalidSelector
  | unknownEnvironment
  | unknownNetwork
  | unknownContract
  | noEndpoint
  | chainIdMismatch
  | unknownOperation
  /-- A fault of a value that is not about configuration. -/
  | value
  /-- A failure of the surroundings. -/
  | runtime
  /-- Bytes that are no text. -/
  | undecodable
  /-- A file that is there and cannot be opened, by the number of the reason. -/
  | unreadable (number : Nat)
  deriving DecidableEq, Repr

/-- The families that a kind belongs to. -/
def Kind.families : Kind → List Family
  | .configuration => [.configuration]
  | .malformedDocument | .malformedAddress | .invalidChainId | .invalidChainName
  | .invalidSelector | .chainIdMismatch | .unknownOperation => [.configuration, .value]
  | .missingSelector | .unknownEnvironment | .unknownNetwork | .unknownContract
  | .noEndpoint => [.configuration, .lookup]
  | .value | .undecodable => [.value]
  | .runtime => [.runtime]
  | .unreadable _ => []

/-- A fault, by its cause.  The causes come in five groups: documents and files, networks,
registries, the chain ID of an endpoint, and operations. -/
inductive Fault where
  -- Documents and files.
  | documentShape (got : Json.Kind)
  | entryShape (network : String)
  | missingField (network field : String)
  | fieldShape (network field expected : String) (got : Json.Kind)
  | endpointShape (network : String)
  | unknownTag (network : String) (tag : Json)
  | unknownScheme (url : String)
  | contractsShape (network : String)
  | contractShape (network contract : String)
  | currencyShape (network : String)
  | entryPointShape (network : String)
  | fileMissing (path : String)
  | fileUnreadable (path : String) (number : Nat) (reason : String)
  | badPath
  | fileMalformed (path : String) (fault : Json.Located)
  | fileUndecodable (fault : Utf8.Fault)
  | longNumeral (digits : Nat)
  | badAddress (fault : Address.Fault)
  | badUrl (fault : Url.Fault)
  -- Networks.
  | emptyChainName
  | badChainId (given : Json) (network : String)
  | badTag (tag : String)
  | noSuchContract (network contract : String)
  | noEndpoint (network : String)
  | noEndpointOf (protocol : Protocol) (network variableName : String)
  -- Registries.
  | noSuchNetwork (name : String) (available : List String)
  | noSuchChainId (given : Json)
  | noSuchEnvironment (environment : String) (available : List String)
  | selectorMissing (expected : List String)
  | selectorInvalid (value : String) (expected : List String)
  -- The chain ID of an endpoint.
  | transport (description : String)
  | badStatus (status : Int)
  | malformedReply (reply : Json)
  | errorReply (error : Json)
  | chainIdMismatch (url : String) (served : Int) (network : String) (expected : Int)
  | longNumber
  -- Operations.
  | unknownMethod (method : String)
  | readOnly (getter : String)
  | needlessValue (method : String)
  | missingValue (method : String)
  | notNumeric (method raw : String)
  | notPositive (method raw : String)
  | tooManyPlaces (method raw : String) (places : Nat)
  | notWhole (method raw : String)

namespace Fault

/-- A fault whose message shows a value.  Where the value has no literal the message cannot be made,
and what goes wrong is that. -/
def quoting (value : Json) (fault : Fault) : Fault :=
  if value.isShowable then fault else .longNumber

theorem quoting_of_isShowable {value : Json} {fault : Fault} (h : value.isShowable = true) :
    quoting value fault = fault := if_pos h

theorem quoting_of_not_isShowable {value : Json} {fault : Fault} (h : value.isShowable = false) :
    quoting value fault = .longNumber := by
  rw [quoting, h]
  rfl

/-- The kind of a fault. -/
def kind : Fault → Kind
  | .documentShape _ | .entryShape _ | .missingField _ _ | .fieldShape _ _ _ _
  | .endpointShape _ | .unknownTag _ _ | .unknownScheme _ | .contractsShape _
  | .contractShape _ _ | .currencyShape _ | .entryPointShape _ | .fileMissing _
  | .fileMalformed _ _ => .malformedDocument
  | .fileUnreadable _ number _ => .unreadable number
  | .fileUndecodable _ => .undecodable
  | .badPath | .longNumeral _ | .badUrl _ | .badTag _ | .longNumber => .value
  | .badAddress _ => .malformedAddress
  | .emptyChainName => .invalidChainName
  | .badChainId _ _ => .invalidChainId
  | .noSuchContract _ _ => .unknownContract
  | .noEndpoint _ | .noEndpointOf _ _ _ => .noEndpoint
  | .noSuchNetwork _ _ | .noSuchChainId _ => .unknownNetwork
  | .noSuchEnvironment _ _ => .unknownEnvironment
  | .selectorMissing _ => .missingSelector
  | .selectorInvalid _ _ => .invalidSelector
  | .transport _ | .badStatus _ => .runtime
  | .malformedReply _ | .errorReply _ => .value
  | .chainIdMismatch _ _ _ _ => .chainIdMismatch
  | .unknownMethod _ | .readOnly _ => .unknownOperation
  | .needlessValue _ | .missingValue _ | .notNumeric _ _ | .notPositive _ _
  | .tooManyPlaces _ _ _ | .notWhole _ _ => .value

/-- Whether a fault is about chain configuration. -/
def isConfiguration (fault : Fault) : Bool := fault.kind.families.contains .configuration

/-- The two digits of a byte. -/
def byteText (byte : UInt8) : String := String.ofList (Text.hexPadded 2 byte.toNat)

/-- The wording of bytes that are no text. -/
def undecodableMessage (fault : Utf8.Fault) : String :=
  let place :=
    if fault.length = 1 then s!"byte 0x{byteText fault.lead} in position {fault.start}"
    else s!"bytes in position {fault.start}-{fault.start + fault.length - 1}"
  s!"'utf-8' codec can't decode {place}: {fault.reason.message}"

/-- Values of which one is expected. -/
def alternatives (values : List String) : String :=
  " or ".intercalate (values.map fun value => s!"'{value}'")

/-- The wording of a fault. -/
def message : Fault → String
  | .documentShape got => s!"Configuration document must be an object, got {got.label}"
  | .entryShape network => s!"Network '{network}' must be an object"
  | .missingField network field => s!"Network '{network}' is missing required field '{field}'"
  | .fieldShape network field expected got =>
    s!"Field '{field}' of network '{network}' must be {expected}, got {got.label}"
  | .endpointShape network => s!"RPC endpoint of network '{network}' must be an object"
  | .unknownTag network tag =>
    s!"Unknown RPC protocol {tag.literal} for network '{network}', expected 'http' or 'websocket'"
  | .unknownScheme url => s!"Cannot infer RPC protocol from URL '{url}'"
  | .contractsShape network => s!"Field 'contracts' of network '{network}' must be an object"
  | .contractShape network contract =>
    s!"Address of contract '{contract}' on network '{network}' must be a string"
  | .currencyShape network => s!"Field 'nativeCurrency' of network '{network}' must be an object"
  | .entryPointShape network => s!"Entry point of network '{network}' must be an object"
  | .fileMissing path => s!"Configuration document not found at {path}"
  | .fileUnreadable path number reason => s!"[Errno {number}] {reason}: {Text.quoted path}"
  | .badPath => "embedded null byte"
  | .fileMalformed path fault =>
    s!"Configuration document {path} is not valid JSON: {fault.message}"
  | .fileUndecodable fault => undecodableMessage fault
  | .longNumeral digits => (Json.ReadFault.longNumeral digits).message
  | .badAddress fault => fault.message
  | .badUrl fault => fault.message
  | .emptyChainName => "Chain name is required"
  | .badChainId given network =>
    s!"Chain ID must be a positive integer, got {given.literal} for network '{network}'"
  | .badTag tag => s!"{Text.quoted tag} is not a valid RPCProtocol"
  | .noSuchContract network contract => s!"Contract '{contract}' not found on network '{network}'"
  | .noEndpoint network => s!"No RPC endpoint configured for network '{network}'"
  | .noEndpointOf protocol network variableName =>
    s!"No {protocol.tag} RPC endpoint configured for network '{network}', "
      ++ s!"set ${variableName} or pass rpc_url"
  | .noSuchNetwork name available =>
    s!"Network '{name}' not found, available networks: " ++ ", ".intercalate available
  | .noSuchChainId given => s!"No network with chain ID {given.shown}"
  | .noSuchEnvironment environment available =>
    s!"No configuration for environment '{environment}', available environments: "
      ++ ", ".intercalate available
  | .selectorMissing expected =>
    s!"NODE_ENV environment variable is not set, expected {alternatives expected}"
  | .selectorInvalid value expected =>
    s!"NODE_ENV environment variable value must be either {alternatives expected}, got '{value}'"
  | .transport description => s!"Network error during RPC call: {description}"
  | .badStatus status => s!"RPC request failed with status {status}"
  | .malformedReply reply => s!"Malformed eth_chainId response: {reply.literal}"
  | .errorReply error => s!"RPC error: {error.shown}"
  | .chainIdMismatch url served network expected =>
    s!"RPC endpoint {url} serves chain ID {served}, "
      ++ s!"but network '{network}' is configured with {expected}"
  | .longNumber =>
    s!"Exceeds the limit ({Numeral.digitLimit} digits) for integer string conversion; "
      ++ "use sys.set_int_max_str_digits() to increase the limit"
  | .unknownMethod method => s!"No such method in StreamrConfig: {method}"
  | .readOnly getter => s!"StreamrConfig parameter '{getter}' is read-only"
  | .needlessValue method => s!"{method} takes no value"
  | .missingValue method => s!"Missing value for {method}"
  | .notNumeric method raw => s!"Value for {method} must be a number, got '{raw}'"
  | .notPositive method raw => s!"Value for {method} must be a non-negative number, got '{raw}'"
  | .tooManyPlaces method raw places =>
    s!"Value for {method} has more than {places} decimal places, got '{raw}'"
  | .notWhole method raw => s!"Value for {method} must be a whole number, got '{raw}'"

end Fault
end ChainAtlas
