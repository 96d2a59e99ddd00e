import ChainAtlas.Directory
import ChainAtlas.Fault

/-!
# Networks

What is known about one blockchain network.  A network has a name, a positive chain ID, and the
environment it is deployed for; its contracts are kept under their names, its endpoints in order of
preference.  Everything else is optional.

A name that is not empty and a chain ID above zero are part of the type.  They are established in one
place, where a draft becomes a network: a draft may hold any JSON value as its chain ID, so what is
refused there is described by what was given, if that can be shown.

Two networks agree when they differ at most in the order of their contracts.  The order decides how
contracts are listed and nothing else.
-/

namespace ChainAtlas

/-- The coin that a network charges its fees in. -/
structure Currency where
  symbol : String
  name : String
  /-- The number of decimal places of one coin. -/
  decimals : Int := 18
  deriving DecidableEq, Repr, Inhabited, Hashable

/-- A node where the streaming network of a chain is entered. -/
structure EntryPoint where
  nodeId : String
  host : String
  port : Int
  tls : Bool := true
  deriving DecidableEq, Repr, Inhabited, Hashable

/-- A network. -/
structure Network where
  name : String
  chainId : Nat
  environment : String
  contracts : Directory Address
  endpoints : List Endpoint
  displayName : Option String
  currency : Option Currency
  explorerUrl : Option String
  graphUrl : Option String
  entryPoints : List EntryPoint
  name_ne_empty : name ≠ ""
  chainId_pos : 0 < chainId
  deriving DecidableEq

namespace Network

/-! ## Drafts -/

/-- What a network is made of, before its name and its chain ID are checked. -/
structure Draft where
  name : String
  chainId : Json
  environment : String
  contracts : Entries Address := []
  endpoints : List Endpoint := []
  displayName : Option String := none
  currency : Option Currency := none
  explorerUrl : Option String := none
  graphUrl : Option String := none
  entryPoints : List EntryPoint := []

/-- The positive whole number that a JSON value is. -/
def chainIdOf? : Json → Option { n : Nat // 0 < n }
  | .int (.ofNat (n + 1)) => some ⟨n + 1, Nat.succ_pos n⟩
  | _ => none

/-- The network that a draft describes.  The name is checked first. -/
def ofDraft (draft : Draft) : Except Fault Network :=
  if hname : draft.name = "" then .error .emptyChainName
  else match chainIdOf? draft.chainId with
    | none => .error (.quoting draft.chainId (.badChainId draft.chainId draft.name))
    | some chainId => .ok {
        name := draft.name
        chainId := chainId.1
        environment := draft.environment
        contracts := .ofList draft.contracts
        endpoints := draft.endpoints
        displayName := draft.displayName
        currency := draft.currency
        explorerUrl := draft.explorerUrl
        graphUrl := draft.graphUrl
        entryPoints := draft.entryPoints
        name_ne_empty := hname
        chainId_pos := chainId.2 }

theorem chainIdOf?_int {n : Int} {chainId : { n : Nat // 0 < n }} :
    chainIdOf? (.int n) = some chainId ↔ n = (chainId.1 : Int) := by
  obtain ⟨m, hm⟩ := chainId
  match n with
  | .ofNat 0 =>
    simp only [chainIdOf?, reduceCtorEq, Int.ofNat_eq_natCast, false_iff]
    omega
  | .ofNat (k + 1) =>
    simp only [chainIdOf?, Option.some.injEq, Subtype.mk.injEq, Int.ofNat_eq_natCast]
    omega
  | .negSucc k =>
    simp [chainIdOf?]

/-! ## Agreement -/

/-- Whether two networks agree in everything but their contracts. -/
def agreesApart (a b : Network) : Bool :=
  a.name == b.name && a.chainId == b.chainId && a.environment == b.environment &&
    a.endpoints == b.endpoints && a.displayName == b.displayName && a.currency == b.currency &&
    a.explorerUrl == b.explorerUrl && a.graphUrl == b.graphUrl && a.entryPoints == b.entryPoints

/-- Whether two networks differ at most in the order of their contracts. -/
def agrees (a b : Network) : Bool :=
  a.agreesApart b && a.contracts.agrees (· == ·) b.contracts

/-- The hash of a network is made of everything but its contracts, whose order makes no difference. -/
instance : Hashable Network where
  hash n := hash (n.name, n.chainId, n.environment, n.endpoints, n.displayName, n.currency,
    n.explorerUrl, n.graphUrl, n.entryPoints)

/-! ## Questions -/

/-- The name in lower case. -/
def label (n : Network) : String := String.ofList (Text.lowerCase n.name.toList)

/-- The endpoints of a transport, in order. -/
def endpointsOf (n : Network) (protocol : Protocol) : List Endpoint :=
  n.endpoints.filter fun e => e.protocol = protocol

/-- The endpoints that are asked for: those of a transport, or all of them. -/
def endpointsFor (n : Network) : Option Protocol → List Endpoint
  | none => n.endpoints
  | some protocol => n.endpointsOf protocol

/-- The preferred URL, of a transport or of any. -/
def defaultUrl (n : Network) (protocol : Option Protocol) : Except Fault String :=
  match n.endpointsFor protocol with
  | [] => .error (.noEndpoint n.name)
  | endpoint :: _ => .ok endpoint.url

/-- Whether a contract is deployed on the network. -/
def hasContract (n : Network) (contract : String) : Bool := n.contracts.has contract

/-- The address of a contract. -/
def contract (n : Network) (contract : String) : Except Fault Address :=
  match n.contracts.get? contract with
  | none => .error (.noSuchContract n.name contract)
  | some address => .ok address

/-- The address of the block explorer without slashes at its end, unless it is empty. -/
def explorerRoot? (n : Network) : Option String :=
  match n.explorerUrl with
  | none => none
  | some url =>
    if url = "" then none
    else some (String.ofList (url.toList.reverse.dropWhile (· == '/')).reverse)

/-- The page of an address in the block explorer. -/
def explorerAddressUrl (n : Network) (address : String) : Option String :=
  n.explorerRoot?.map fun root => root ++ "/address/" ++ address

/-- The page of a transaction in the block explorer. -/
def explorerTransactionUrl (n : Network) (hash : String) : Option String :=
  n.explorerRoot?.map fun root => root ++ "/tx/" ++ hash

/-- Every endpoint is of exactly one transport. -/
theorem mem_endpointsOf {n : Network} {p : Protocol} {e : Endpoint} :
    e ∈ n.endpointsOf p ↔ e ∈ n.endpoints ∧ e.protocol = p := by
  simp [endpointsOf]

end Network
end ChainAtlas
