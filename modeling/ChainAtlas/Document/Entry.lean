import ChainAtlas.Document.Fields
import ChainAtlas.Network

/-!
# Network entries

The entry of a network in a configuration document is turned into a network here, piece by piece.
Everything is checked and the first fault found is the answer.  The order is part of the contract with
whoever reads the messages: the chain ID, the environment, the contracts, the endpoints, the currency,
the entry points, the optional texts, and at last the name and the sign of the chain ID.

What may be missing differs from field to field.  Contracts and endpoints may be absent but not null;
the currency, the entry points and the optional texts may be either; the decimals of a currency and
the encryption flag of an entry point may be absent but not null.
-/

namespace ChainAtlas
namespace Document

/-! ## Endpoints -/

/-- The transport that the scheme of a URL selects. -/
def inferProtocol (url : String) : Except Fault Protocol :=
  match Url.scheme url with
  | .error fault => .error (.badUrl fault)
  | .ok scheme =>
    match Protocol.ofScheme? scheme with
    | none => .error (.unknownScheme url)
    | some protocol => .ok protocol

/-- The transport that a tag names. -/
def taggedProtocol (network : String) (tag : Json) : Except Fault Protocol :=
  match tag.text?.bind Protocol.ofTag? with
  | none => .error (.quoting tag (.unknownTag network tag))
  | some protocol => .ok protocol

/-- An endpoint.  Without a tag its transport is told from its URL. -/
def endpoint (network : String) (value : Json) : Except Fault Endpoint :=
  match value with
  | .object members => do
    let url ← required .text network members "url"
    let protocol ← match present? members "protocol" with
      | none => inferProtocol url
      | some tag => taggedProtocol network tag
    return ⟨protocol, url⟩
  | _ => .error (.endpointShape network)

/-! ## Contracts -/

/-- The address of a contract. -/
def contractAddress (network contract : String) (value : Json) : Except Fault Address :=
  match value with
  | .text text => (Address.ofText text).mapError .badAddress
  | _ => .error (.contractShape network contract)

/-- The contracts of a network with their addresses. -/
def contracts (network : String) (value : Json) : Except Fault (Entries Address) :=
  match value with
  | .object members => members.mapM fun (contract, value) => do
    return (contract, ← contractAddress network contract value)
  | _ => .error (.contractsShape network)

/-! ## Currencies and entry points -/

/-- A currency. -/
def currency (network : String) (value : Json) : Except Fault Currency :=
  match value with
  | .object members => do
    let symbol ← required .text network members "symbol"
    let name ← required .text network members "name"
    let decimals ← orAbsent .int network members "decimals" 18
    return { symbol, name, decimals }
  | _ => .error (.currencyShape network)

/-- An entry point. -/
def entryPoint (network : String) (value : Json) : Except Fault EntryPoint :=
  match value with
  | .object members => do
    let websocket ← required .object network members "websocket"
    let nodeId ← required .text network members "nodeId"
    let host ← required .text network websocket "host"
    let port ← required .int network websocket "port"
    let tls ← orAbsent .bool network websocket "tls" true
    return { nodeId, host, port, tls }
  | _ => .error (.entryPointShape network)

/-! ## The whole entry -/

/-- The draft of a network from an entry under current names. -/
def draft (name : String) (members : Members) : Except Fault Network.Draft := do
  let chainId ← required .int name members "chainId"
  let environment ← required .text name members "environment"
  let contracts ← contracts name ((Entries.get? members "contracts").getD (.object []))
  let endpoints ← (← orAbsent .list name members "rpcEndpoints" []).mapM (endpoint name)
  let currency ← (present? members "nativeCurrency").mapM (currency name)
  let entryPoints ← ((← orNull .list name members "entryPoints").getD []).mapM (entryPoint name)
  let displayName ← orNull .text name members "name"
  let explorerUrl ← orNull .text name members "blockExplorerUrl"
  let graphUrl ← orNull .text name members "theGraphUrl"
  return {
    name, chainId := .int chainId, environment, contracts, endpoints, displayName, currency,
    explorerUrl, graphUrl, entryPoints }

/-- The network that an entry describes under a name. -/
def network (name : String) (value : Json) : Except Fault Network :=
  match value with
  | .object members => do Network.ofDraft (← draft name (normalize members))
  | _ => .error (.entryShape name)

/-! ## Documents -/

/-- The networks that a document describes, in order.  One bad entry spoils all. -/
def networks (document : Json) : Except Fault (Directory Network) :=
  match document with
  | .object members => do
    let entries ← members.mapM fun (name, value) => do return (name, ← network name value)
    return .ofList entries
  | value => .error (.documentShape value.kind)

end Document
end ChainAtlas
