import ChainAtlas.Network.Override

/-!
# Questions to a network

Whatever a caller may ask a network is listed here as data, with one function that answers.  A transport
is named by the caller as it is or by its tag; a tag that no transport has is refused before the network
is looked at.
-/

namespace ChainAtlas

/-- The name of a transport: the transport itself, or a tag. -/
inductive ProtocolName where
  | itself (protocol : Protocol)
  | tagged (tag : String)
  deriving DecidableEq, Repr

/-- The transport that is named. -/
def ProtocolName.resolve : ProtocolName → Except Fault Protocol
  | .itself protocol => .ok protocol
  | .tagged tag =>
    match Protocol.ofTag? tag with
    | none => .error (.badTag tag)
    | some protocol => .ok protocol

namespace Network

/-- A question to a network. -/
inductive Question where
  | hasContract (contract : String)
  | contract (contract : String)
  | endpointsOf (protocol : ProtocolName)
  | defaultUrl (protocol : Option ProtocolName)
  | resolveUrl (given : Option String) (protocol : Protocol) (env : Variables)
  | overrideVariable
  | explorerAddressUrl (address : String)
  | explorerTransactionUrl (hash : String)

/-- An answer of a network. -/
inductive Answer where
  | truth (value : Bool)
  | address (address : Address)
  | endpoints (endpoints : List Endpoint)
  | url (url : String)
  | page (url : Option String)
  | variableName (name : String)

/-- What a network answers. -/
def answer (n : Network) : Question → Except Fault Answer
  | .hasContract contract => return .truth (n.hasContract contract)
  | .contract contract => return .address (← n.contract contract)
  | .endpointsOf protocol => return .endpoints (n.endpointsOf (← protocol.resolve))
  | .defaultUrl protocol => do
    return .url (← n.defaultUrl (← protocol.mapM ProtocolName.resolve))
  | .resolveUrl given protocol env => return .url (← n.resolveUrl given protocol env)
  | .overrideVariable => return .variableName (Network.overrideVariable n.name)
  | .explorerAddressUrl address => return .page (n.explorerAddressUrl address)
  | .explorerTransactionUrl hash => return .page (n.explorerTransactionUrl hash)

end Network
end ChainAtlas
