import ChainAtlas.Network.Override

/-!
# Asking an endpoint for its chain ID

A probe asks an endpoint which chain it serves.  It makes one request and learns one reply: the
request may fail on the way, or it is answered with a status and a text.  What the endpoint says is
classified once and for all replies; a probe of a network then compares the answer with the chain ID
that is configured.

A probe is a value.  It holds the outcome together with the requests that were made for it, so that
"nothing was sent" is a statement about a list.
-/

namespace ChainAtlas

/-- What comes back from a request. -/
inductive Reply where
  /-- Nothing: the request failed, for a reason that is described. -/
  | failed (description : String)
  /-- A status and a text. -/
  | answered (status : Int) (body : String)
  deriving DecidableEq, Repr

/-- A request to an endpoint. -/
structure Request where
  url : String
  body : Json
  /-- How many seconds to wait, a JSON number. -/
  timeout : Json

/-- The outcome of asking for a chain ID, and the requests that were made. -/
structure Probe where
  outcome : Except Fault Int
  requests : List Request

namespace Probe

/-- The question that every request puts. -/
def question : Json :=
  .object [("jsonrpc", .text "2.0"), ("method", .text "eth_chainId"), ("params", .list []),
    ("id", .int 1)]

/-- How long a request waits unless told otherwise. -/
def defaultTimeout : Json := .int 30

/-- The chain ID in the result of a reply. -/
def resultChainId (reply : Json) (members : Members) : Except Fault Int :=
  match ((Entries.get? members "result").bind Json.text?).bind fun result =>
      Numeral.Hexadecimal.read? result.toList with
  | none => .error (.malformedReply reply)
  | some chainId => .ok chainId

/-- The chain ID in a reply that is a JSON value.  An error member wins over any result. -/
def chainIdOf (reply : Json) : Except Fault Int :=
  match reply with
  | .object members =>
    match Entries.get? members "error" with
    | some error => .error (.errorReply error)
    | none => resultChainId reply members
  | _ => .error (.malformedReply reply)

/-- A fault of a JSON text as a fault of the reply: a text that is not JSON is a failure on the
way. -/
def replyFault : Json.ReadFault → Fault
  | .malformed fault => .transport fault.message
  | .longNumeral digits => .longNumeral digits

/-- The chain ID that a reply reports. -/
def classify : Reply → Except Fault Int
  | .failed description => .error (.transport description)
  | .answered status body =>
    if status ≠ 200 then .error (.badStatus status)
    else do chainIdOf (← (Json.read body.toList).mapError replyFault)

/-- Ask the endpoint at a URL. -/
def fetch (url : String) (timeout : Json) (reply : Reply) : Probe :=
  ⟨classify reply, [⟨url, question, timeout⟩]⟩

/-- The fault of an endpoint that serves another chain.  A chain ID that is too long to be shown is a
fault of its own. -/
def mismatch (network : Network) (url : String) (served : Int) : Fault :=
  if Numeral.isShowable served && Numeral.isShowable network.chainId then
    .chainIdMismatch url served network.name network.chainId
  else .longNumber

/-- Compare the chain ID that an endpoint serves with the one of a network. -/
def confirm (network : Network) (url : String) (served : Int) : Except Fault Int :=
  if served = network.chainId then .ok served else .error (mismatch network url served)

/-- Ask the endpoint of a network, and compare. -/
def verify (network : Network) (given : Option String) (env : Variables) (timeout : Json)
    (reply : Reply) : Probe :=
  match network.resolveUrl given .http env with
  | .error fault => ⟨.error fault, []⟩
  | .ok url =>
    let asked := fetch url timeout reply
    { asked with outcome := asked.outcome.bind (confirm network url) }

end Probe
end ChainAtlas
