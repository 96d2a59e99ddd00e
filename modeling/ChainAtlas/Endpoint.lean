import ChainAtlas.Url

/-!
# Endpoints

A network is reached through endpoints, each with a transport and a URL.  A document may name the
transport by its tag; where it does not, the scheme of the URL tells it.  Four schemes are known, and
every one of them selects exactly one of the two transports.
-/

namespace ChainAtlas

/-- The transport of an endpoint. -/
inductive Protocol where
  | http
  | websocket
  deriving DecidableEq, Repr, Inhabited, Hashable

namespace Protocol

/-- The tag of a transport in documents. -/
def tag : Protocol → String
  | .http => "http"
  | .websocket => "websocket"

/-- The transport with a tag. -/
def ofTag? (tag : String) : Option Protocol :=
  if tag = "http" then some .http
  else if tag = "websocket" then some .websocket
  else none

@[simp] theorem ofTag?_tag (p : Protocol) : ofTag? p.tag = some p := by
  cases p <;> simp [ofTag?, tag]

theorem ofTag?_eq_some_iff {tag : String} {p : Protocol} : ofTag? tag = some p ↔ p.tag = tag := by
  constructor
  · intro h
    unfold ofTag? at h
    split at h
    · cases h; simp_all [Protocol.tag]
    · split at h
      · cases h; simp_all [Protocol.tag]
      · cases h
  · rintro rfl; exact ofTag?_tag p

/-- The transport that a scheme in lower case selects. -/
def ofScheme? (scheme : List Char) : Option Protocol :=
  if scheme = ['h', 't', 't', 'p'] ∨ scheme = ['h', 't', 't', 'p', 's'] then some .http
  else if scheme = ['w', 's'] ∨ scheme = ['w', 's', 's'] then some .websocket
  else none

end Protocol

/-- An access point of a network. -/
structure Endpoint where
  protocol : Protocol
  url : String
  deriving DecidableEq, Repr, Inhabited, Hashable

end ChainAtlas
