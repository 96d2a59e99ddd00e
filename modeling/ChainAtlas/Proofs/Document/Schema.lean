import ChainAtlas.Document.Entry
import ChainAtlas.Proofs.Document.Names
import ChainAtlas.Proofs.Outcome

/-!
# What an entry has to look like

The shape of a network entry, said without reference to how it is read.  There is one relation for
each kind of object in an entry, between the JSON value and what it describes: `DescribesEndpoint`,
`DescribesCurrency`, `DescribesEntryPoint`, and `Describes` for the entry as a whole.  A relation
asks for every field that the value must have and ties every field of the result to the one that it
comes from, so a value that describes something is acceptable and what it describes keeps all that
it says.

The fields differ in what may be missing.  `IsLeftOut` is for those that may be absent or null;
where only absence is allowed the relation says `= none`.

Each relation is then shown to be what its reader does (`endpoint_eq_ok_iff` and its companions).
-/

namespace ChainAtlas
namespace Document

open Outcome

/-! ## Values of a shape -/

theorem pick_text_iff {value : Json} {s : String} :
    Shape.text.pick value = some s ↔ value = .text s := by
  cases value <;> simp [Shape.text, Json.text?]

theorem pick_int_iff {value : Json} {n : Int} : Shape.int.pick value = some n ↔ value = .int n := by
  cases value <;> simp [Shape.int, Json.int?]

theorem pick_bool_iff {value : Json} {b : Bool} :
    Shape.bool.pick value = some b ↔ value = .bool b := by
  cases value <;> simp [Shape.bool, Json.bool?]

theorem pick_list_iff {value : Json} {items : List Json} :
    Shape.list.pick value = some items ↔ value = .list items := by
  cases value <;> simp [Shape.list, Json.list?]

theorem pick_object_iff {value : Json} {members : Members} :
    Shape.object.pick value = some members ↔ value = .object members := by
  cases value <;> simp [Shape.object, Json.object?]

/-! ## Fields that may be missing -/

/-- Whether a field is absent or null. -/
def IsLeftOut (field : Option Json) : Prop := field = none ∨ field = some .null

variable {α : Type} {shape : Shape α} {network : String} {members : Members} {field : String}

theorem present?_eq_none_iff : present? members field = none ↔
    IsLeftOut (Entries.get? members field) := by
  rw [present?, IsLeftOut]
  cases h : Entries.get? members field with
  | none => simp
  | some value => cases value <;> simp [Json.isNull]

theorem present?_eq_some_iff {value : Json} : present? members field = some value ↔
    Entries.get? members field = some value ∧ value ≠ .null := by
  rw [present?]
  cases h : Entries.get? members field with
  | none => simp
  | some found => cases found <;> cases value <;> simp [Json.isNull]

/-- A field that may be absent has its value, or the one for its absence. -/
theorem orAbsent_eq_ok_iff {absent picked : α} :
    orAbsent shape network members field absent = .ok picked ↔
      Entries.get? members field = none ∧ picked = absent ∨
        ∃ value, Entries.get? members field = some value ∧ shape.pick value = some picked := by
  rw [orAbsent, Entries.has]
  cases h : Entries.get? members field with
  | none => simp [eq_comm]
  | some value => simp [required_eq_ok_iff, h]

/-- A field that may be absent or null has its value, if it is neither. -/
theorem orNull_eq_ok_iff (hnull : shape.pick .null = none) {picked : Option α} :
    orNull shape network members field = .ok picked ↔
      IsLeftOut (Entries.get? members field) ∧ picked = none ∨
        ∃ value inner, Entries.get? members field = some value ∧ shape.pick value = some inner ∧
          picked = some inner := by
  rw [orNull]
  cases h : present? members field with
  | none =>
    have hout := present?_eq_none_iff.1 h
    rcases hout with hnone | hsome
    · simp [IsLeftOut, hnone, eq_comm]
    · simp [IsLeftOut, hsome, hnull, eq_comm]
  | some value =>
    obtain ⟨hget, hne⟩ := present?_eq_some_iff.1 h
    have hgiven : ¬ IsLeftOut (Entries.get? members field) := by simp [IsLeftOut, hget, hne]
    simp only [map_eq_ok_iff, required_eq_ok_iff, hgiven, false_and, false_or]
    constructor
    · rintro ⟨inner, ⟨found, hfound, hpick⟩, rfl⟩
      exact ⟨found, inner, hfound, hpick, rfl⟩
    · rintro ⟨found, inner, hfound, hpick, rfl⟩
      exact ⟨inner, ⟨found, hfound, hpick⟩, rfl⟩

/-! ## Endpoints -/

/-- The schemes that select a transport. -/
def schemesOf : Protocol → List String
  | .http => ["http", "https"]
  | .websocket => ["ws", "wss"]

/-- A scheme that selects a transport is a word. -/
theorem isAlpha_of_mem_schemesOf {protocol : Protocol} {scheme : String}
    (h : scheme ∈ schemesOf protocol) :
    scheme.toList ≠ [] ∧ ∀ c ∈ scheme.toList, c.isAlpha = true := by
  have hwords : ∀ word ∈ schemesOf protocol,
      word.toList ≠ [] ∧ word.toList.all Char.isAlpha = true := by
    cases protocol <;> decide +kernel
  exact ⟨(hwords scheme h).1, List.all_eq_true.1 (hwords scheme h).2⟩

/-- Whether the scheme of a URL selects a transport. -/
def SelectsByScheme (url : String) (protocol : Protocol) : Prop :=
  ∃ scheme ∈ schemesOf protocol, Url.scheme url = .ok scheme.toList

/-- An endpoint has a URL, and either the tag of its transport or a URL whose scheme selects it. -/
def DescribesEndpoint (value : Json) (e : Endpoint) : Prop :=
  ∃ members, value = .object members ∧ Entries.get? members "url" = some (.text e.url) ∧
    (Entries.get? members "protocol" = some (.text e.protocol.tag) ∨
      IsLeftOut (Entries.get? members "protocol") ∧ SelectsByScheme e.url e.protocol)

theorem ofScheme?_eq_some_iff {scheme : List Char} {p : Protocol} :
    Protocol.ofScheme? scheme = some p ↔ ∃ s ∈ schemesOf p, scheme = s.toList := by
  rw [Protocol.ofScheme?]
  split_ifs with hhttp hsocket
  · rcases hhttp with rfl | rfl <;> cases p <;> simp [schemesOf]
  · rcases hsocket with rfl | rfl <;> cases p <;> simp [schemesOf]
  · rw [not_or] at hhttp hsocket
    cases p <;> simpa [schemesOf]

theorem inferProtocol_eq_ok_iff {url : String} {p : Protocol} :
    inferProtocol url = .ok p ↔ SelectsByScheme url p := by
  rw [inferProtocol, SelectsByScheme]
  cases h : Url.scheme url with
  | error fault => simp
  | ok scheme =>
    simp only [Except.ok.injEq, ← ofScheme?_eq_some_iff]
    cases Protocol.ofScheme? scheme <;> simp

theorem taggedProtocol_eq_ok_iff {tag : Json} {p : Protocol} :
    taggedProtocol network tag = .ok p ↔ tag = .text p.tag := by
  rw [taggedProtocol]
  cases tag with
  | text s =>
    rw [Json.text?, Option.bind_some, Json.text.injEq, eq_comm (a := s),
      ← Protocol.ofTag?_eq_some_iff]
    cases Protocol.ofTag? s <;> simp
  | _ => simp [Json.text?]

/-- The transport of an endpoint: the one that its tag names, or else the one of its URL. -/
def endpointProtocol (network : String) (members : Members) (url : String) :
    Except Fault Protocol :=
  match present? members "protocol" with
  | none => inferProtocol url
  | some tag => taggedProtocol network tag

theorem endpoint_object (network : String) (members : Members) :
    endpoint network (.object members) =
      required .text network members "url" >>= fun url =>
        endpointProtocol network members url >>= fun protocol => .ok ⟨protocol, url⟩ := by
  rw [endpoint]
  refine bind_congr fun url => ?_
  rw [endpointProtocol]
  cases present? members "protocol" <;> rfl

theorem endpointProtocol_eq_ok_iff {url : String} {p : Protocol} :
    endpointProtocol network members url = .ok p ↔
      Entries.get? members "protocol" = some (.text p.tag) ∨
        IsLeftOut (Entries.get? members "protocol") ∧ SelectsByScheme url p := by
  rw [endpointProtocol]
  cases h : present? members "protocol" with
  | none =>
    have hout := present?_eq_none_iff.1 h
    have htag : Entries.get? members "protocol" ≠ some (.text p.tag) := by
      rcases hout with hnone | hnull
      · simp [hnone]
      · simp [hnull]
    simp only [inferProtocol_eq_ok_iff, htag, hout, false_or, true_and]
  | some tag =>
    obtain ⟨hget, hne⟩ := present?_eq_some_iff.1 h
    simp [taggedProtocol_eq_ok_iff, IsLeftOut, hget, hne]

theorem endpoint_eq_ok_iff {value : Json} {e : Endpoint} :
    endpoint network value = .ok e ↔ DescribesEndpoint value e := by
  cases value with
  | object members =>
    simp only [endpoint_object, DescribesEndpoint, bind_eq_ok_iff, required_eq_ok_iff,
      pick_text_iff, endpointProtocol_eq_ok_iff, Json.object.injEq, exists_eq_left']
    constructor
    · rintro ⟨url, ⟨value, hget, rfl⟩, protocol, hprotocol, he⟩
      cases he
      exact ⟨hget, hprotocol⟩
    · rintro ⟨hurl, hprotocol⟩
      exact ⟨e.url, ⟨_, hurl, rfl⟩, e.protocol, hprotocol, rfl⟩
  | _ => simp [endpoint, DescribesEndpoint]

/-! ## Contracts -/

/-- A contract keeps its name and has the address that its value spells. -/
def DescribesContract (member : String × Json) (entry : String × Address) : Prop :=
  entry.1 = member.1 ∧ member.2 = .text entry.2.text

theorem contractAddress_eq_ok_iff {contract : String} {value : Json} {a : Address} :
    contractAddress network contract value = .ok a ↔ value = .text a.text := by
  cases value with
  | text s =>
    rw [contractAddress, mapError_eq_ok_iff, Address.ofText_eq_ok_iff, Json.text.injEq, eq_comm]
  | _ => simp [contractAddress]

theorem contracts_eq_ok_iff {value : Json} {entries : Entries Address} :
    contracts network value = .ok entries ↔
      ∃ members, value = .object members ∧ List.Forall₂ DescribesContract members entries := by
  cases value with
  | object members =>
    simp only [contracts, Json.object.injEq, exists_eq_left', mapM_eq_ok_iff,
      bind_pure_pair_eq_ok_iff, contractAddress_eq_ok_iff]
    rfl
  | _ => simp [contracts]

/-! ## Currencies -/

/-- A currency has a symbol and a name, and eighteen decimal places unless it says otherwise. -/
def DescribesCurrency (value : Json) (c : Currency) : Prop :=
  ∃ members, value = .object members ∧ Entries.get? members "symbol" = some (.text c.symbol) ∧
    Entries.get? members "name" = some (.text c.name) ∧
      (Entries.get? members "decimals" = none ∧ c.decimals = 18 ∨
        Entries.get? members "decimals" = some (.int c.decimals))

theorem currency_eq_ok_iff {value : Json} {c : Currency} :
    currency network value = .ok c ↔ DescribesCurrency value c := by
  cases value with
  | object members =>
    simp only [currency, DescribesCurrency, bind_eq_ok_iff, required_eq_ok_iff, orAbsent_eq_ok_iff,
      pick_text_iff, pick_int_iff, Json.object.injEq, exists_eq_left', exists_eq_right]
    constructor
    · rintro ⟨symbol, hsymbol, name, hname, decimals, hdecimals, hc⟩
      cases hc
      exact ⟨hsymbol, hname, hdecimals⟩
    · rintro ⟨hsymbol, hname, hdecimals⟩
      exact ⟨c.symbol, hsymbol, c.name, hname, c.decimals, hdecimals, rfl⟩
  | _ => simp [currency, DescribesCurrency]

/-! ## Entry points -/

/-- An entry point has a node, and a socket with a host and a port that is encrypted unless it says
otherwise. -/
def DescribesEntryPoint (value : Json) (p : EntryPoint) : Prop :=
  ∃ members socket, value = .object members ∧
    Entries.get? members "websocket" = some (.object socket) ∧
    Entries.get? members "nodeId" = some (.text p.nodeId) ∧
    Entries.get? socket "host" = some (.text p.host) ∧
    Entries.get? socket "port" = some (.int p.port) ∧
      (Entries.get? socket "tls" = none ∧ p.tls = true ∨
        Entries.get? socket "tls" = some (.bool p.tls))

theorem entryPoint_eq_ok_iff {value : Json} {p : EntryPoint} :
    entryPoint network value = .ok p ↔ DescribesEntryPoint value p := by
  cases value with
  | object members =>
    simp only [entryPoint, DescribesEntryPoint, bind_eq_ok_iff, required_eq_ok_iff,
      orAbsent_eq_ok_iff, pick_text_iff, pick_int_iff, pick_bool_iff, pick_object_iff,
      Json.object.injEq, exists_eq_right]
    constructor
    · rintro ⟨socket, hsocket, nodeId, hnodeId, host, hhost, port, hport, tls, htls, hp⟩
      cases hp
      exact ⟨members, socket, rfl, hsocket, hnodeId, hhost, hport, htls⟩
    · rintro ⟨_, socket, rfl, hsocket, hnodeId, hhost, hport, htls⟩
      exact ⟨socket, hsocket, p.nodeId, hnodeId, p.host, hhost, p.port, hport, p.tls, htls, rfl⟩
  | _ => simp [entryPoint, DescribesEntryPoint]

/-! ## The whole entry -/

/-- A text that may be absent or null. -/
def DescribesText (field : Option Json) (text : Option String) : Prop :=
  IsLeftOut field ∧ text = none ∨ ∃ s, field = some (.text s) ∧ text = some s

/-- What an entry says of a network.  Every field of the network comes from the field of its name,
and its items stay in order. -/
structure Describes (members : Members) (d : Network.Draft) : Prop where
  chainId : ∃ n, resolve members "chainId" = some (.int n) ∧ d.chainId = .int n
  environment : resolve members "environment" = some (.text d.environment)
  contracts : resolve members "contracts" = none ∧ d.contracts = [] ∨
    ∃ contracts, resolve members "contracts" = some (.object contracts) ∧
      List.Forall₂ DescribesContract contracts d.contracts
  endpoints : resolve members "rpcEndpoints" = none ∧ d.endpoints = [] ∨
    ∃ items, resolve members "rpcEndpoints" = some (.list items) ∧
      List.Forall₂ DescribesEndpoint items d.endpoints
  currency : IsLeftOut (resolve members "nativeCurrency") ∧ d.currency = none ∨
    ∃ value c, resolve members "nativeCurrency" = some value ∧ DescribesCurrency value c ∧
      d.currency = some c
  entryPoints : IsLeftOut (resolve members "entryPoints") ∧ d.entryPoints = [] ∨
    ∃ items, resolve members "entryPoints" = some (.list items) ∧
      List.Forall₂ DescribesEntryPoint items d.entryPoints
  displayName : DescribesText (resolve members "name") d.displayName
  explorerUrl : DescribesText (resolve members "blockExplorerUrl") d.explorerUrl
  graphUrl : DescribesText (resolve members "theGraphUrl") d.graphUrl

/-- The shape of an entry, the sign of its chain ID being left aside. -/
structure IsWellShaped (members : Members) : Prop where
  chainId : ∃ n, resolve members "chainId" = some (.int n)
  environment : ∃ s, resolve members "environment" = some (.text s)
  contracts : resolve members "contracts" = none ∨
    ∃ contracts, resolve members "contracts" = some (.object contracts) ∧
      ∀ contract ∈ contracts, ∃ a : Address, contract.2 = .text a.text
  endpoints : resolve members "rpcEndpoints" = none ∨
    ∃ items, resolve members "rpcEndpoints" = some (.list items) ∧
      ∀ item ∈ items, ∃ e, DescribesEndpoint item e
  currency : IsLeftOut (resolve members "nativeCurrency") ∨
    ∃ value c, resolve members "nativeCurrency" = some value ∧ DescribesCurrency value c
  entryPoints : IsLeftOut (resolve members "entryPoints") ∨
    ∃ items, resolve members "entryPoints" = some (.list items) ∧
      ∀ item ∈ items, ∃ p, DescribesEntryPoint item p
  displayName : IsLeftOut (resolve members "name") ∨ ∃ s, resolve members "name" = some (.text s)
  explorerUrl : IsLeftOut (resolve members "blockExplorerUrl") ∨
    ∃ s, resolve members "blockExplorerUrl" = some (.text s)
  graphUrl : IsLeftOut (resolve members "theGraphUrl") ∨
    ∃ s, resolve members "theGraphUrl" = some (.text s)

/-- Whether a value makes a network under a name that is not empty: it is an object of the right
shape, and its chain ID is positive. -/
def IsAcceptable (value : Json) : Prop :=
  ∃ members, value = .object members ∧ IsWellShaped members ∧
    ∃ chainId, resolve members "chainId" = some (.int chainId) ∧ 0 < chainId

end Document
end ChainAtlas
