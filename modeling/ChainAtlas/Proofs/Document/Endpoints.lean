import ChainAtlas.Network.Override
import ChainAtlas.Proofs.Document.Acceptance
import ChainAtlas.Proofs.Url.Scheme
import Mathlib.Data.List.Perm.Basic

/-!
# From the endpoints of a document to the URL of a network

An entry lists its endpoints, and a network that is read from it has one endpoint for each of them,
in the same order (`forall₂_listedEndpoints`).  Whether an item of the list qualifies for a
transport is said here by looking at the item alone (`QualifiesFor`): its tag counts, and where it
has none its URL does.

What carries the argument is that an item qualifies for the transport of the endpoint that it
describes and for no other (`DescribesEndpoint.qualifiesFor_iff`).  So the endpoints of a transport
may be picked before they are read as well as after it (`forall₂_qualifying`), the URL of a network
is that of the first item that qualifies, and the two transports share out the list between them.
-/

namespace ChainAtlas

open Outcome

/-! ## The endpoints of a transport -/

namespace Network

/-- No endpoint is of both transports. -/
theorem disjoint_endpointsOf (n : Network) :
    List.Disjoint (n.endpointsOf .http) (n.endpointsOf .websocket) := by
  intro e hhttp hsocket
  have h := (mem_endpointsOf.1 hhttp).2
  rw [(mem_endpointsOf.1 hsocket).2] at h
  cases h

/-- Every endpoint is of one of the transports, as often as it is listed. -/
theorem endpointsOf_append_perm (n : Network) :
    (n.endpointsOf .http ++ n.endpointsOf .websocket).Perm n.endpoints := by
  have hother : n.endpointsOf .websocket =
      n.endpoints.filter fun e => !decide (e.protocol = .http) := by
    rw [endpointsOf]
    refine List.filter_congr fun e _ => ?_
    cases e.protocol <;> rfl
  rw [hother]
  exact List.filter_append_perm _ _

end Network

namespace Document

variable {name : String} {value item : Json} {members : Members} {n : Network} {e : Endpoint}
  {p : Protocol}

/-! ## Items and transports -/

/-- The items of the list of endpoints in an entry; none if the entry has no such list. -/
def listedEndpoints (value : Json) : List Json :=
  ((value.object?.bind (Entries.get? · "rpcEndpoints")).bind Json.list?).getD []

/-- The URL of an item. -/
def HasUrl (item : Json) (url : String) : Prop :=
  ∃ members, item = .object members ∧ Entries.get? members "url" = some (.text url)

/-- Whether an item has the tag of a transport, or no tag and a URL with a scheme of it. -/
def QualifiesFor (item : Json) (p : Protocol) : Prop :=
  ∃ members, item = .object members ∧
    (Entries.get? members "protocol" = some (.text p.tag) ∨
      IsLeftOut (Entries.get? members "protocol") ∧
        ∃ url, HasUrl item url ∧ ∃ scheme ∈ schemesOf p, Url.HasScheme url scheme.toList)

theorem selectsByScheme_iff {url : String} :
    SelectsByScheme url p ↔ ∃ scheme ∈ schemesOf p, Url.HasScheme url scheme.toList := by
  refine exists_congr fun scheme => and_congr_right fun hmem => ?_
  obtain ⟨hne, halpha⟩ := isAlpha_of_mem_schemesOf hmem
  exact Url.scheme_eq_ok_iff hne halpha

/-- What an item with a URL qualifies for is what its reader takes it for. -/
theorem qualifiesFor_object_iff {url : String}
    (hurl : Entries.get? members "url" = some (.text url)) :
    QualifiesFor (.object members) p ↔ endpointProtocol name members url = .ok p := by
  rw [endpointProtocol_eq_ok_iff, selectsByScheme_iff]
  simp [QualifiesFor, HasUrl, hurl]

/-- **An item qualifies for the transport of the endpoint that it describes and for no other.** -/
theorem DescribesEndpoint.qualifiesFor_iff (h : DescribesEndpoint item e) :
    QualifiesFor item p ↔ e.protocol = p := by
  obtain ⟨members, rfl, hurl, hprotocol⟩ := h
  have hread : endpointProtocol "" members e.url = .ok e.protocol :=
    endpointProtocol_eq_ok_iff.2 hprotocol
  rw [qualifiesFor_object_iff hurl, hread, Except.ok.injEq]

theorem DescribesEndpoint.hasUrl_iff (h : DescribesEndpoint item e) {url : String} :
    HasUrl item url ↔ e.url = url := by
  obtain ⟨members, rfl, hurl, -⟩ := h
  simp [HasUrl, hurl]

/-! ## Lists of items -/

/-- **A network has an endpoint for each item of its entry, in the same order.** -/
theorem forall₂_listedEndpoints (h : network name value = .ok n) :
    List.Forall₂ DescribesEndpoint (listedEndpoints value) n.endpoints := by
  cases value with
  | object members =>
    obtain ⟨d, -, hd, hn⟩ := network_object_eq_ok_iff.1 h
    have hendpoints : n.endpoints = d.endpoints :=
      congrArg Network.Draft.endpoints (Network.draft_of_ofDraft hn)
    have hfield : resolve members "rpcEndpoints" = Entries.get? members "rpcEndpoints" := by
      simp [resolve, olderName?]
    have hlisted := hd.endpoints
    rw [hendpoints, listedEndpoints, Json.object?, Option.bind_some, ← hfield]
    rcases hlisted with ⟨hget, hnil⟩ | ⟨items, hget, hitems⟩
    · rw [hget, hnil]
      exact .nil
    · rw [hget]
      exact hitems
  | _ => cases h

open Classical in
/-- The items of a list that qualify for a transport, in order. -/
noncomputable def qualifying (items : List Json) (p : Protocol) : List Json :=
  items.filter (QualifiesFor · p)

variable {items : List Json}

theorem qualifying_eq_nil_iff :
    qualifying items p = [] ↔ ∀ item ∈ items, ¬ QualifiesFor item p := by
  simp [qualifying, List.filter_eq_nil_iff]

theorem qualifying_eq_cons_iff {rest : List Json} :
    qualifying items p = item :: rest ↔ ∃ before after, items = before ++ item :: after ∧
      (∀ earlier ∈ before, ¬ QualifiesFor earlier p) ∧ QualifiesFor item p ∧
        qualifying after p = rest := by
  simp [qualifying, List.filter_eq_cons_iff]

/-- **The endpoints of a transport are described by the items that qualify for it.** -/
theorem forall₂_qualifying (h : network name value = .ok n) (p : Protocol) :
    List.Forall₂ DescribesEndpoint (qualifying (listedEndpoints value) p) (n.endpointsOf p) := by
  refine List.rel_filter (fun item e hitem => ?_) (forall₂_listedEndpoints h)
  simp only [decide_eq_true_eq]
  exact hitem.qualifiesFor_iff

/-- Whether the first item that qualifies for a transport has a certain URL. -/
def IsFirstUrl (items : List Json) (p : Protocol) (url : String) : Prop :=
  ∃ before item after, items = before ++ item :: after ∧
    (∀ earlier ∈ before, ¬ QualifiesFor earlier p) ∧ QualifiesFor item p ∧ HasUrl item url

theorem isFirstUrl_iff {url : String} : IsFirstUrl items p url ↔
    ∃ item rest, qualifying items p = item :: rest ∧ HasUrl item url := by
  constructor
  · rintro ⟨before, item, after, hitems, hbefore, hitem, hurl⟩
    exact ⟨item, _, qualifying_eq_cons_iff.2 ⟨before, after, hitems, hbefore, hitem, rfl⟩, hurl⟩
  · rintro ⟨item, rest, hfirst, hurl⟩
    obtain ⟨before, after, hitems, hbefore, hitem, -⟩ := qualifying_eq_cons_iff.1 hfirst
    exact ⟨before, item, after, hitems, hbefore, hitem, hurl⟩

/-! ## The URL of a network -/

theorem endpointUrl_eq_ok_iff_isFirstUrl (h : network name value = .ok n) {url : String} :
    n.endpointUrl p = .ok url ↔ IsFirstUrl (listedEndpoints value) p url := by
  have hboth := forall₂_qualifying h p
  rw [Network.endpointUrl_eq_ok_iff, isFirstUrl_iff]
  constructor
  · rintro ⟨e, rest, hendpoints, hurl⟩
    rw [hendpoints, List.forall₂_cons_right_iff] at hboth
    obtain ⟨item, items, hitem, -, hqualifying⟩ := hboth
    exact ⟨item, items, hqualifying, hitem.hasUrl_iff.2 hurl⟩
  · rintro ⟨item, items, hqualifying, hurl⟩
    rw [hqualifying, List.forall₂_cons_left_iff] at hboth
    obtain ⟨e, rest, hitem, -, hendpoints⟩ := hboth
    exact ⟨e, rest, hendpoints, hitem.hasUrl_iff.1 hurl⟩

/-- A network has no endpoint of a transport when no item qualifies for it. -/
theorem endpointsOf_eq_nil_iff (h : network name value = .ok n) :
    n.endpointsOf p = [] ↔ ∀ item ∈ listedEndpoints value, ¬ QualifiesFor item p := by
  have hlength := (forall₂_qualifying h p).length_eq
  rw [← qualifying_eq_nil_iff, ← List.length_eq_zero_iff, ← List.length_eq_zero_iff, hlength]

/-- Every item qualifies for exactly one transport. -/
theorem existsUnique_qualifiesFor (h : network name value = .ok n)
    (hitem : item ∈ listedEndpoints value) : ∃! p, QualifiesFor item p := by
  obtain ⟨e, he⟩ := exists_forall₂_iff.1 ⟨_, forall₂_listedEndpoints h⟩ item hitem
  exact ⟨e.protocol, he.qualifiesFor_iff.2 rfl, fun p hp => (he.qualifiesFor_iff.1 hp).symm⟩

/-- **A network is reached at the first URL that its entry has for a transport.**  Unless the
variable of the network has a value, the URL is the one, letter by letter, of the first item that
qualifies for the transport, and there is none exactly when no item does.  Every item qualifies for
exactly one transport: the endpoints of the two transports come from the items that qualify for
them, in order, and together they are all the endpoints. -/
theorem endpoints_of_network (h : network name value = .ok n) :
    (∀ (p : Protocol) (env : Variables),
        env (Network.overrideVariable name) = none ∨
          env (Network.overrideVariable name) = some "" →
        (∀ url, n.resolveUrl none p env = .ok url ↔ IsFirstUrl (listedEndpoints value) p url) ∧
        ∀ fault, n.resolveUrl none p env = .error fault ↔
          fault = .noEndpointOf p name (Network.overrideVariable name) ∧
            ∀ item ∈ listedEndpoints value, ¬ QualifiesFor item p) ∧
    (∀ item ∈ listedEndpoints value, ∃! p, QualifiesFor item p) ∧
    List.Forall₂ DescribesEndpoint (listedEndpoints value) n.endpoints ∧
    (∀ p, List.Forall₂ DescribesEndpoint (qualifying (listedEndpoints value) p)
        (n.endpointsOf p) ∧ (n.endpointsOf p).Sublist n.endpoints) ∧
    List.Disjoint (n.endpointsOf .http) (n.endpointsOf .websocket) ∧
    (n.endpointsOf .http ++ n.endpointsOf .websocket).Perm n.endpoints := by
  refine ⟨?_, fun _ hitem => existsUnique_qualifiesFor h hitem, forall₂_listedEndpoints h,
    fun p => ⟨forall₂_qualifying h p, List.filter_sublist⟩, n.disjoint_endpointsOf,
    n.endpointsOf_append_perm⟩
  intro p env henv
  have hname := (name_and_chainId_of_network h).1
  have hvalue : env.value? (Network.overrideVariable n.name) = none := by
    rw [hname, Variables.value?_eq_none_iff]
    exact henv
  rw [Network.resolveUrl_of_unset hvalue]
  refine ⟨fun url => endpointUrl_eq_ok_iff_isFirstUrl h, fun fault => ?_⟩
  rw [Network.endpointUrl_eq_error_iff, endpointsOf_eq_nil_iff h, hname, and_comm]

/-- An untagged socket, two endpoints whose tags are null and missing, and one whose tag goes against
its scheme. -/
theorem endpoints_of_mixed_entry :
    ∃ value n, network "dev1" value = .ok n ∧ (listedEndpoints value).length = 4 ∧
      n.resolveUrl none .http (fun _ => some "") = .ok "HTTP://one" ∧
      IsFirstUrl (listedEndpoints value) .http "HTTP://one" ∧
      (∀ item ∈ listedEndpoints value, ∃! p, QualifiesFor item p) ∧
      (n.endpointsOf .http ++ n.endpointsOf .websocket).Perm n.endpoints := by
  let value : Json := .object
    [("chainId", .int 1337), ("environment", .text "development"),
     ("rpcEndpoints", .list
       [.object [("url", .text "http://zero"), ("protocol", .text "websocket")],
        .object [("url", .text "wss://zero")],
        .object [("url", .text "HTTP://one"), ("protocol", .null)],
        .object [("url", .text "https://two")]])]
  obtain ⟨n, hn, hurl⟩ : ∃ n, network "dev1" value = .ok n ∧
      n.resolveUrl none .http (fun _ => some "") = .ok "HTTP://one" := ⟨_, rfl, rfl⟩
  have h := endpoints_of_network hn
  exact ⟨value, n, hn, rfl, hurl, ((h.1 .http _ (Or.inr rfl)).1 _).1 hurl, h.2.1, h.2.2.2.2.2⟩

end Document
end ChainAtlas
