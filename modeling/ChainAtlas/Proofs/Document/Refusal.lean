import ChainAtlas.Proofs.Document.FaultKinds
import ChainAtlas.Proofs.Registry.EntryByEntry

/-!
# How a document is refused

Whoever loads a document is promised a registry or a fault about the document: that it is
malformed, that an address in it is, or that a chain ID or a name of a network is not valid.  All
of these belong to the family of configuration faults, which is the one that callers handle.

The promise is broken in three places.  An endpoint without a tag has its URL looked at, and what is
wrong with the URL is passed on as a plain fault of a value.  An endpoint with a tag that names no
transport, and an entry with a chain ID that is not positive, are complained about with a message that
shows the value; where a whole number in it has too many digits, the message cannot be made, and the
plain fault of that number comes out instead.  The two halves of this are

* `network_faultsIn`: the faults of an entry are about the document, or plain;
* `network_eq_plain_iff`: an entry is refused with a plain fault exactly when its reading comes to one
  of the three places (`EntryLeaks`).

`fault_of_ofDocument` puts them together for whole documents.  A document is any value here, in
particular one that holds numbers of any length.  One that was read from a text holds none that are
too long, since no such number is read, so for it the first place is the only one
(`ofDocument_faultsIn_of_read`).
-/

namespace ChainAtlas
namespace Document

open Outcome

/-! ## Faults about the document -/

/-- The kinds of faults that a document may be refused with. -/
def reportedKinds : List Kind :=
  [.malformedDocument, .malformedAddress, .invalidChainId, .invalidChainName]

/-- Whether a fault is about the document. -/
def IsReported (fault : Fault) : Prop := fault.kind ∈ reportedKinds

/-- Faults about the document are faults of the configuration. -/
theorem IsReported.isConfiguration {fault : Fault} (h : IsReported fault) :
    fault.isConfiguration = true := by
  have hall : ∀ kind ∈ reportedKinds, kind.families.contains .configuration = true := by decide
  exact hall fault.kind h

theorem isReported_of_kind_eq {fault : Fault} (kind : Kind) (hkind : kind ∈ reportedKinds)
    (h : fault.kind = kind) : IsReported fault := by
  rw [IsReported, h]
  exact hkind

/-- A plain fault is none of the configuration. -/
theorem IsPlain.isConfiguration {fault : Fault} (h : IsPlain fault) :
    fault.isConfiguration = false := by
  rw [Fault.isConfiguration, h.kind_eq]
  rfl

variable {name : String} {members : Members} {value : Json} {fault : Fault}

/-- Either about the document or plain. -/
def IsReportedOrPlain (fault : Fault) : Prop := IsReported fault ∨ IsPlain fault

/-- A fault about the document whose message shows a value. -/
theorem IsReported.quoting (value : Json) (h : IsReported fault) :
    IsReportedOrPlain (.quoting value fault) := by
  cases hshown : value.isShowable with
  | true =>
    rw [Fault.quoting_of_isShowable hshown]
    exact Or.inl h
  | false =>
    rw [Fault.quoting_of_not_isShowable hshown]
    exact Or.inr .longNumber

/-- What is left to check once a draft is there. -/
theorem ofDraft_faultsIn (d : Network.Draft) : FaultsIn IsReportedOrPlain (Network.ofDraft d) := by
  intro fault hfault
  rcases Network.ofDraft_eq_error_iff.1 hfault with ⟨-, rfl⟩ | ⟨-, hquoted, -⟩
  · exact Or.inl (isReported_of_kind_eq .invalidChainName (by decide) rfl)
  · rw [hquoted]
    exact (isReported_of_kind_eq .invalidChainId (by decide) rfl).quoting d.chainId

/-- What comes up while a draft is read is about the document, or plain. -/
theorem IsDraftFault.isReportedOrPlain (h : IsDraftFault fault) : IsReportedOrPlain fault := by
  rcases h with hmalformed | ⟨bad, rfl⟩ | hplain
  · exact Or.inl (isReported_of_kind_eq .malformedDocument (by decide) hmalformed)
  · exact Or.inl (isReported_of_kind_eq .malformedAddress (by decide) rfl)
  · exact Or.inr hplain

/-! ## Entries -/

/-- Whether reading an entry comes to a place where a plain fault is passed on: an endpoint with a
text that is refused as a URL, an endpoint with a tag that is too long to be shown, or, with all the
rest in order, a chain ID that is not positive and too long to be shown. -/
inductive EntryLeaks (name : String) (members : Members) : Fault → Prop where
  | url (u : Url.Fault) (h : StopsAtEndpoint members fun item => HasRefusedUrl item u) :
    EntryLeaks name members (.badUrl u)
  | tag (h : StopsAtEndpoint members HasLongTag) : EntryLeaks name members .longNumber
  | chainId (n : ℤ) (h : HasBadChainId name members n) (hlong : Numeral.isShowable n = false) :
    EntryLeaks name members .longNumber

theorem EntryLeaks.isPlain (h : EntryLeaks name members fault) : IsPlain fault := by
  cases h with
  | url u h => exact .badUrl u
  | tag h => exact .longNumber
  | chainId n h hlong => exact .longNumber

theorem network_faultsIn : FaultsIn IsReportedOrPlain (network name value) := by
  cases value with
  | object members =>
    exact .bind (draft_faultsIn.mono fun _ => IsDraftFault.isReportedOrPlain) ofDraft_faultsIn
  | _ => exact .error (IsDraftFault.isReportedOrPlain (Or.inl rfl))

/-- An entry is refused for a URL exactly when its reading comes to one; what stands after the
endpoint, and the sign of the chain ID, make no difference. -/
theorem network_eq_badUrl_iff {u : Url.Fault} :
    network name value = .error (.badUrl u) ↔ ∃ members, value = .object members ∧
      StopsAtEndpoint members fun item => HasRefusedUrl item u := by
  have hquoted : ∀ n, Fault.badUrl u ≠ .quoting (.int n) (.badChainId (.int n) name) := by
    intro n h
    rw [Fault.quoting] at h
    cases hshown : (Json.int n).isShowable <;> simp [hshown] at h
  cases value with
  | object members =>
    rw [network_object_eq_error_iff, draft_eq_plain_iff (.badUrl u) fun _ => endpoint_eq_badUrl_iff]
    simp only [reduceCtorEq, and_false, hquoted, exists_false, or_false, Json.object.injEq,
      exists_eq_left']
  | _ => simp [network]

/-- **An entry is refused with a plain fault exactly when its reading comes to a place where one is
passed on.** -/
theorem network_eq_plain_iff (hplain : IsPlain fault) :
    network name value = .error fault ↔
      ∃ members, value = .object members ∧ EntryLeaks name members fault := by
  cases hplain with
  | badUrl u =>
    rw [network_eq_badUrl_iff]
    refine exists_congr fun members => and_congr_right fun _ => ⟨.url u, fun h => ?_⟩
    cases h with
    | url u h => exact h
  | longNumber =>
    rw [network_eq_longNumber_iff]
    refine exists_congr fun members => and_congr_right fun _ => ⟨?_, fun h => ?_⟩
    · rintro (htag | ⟨n, hbad, hlong⟩)
      · exact .tag htag
      · exact .chainId n hbad hlong
    · cases h with
      | tag h => exact Or.inl h
      | chainId n h hlong => exact Or.inr ⟨n, h, hlong⟩

/-! ## Documents -/

/-- Whether reading a document comes to an entry where a plain fault is passed on. -/
def DocumentLeaks (document : Json) (fault : Fault) : Prop :=
  ∃ before name members after, document = .object (before ++ (name, .object members) :: after) ∧
    (∀ entry ∈ before, entry.1 ≠ "" ∧ IsAcceptable entry.2) ∧ EntryLeaks name members fault

theorem DocumentLeaks.isPlain {document : Json} (h : DocumentLeaks document fault) :
    IsPlain fault := by
  obtain ⟨_, _, _, _, -, -, hleaks⟩ := h
  exact hleaks.isPlain

theorem ofDocument_faultsIn (document : Json) (environment : Option String) :
    FaultsIn IsReportedOrPlain (Registry.ofDocument document environment) := by
  refine .bind ?_ fun networks => .ok _
  cases document with
  | object members =>
    exact .bind (.mapM (fun _ => .bind network_faultsIn fun _ => .ok _) members) fun _ => .ok _
  | _ => exact .error (IsDraftFault.isReportedOrPlain (Or.inl rfl))

/-- A document is refused with a plain fault exactly when its reading comes to one. -/
theorem ofDocument_eq_plain_iff (hplain : IsPlain fault) (document : Json)
    (environment : Option String) :
    Registry.ofDocument document environment = .error fault ↔ DocumentLeaks document fault := by
  rw [Registry.ofDocument_eq_error_iff]
  cases document with
  | object members =>
    simp only [networks_object_eq_error_iff, network_eq_plain_iff hplain, exists_network_eq_ok_iff,
      DocumentLeaks, Json.object.injEq]
    constructor
    · rintro ⟨before, name, value, after, hmembers, hbefore, inner, rfl, hleaks⟩
      exact ⟨before, name, inner, after, hmembers, hbefore, hleaks⟩
    · rintro ⟨before, name, inner, after, hmembers, hbefore, hleaks⟩
      exact ⟨before, name, .object inner, after, hmembers, hbefore, inner, rfl, hleaks⟩
  | _ =>
    have hshape : ∀ kind, Fault.documentShape kind ≠ fault := by
      rintro kind rfl
      cases hplain
    simp [networks, DocumentLeaks, hshape]

/-! ## Documents that were read from a text -/

theorem isShowable_of_resolve (hmembers : (Json.object members).isShowable = true) {field : String}
    (h : resolve members field = some value) : value.isShowable = true := by
  rw [Json.isShowable, Json.areMembersShowable_iff] at hmembers
  rcases Option.or_eq_some_iff.1 h with hget | ⟨-, holder⟩
  · exact hmembers _ (Entries.mem_of_get? hget)
  · obtain ⟨older, -, hget⟩ := Option.bind_eq_some_iff.1 holder
    exact hmembers _ (Entries.mem_of_get? hget)

/-- In an entry that can be shown, nothing but a URL is passed on. -/
theorem EntryLeaks.exists_badUrl (hmembers : (Json.object members).isShowable = true)
    (h : EntryLeaks name members fault) : ∃ u, fault = .badUrl u := by
  cases h with
  | url u hstop => exact ⟨u, rfl⟩
  | tag hstop =>
    obtain ⟨before, item, after, hitems, -, inner, rfl, _, -, tag, htag, hlong⟩ := hstop.endpoints
    have hlist := isShowable_of_resolve hmembers hitems
    rw [Json.isShowable, Json.areItemsShowable_iff] at hlist
    have hitem := hlist _ (List.mem_append_right _ List.mem_cons_self)
    rw [Json.isShowable, Json.areMembersShowable_iff] at hitem
    have hshown := hitem _ (Entries.mem_of_get? htag)
    rw [hlong] at hshown
    cases hshown
  | chainId n hbad hlong =>
    have hshown := isShowable_of_resolve hmembers hbad.resolve_eq
    rw [Json.isShowable_int, hlong] at hshown
    cases hshown

/-- **A document that was read from a text is refused with a fault about it, or with one of a
URL.** -/
theorem ofDocument_faultsIn_of_read {text : List Char} {document : Json}
    (hread : Json.read text = .ok document) (environment : Option String) :
    FaultsIn (fun fault => IsReported fault ∨ ∃ u, fault = .badUrl u)
      (Registry.ofDocument document environment) := by
  intro fault hfault
  refine (ofDocument_faultsIn document environment fault hfault).imp_right fun hplain => ?_
  obtain ⟨before, name, members, after, rfl, -, hleaks⟩ :=
    (ofDocument_eq_plain_iff hplain document environment).1 hfault
  have hshown := Json.isShowable_of_read hread
  rw [Json.isShowable, Json.areMembersShowable_iff] at hshown
  exact hleaks.exists_badUrl (hshown _ (List.mem_append_right _ List.mem_cons_self))

/-! ## All documents -/

/-- **A document is refused with a fault about it, unless its reading comes to a place where a plain
fault is passed on.**  Those places are an endpoint without a tag and with a text that is refused as a
URL, an endpoint with a tag that is too long to be shown, and an entry in order with a chain ID that
is not positive and too long to be shown.  There, and nowhere else, the fault is none of the
configuration. -/
theorem fault_of_ofDocument (document : Json) (environment : Option String) :
    (∀ fault, Registry.ofDocument document environment = .error fault →
      fault.kind ∈ reportedKinds ∧ fault.isConfiguration = true ∨ DocumentLeaks document fault) ∧
    ∀ fault, DocumentLeaks document fault →
      Registry.ofDocument document environment = .error fault ∧ fault.isConfiguration = false := by
  constructor
  · intro fault hfault
    rcases ofDocument_faultsIn document environment fault hfault with hreported | hplain
    · exact Or.inl ⟨hreported, hreported.isConfiguration⟩
    · exact Or.inr ((ofDocument_eq_plain_iff hplain document environment).1 hfault)
  · intro fault hleaks
    exact ⟨(ofDocument_eq_plain_iff hleaks.isPlain document environment).2 hleaks,
      hleaks.isPlain.isConfiguration⟩

/-- A document with one network, which has some endpoints. -/
def withEndpoints (endpoints : List Json) : Json :=
  .object [("dev", .object [("chainId", .int 1), ("environment", .text "development"),
    ("rpcEndpoints", .list endpoints)])]

/-- An endpoint without a tag. -/
def untagged (url : String) : Json := .object [("url", .text url)]

/-- An endpoint with a whole number as its tag. -/
def tagged (tag : ℤ) : Json := .object [("url", .text "http://a"), ("protocol", .int tag)]

/-- A document whose first endpoint is of a certain sort comes to it. -/
theorem documentLeaks_withEndpoints {item : Json}
    (h : ∀ members, StopsAtEndpoint members (· = item) → EntryLeaks "dev" members fault) :
    DocumentLeaks (withEndpoints [item]) fault :=
  ⟨[], "dev", _, [], rfl, List.forall_mem_nil _,
    h _ ⟨⟨1, rfl⟩, ⟨"development", rfl⟩, Or.inl rfl, [], item, [], rfl, List.forall_mem_nil _, rfl⟩⟩

theorem StopsAtEndpoint.mono {P Q : Json → Prop} (h : StopsAtEndpoint members P)
    (hPQ : ∀ item, P item → Q item) : StopsAtEndpoint members Q where
  chainId := h.chainId
  environment := h.environment
  contracts := h.contracts
  endpoints := by
    obtain ⟨before, item, after, hitems, hbefore, hitem⟩ := h.endpoints
    exact ⟨before, item, after, hitems, hbefore, hPQ item hitem⟩

/-- A scheme without a transport is reported.  A bracket without its partner is passed on, and so are
a tag and a chain ID that are too long to be shown. -/
theorem refusal_of_endpoints :
    (Registry.ofDocument (withEndpoints [untagged "ftp://host"]) none =
        .error (.unknownScheme "ftp://host") ∧
      (Fault.unknownScheme "ftp://host").isConfiguration = true) ∧
    Registry.ofDocument (withEndpoints [untagged "http://["]) none = .error (.badUrl .strayBracket) ∧
    Registry.ofDocument (withEndpoints [tagged longNegative]) none = .error .longNumber ∧
    Registry.ofDocument (.object [("dev", .object (bareMembers longNegative))]) none =
      .error .longNumber := by
  have hscheme : Registry.ofDocument (withEndpoints [untagged "ftp://host"]) none =
      .error (.unknownScheme "ftp://host") := rfl
  have hurl : DocumentLeaks (withEndpoints [untagged "http://["]) (.badUrl .strayBracket) :=
    documentLeaks_withEndpoints fun _ hstop => .url _ <| hstop.mono <| by
      rintro _ rfl
      exact ⟨_, rfl, "http://[", rfl, Or.inl rfl, rfl⟩
  have htag : DocumentLeaks (withEndpoints [tagged longNegative]) .longNumber :=
    documentLeaks_withEndpoints fun _ hstop => .tag <| hstop.mono <| by
      rintro _ rfl
      exact ⟨_, rfl, "http://a", rfl, _, rfl, (Json.isShowable_int _).trans not_isShowable_longNegative⟩
  have hchainId : DocumentLeaks (.object [("dev", .object (bareMembers longNegative))]) .longNumber :=
    ⟨[], "dev", _, [], rfl, List.forall_mem_nil _,
      .chainId longNegative hasBadChainId_longNegative not_isShowable_longNegative⟩
  refine ⟨⟨hscheme, ?_⟩, ?_, ?_, ?_⟩
  · rcases (fault_of_ofDocument _ none).1 _ hscheme with hreported | hleaks
    · exact hreported.2
    · cases hleaks.isPlain
  · exact ((fault_of_ofDocument _ none).2 _ hurl).1
  · exact ((fault_of_ofDocument _ none).2 _ htag).1
  · exact ((fault_of_ofDocument _ none).2 _ hchainId).1

/-- The fault of a URL is not about the configuration, so not every fault of a document is. -/
theorem ofDocument_leaks :
    ¬ ∀ (document : Json) (environment : Option String) (fault : Fault),
      Registry.ofDocument document environment = .error fault → fault.isConfiguration = true := by
  intro h
  have hfault := h (withEndpoints [untagged "http://["]) none (.badUrl .strayBracket) rfl
  cases hfault

end Document
end ChainAtlas
