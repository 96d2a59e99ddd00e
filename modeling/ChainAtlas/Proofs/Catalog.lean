import ChainAtlas.Proofs.Document.Refusal
import ChainAtlas.Proofs.Registry.EntryByEntry

/-!
# The documents that ship

The shipped documents do not change, so what is asked of them is found by looking at their entries.
Two things matter to whoever works with nothing but shipped networks.  Every endpoint has a tag that
can be shown or a URL that can be read, and every chain ID is positive, so a document is refused with
a fault of the configuration if at all (`load_faultsIn`).  And every chain ID is short, so that there
is no question whether it can be shown (`chainId_lt_of_ofDocument`).
-/

namespace ChainAtlas
namespace Catalog

open Document Outcome Registry

/-- Whether a document is one of those that ship. -/
def IsShipped (document : Json) : Prop := document ∈ documents.map Prod.snd

/-- The entries of all shipped documents. -/
def entries : Members := documents.flatMap fun document => document.2.object?.getD []

/-! ## Looking at the entries -/

/-- The members of an entry. -/
def membersOf (entry : Json) : Members := entry.object?.getD []

/-- The endpoints in the entry of a network. -/
def endpointItems (entry : Json) : List Json :=
  ((resolve (membersOf entry) "rpcEndpoints").bind Json.list?).getD []

/-- Whether an endpoint has a tag that can be shown, or else a URL that is not refused. -/
def isReadable (item : Json) : Bool :=
  match present? (membersOf item) "protocol" with
  | some tag => tag.isShowable
  | none =>
    match Entries.get? (membersOf item) "url" with
    | some (.text url) => (Url.scheme url).isOk
    | _ => true

/-- Whether the chain ID in an entry is positive and has at most six digits. -/
def isShort (entry : Json) : Bool :=
  match resolve (membersOf entry) "chainId" with
  | some (.int n) => 0 < n && n < 1000000
  | _ => false

theorem isReadable_of_mem_entries {entry : String × Json} (hentry : entry ∈ entries) {item : Json}
    (hitem : item ∈ endpointItems entry.2) : isReadable item = true := by
  have hall : entries.all (fun entry => (endpointItems entry.2).all isReadable) = true := by
    decide +kernel
  exact List.all_eq_true.1 (List.all_eq_true.1 hall entry hentry) item hitem

theorem isShort_of_mem_entries {entry : String × Json} (hentry : entry ∈ entries) :
    isShort entry.2 = true := by
  have hall : entries.all (fun entry => isShort entry.2) = true := by decide +kernel
  exact List.all_eq_true.1 hall entry hentry

variable {document : Json} {environment : Option String} {r : Registry} {fault : Fault}

theorem mem_entries_of_isShipped {members : Members} (h : IsShipped (.object members))
    {entry : String × Json} (hentry : entry ∈ members) : entry ∈ entries := by
  obtain ⟨⟨name, document⟩, hmem, hdocument⟩ := List.mem_map.1 h
  refine List.mem_flatMap.2 ⟨(name, document), hmem, ?_⟩
  show entry ∈ document.object?.getD []
  rw [show document = .object members from hdocument]
  exact hentry

/-- An endpoint that has a tag with a number too long to be shown is none that can be read. -/
theorem isReadable_of_hasLongTag {item : Json} (h : HasLongTag item) : isReadable item = false := by
  obtain ⟨members, rfl, _, -, tag, htag, hlong⟩ := h
  have hpresent : present? members "protocol" = some tag := by
    refine present?_eq_some_iff.2 ⟨htag, ?_⟩
    rintro rfl
    rw [Json.isShowable] at hlong
    cases hlong
  rw [isReadable, membersOf, Json.object?, Option.getD_some, hpresent]
  exact hlong

/-- Neither is one without a tag whose URL is refused. -/
theorem isReadable_of_hasRefusedUrl {item : Json} {u : Url.Fault} (h : HasRefusedUrl item u) :
    isReadable item = false := by
  obtain ⟨members, rfl, url, hurl, hout, hscheme⟩ := h
  rw [isReadable, membersOf, Json.object?, Option.getD_some, present?_eq_none_iff.2 hout, hurl]
  show (Url.scheme url).isOk = false
  rw [hscheme]
  rfl

/-- Reading a shipped entry comes to no endpoint that cannot be read. -/
theorem not_stopsAtEndpoint {name : String} {members : Members}
    (hentry : (name, .object members) ∈ entries) {isSort : Json → Prop}
    (hsort : ∀ item, isSort item → isReadable item = false) :
    ¬ StopsAtEndpoint members isSort := by
  intro hstop
  obtain ⟨first, item, last, hitems, -, hitem⟩ := hstop.endpoints
  have hmem : item ∈ endpointItems (.object members) := by
    have hlist : endpointItems (.object members) = first ++ item :: last := by
      rw [endpointItems, membersOf, Json.object?, Option.getD_some, hitems]
      rfl
    rw [hlist]
    exact List.mem_append_right _ List.mem_cons_self
  have hreadable := isReadable_of_mem_entries hentry hmem
  rw [hsort item hitem] at hreadable
  cases hreadable

/-- Reading a shipped document comes to no place where a plain fault is passed on. -/
theorem not_documentLeaks (h : IsShipped document) : ¬ DocumentLeaks document fault := by
  rintro ⟨before, name, members, after, rfl, -, hleaks⟩
  have hentry : (name, .object members) ∈ entries :=
    mem_entries_of_isShipped h (List.mem_append_right _ List.mem_cons_self)
  cases hleaks with
  | url u hstop => exact not_stopsAtEndpoint hentry (fun _ => isReadable_of_hasRefusedUrl) hstop
  | tag hstop => exact not_stopsAtEndpoint hentry (fun _ => isReadable_of_hasLongTag) hstop
  | chainId n hbad hlong =>
    have hshort := isShort_of_mem_entries hentry
    rw [isShort, membersOf, Json.object?, Option.getD_some, hbad.resolve_eq, Bool.and_eq_true,
      decide_eq_true_eq] at hshort
    exact absurd hshort.1 (not_lt.2 hbad.nonpos)

/-! ## Registries of shipped documents -/

/-- A shipped document is refused with a fault of the configuration if at all. -/
theorem ofDocument_faultsIn (h : IsShipped document) :
    FaultsIn (fun fault => fault.isConfiguration = true) (ofDocument document environment) := by
  intro fault hfault
  rcases Document.ofDocument_faultsIn document environment fault hfault with hreported | hplain
  · exact hreported.isConfiguration
  · exact absurd ((ofDocument_eq_plain_iff hplain document environment).1 hfault)
      (not_documentLeaks h)

/-- **The chain IDs of shipped networks are short.** -/
theorem chainId_lt_of_ofDocument (h : IsShipped document)
    (hr : ofDocument document environment = .ok r) {n : Network} (hn : n ∈ r.values) :
    n.chainId < 1000000 := by
  obtain ⟨key, hget⟩ := mem_values_iff.1 hn
  obtain ⟨members, value, rfl, hmem, hread⟩ := exists_network_of_get hr hget
  have hshort := isShort_of_mem_entries (mem_entries_of_isShipped h hmem)
  obtain ⟨-, inner, rfl, hchainId⟩ := name_and_chainId_of_network hread
  rw [isShort, membersOf, Json.object?, Option.getD_some, hchainId, Bool.and_eq_true,
    decide_eq_true_eq, decide_eq_true_eq] at hshort
  omega

/-- Every environment that can be named has a shipped document. -/
theorem isShipped_of_get? {name : String} (h : byEnvironment.get? name = some document) :
    IsShipped document := by
  have hnames : byEnvironment.names.Nodup := by decide
  have hmem := (Entries.get?_eq_some_iff hnames).1 h
  exact List.mem_map_of_mem (List.mem_cons_of_mem _ hmem)

/-- What is loaded by the name of an environment is the registry of a shipped document. -/
theorem exists_isShipped_of_load (hr : load environment = .ok r) :
    ∃ document, IsShipped document ∧ ofDocument document environment = .ok r := by
  cases environment with
  | none => exact ⟨full, List.mem_cons_self, hr⟩
  | some environment =>
    rw [load] at hr
    split at hr
    · cases hr
    · next document hdocument => exact ⟨document, isShipped_of_get? hdocument, hr⟩

/-- **Loading by name fails with a fault of the configuration if at all.** -/
theorem load_faultsIn (environment : Option String) :
    FaultsIn (fun fault => fault.isConfiguration = true) (load environment) := by
  cases environment with
  | none => exact ofDocument_faultsIn List.mem_cons_self
  | some environment =>
    rw [load]
    split
    · exact .error rfl
    · next document hdocument => exact ofDocument_faultsIn (isShipped_of_get? hdocument)

/-- What the variables select is the registry of a shipped document, for the environment that they
name. -/
theorem exists_isShipped_of_loadSelected {env : Variables} (hr : loadSelected env = .ok r) :
    ∃ document, IsShipped document ∧ ofDocument document (env.value? selector) = .ok r := by
  rw [loadSelected] at hr
  split at hr
  · cases hr
  · next value hvalue =>
    split at hr
    · rw [hvalue]
      exact exists_isShipped_of_load hr
    · cases hr

/-- **Loading what the variables select fails with a fault of the configuration if at all.** -/
theorem loadSelected_faultsIn (env : Variables) :
    FaultsIn (fun fault => fault.isConfiguration = true) (loadSelected env) := by
  rw [loadSelected]
  split
  · exact .error rfl
  · split
    · exact load_faultsIn _
    · exact .error rfl

end Catalog
end ChainAtlas
