import ChainAtlas.Proofs.Document.Schema
import ChainAtlas.Proofs.Json.ReadValues

/-!
# A network entry is accepted exactly when it has the right shape

`draft_eq_ok_iff` says what reading an entry does: it succeeds with a draft exactly when the entry
describes that draft.  A network is a draft with a name and a positive chain ID, and the draft can
be had back from it (`Network.draft`), so nothing of what was read is lost on the way.

`network_eq_ok_iff_describes` puts both together, for the shape of the entries that are accepted and
for what the network keeps of them.  The second part is about entries whose contracts stand under
different names.  Every entry that a text spells is one of them
(`hasDistinctContracts_of_hasDistinctNames`, `Json.hasDistinctNames_of_read`).
-/

namespace ChainAtlas
namespace Network

/-! ## Networks and their drafts -/

/-- The draft that a network is made of. -/
def draft (n : Network) : Draft where
  name := n.name
  chainId := .int n.chainId
  environment := n.environment
  contracts := n.contracts.entries
  endpoints := n.endpoints
  displayName := n.displayName
  currency := n.currency
  explorerUrl := n.explorerUrl
  graphUrl := n.graphUrl
  entryPoints := n.entryPoints

theorem chainIdOf?_eq_some_iff {value : Json} {chainId : { n : Nat // 0 < n }} :
    chainIdOf? value = some chainId ↔ value = .int chainId.1 := by
  cases value with
  | int n => rw [chainIdOf?_int, Json.int.injEq]
  | _ => simp [chainIdOf?]

/-- A network keeps all of its draft; only its contracts are put into a directory. -/
theorem draft_of_ofDraft {d : Draft} {n : Network} (h : ofDraft d = .ok n) :
    n.draft = { d with contracts := (Directory.ofList d.contracts).entries } := by
  rw [ofDraft] at h
  split at h
  · cases h
  · split at h
    · cases h
    · next chainId hid =>
      cases h
      simp only [draft, ← chainIdOf?_eq_some_iff.1 hid]

/-- A network has the name and the chain ID of its draft. -/
theorem name_and_chainId_of_ofDraft {d : Draft} {n : Network} (h : ofDraft d = .ok n) :
    n.name = d.name ∧ d.chainId = .int n.chainId :=
  have hdraft := draft_of_ofDraft h
  ⟨congrArg Draft.name hdraft, (congrArg Draft.chainId hdraft).symm⟩

/-- What a draft has to have for a network to be made of it. -/
theorem exists_ofDraft_eq_ok_iff {d : Draft} :
    (∃ n, ofDraft d = .ok n) ↔ d.name ≠ "" ∧ ∃ n : Int, d.chainId = .int n ∧ 0 < n := by
  rw [ofDraft]
  by_cases hname : d.name = ""
  · simp [hname]
  · cases hid : chainIdOf? d.chainId with
    | some chainId =>
      have hvalue := chainIdOf?_eq_some_iff.1 hid
      have hpos := chainId.2
      simp [hname, hvalue, hpos]
    | none =>
      have hno : ¬ ∃ n : Int, d.chainId = .int n ∧ 0 < n := by
        rintro ⟨n, hvalue, hpos⟩
        have hnat : n = ((n.toNat : Nat) : Int) := by omega
        have hsome := chainIdOf?_eq_some_iff.2
          (show d.chainId = .int ((⟨n.toNat, by omega⟩ : { n : Nat // 0 < n }).1 : Nat) by
            rw [hvalue, ← hnat])
        rw [hid] at hsome
        cases hsome
      simp [hname, hno]

/-- **Nothing is lost between a draft and the network that is made of it**, provided that the names
of its contracts are different. -/
theorem ofDraft_eq_ok_iff {d : Draft} {n : Network} (hnames : d.contracts.names.Nodup) :
    ofDraft d = .ok n ↔ n.draft = d := by
  constructor
  · intro h
    rw [draft_of_ofDraft h, Directory.entries_ofList hnames]
  · rintro rfl
    have hid : chainIdOf? n.draft.chainId = some ⟨n.chainId, n.chainId_pos⟩ :=
      chainIdOf?_eq_some_iff.2 rfl
    have hcontracts : Directory.ofList n.draft.contracts = n.contracts := by
      have hentries := Directory.entries_ofList hnames
      cases hlist : Directory.ofList n.draft.contracts
      cases hdir : n.contracts
      simp_all [draft]
    have hname : n.draft.name ≠ "" := n.name_ne_empty
    rw [ofDraft, dif_neg hname, hid]
    simp only [hcontracts]
    rfl

end Network

namespace Document

open Outcome

variable {name : String} {members : Members}

/-! ## Drafts -/

theorem orNull_text_eq_ok_iff {field : String} {text : Option String} :
    orNull .text name members field = .ok text ↔
      DescribesText (Entries.get? members field) text := by
  rw [orNull_eq_ok_iff rfl, DescribesText]
  simp [pick_text_iff]

theorem orNull_list_eq_ok_iff {field : String} {list : Option (List Json)} :
    orNull .list name members field = .ok list ↔
      IsLeftOut (Entries.get? members field) ∧ list = none ∨
        ∃ items, Entries.get? members field = some (.list items) ∧ list = some items := by
  rw [orNull_eq_ok_iff rfl]
  simp [pick_list_iff]

theorem draftContracts_eq_ok_iff {field : Option Json} {entries : Entries Address} :
    contracts name (field.getD (.object [])) = .ok entries ↔
      field = none ∧ entries = [] ∨
        ∃ members, field = some (.object members) ∧
          List.Forall₂ DescribesContract members entries := by
  rw [contracts_eq_ok_iff]
  cases field with
  | none => simp
  | some value => simp

/-- Items are read from a list that may be absent, in which case there are none. -/
theorem exists_items_iff {α : Type} {R : Json → α → Prop} {field : Option Json} {ys : List α} :
    (∃ items, (field = none ∧ items = [] ∨ field = some (.list items)) ∧
        List.Forall₂ R items ys) ↔
      field = none ∧ ys = [] ∨ ∃ items, field = some (.list items) ∧ List.Forall₂ R items ys := by
  constructor
  · rintro ⟨items, ⟨hnone, rfl⟩ | hlist, hitems⟩
    · exact Or.inl ⟨hnone, List.forall₂_nil_left_iff.1 hitems⟩
    · exact Or.inr ⟨items, hlist, hitems⟩
  · rintro (⟨hnone, rfl⟩ | ⟨items, hlist, hitems⟩)
    · exact ⟨[], Or.inl ⟨hnone, rfl⟩, .nil⟩
    · exact ⟨items, Or.inr hlist, hitems⟩

/-- Items are read from a list that may be absent or null, in which case there are none. -/
theorem exists_nullableItems_iff {α : Type} {R : Json → α → Prop} {field : Option Json}
    {ys : List α} :
    (∃ list : Option (List Json),
        (IsLeftOut field ∧ list = none ∨ ∃ items, field = some (.list items) ∧ list = some items) ∧
          List.Forall₂ R (list.getD []) ys) ↔
      IsLeftOut field ∧ ys = [] ∨
        ∃ items, field = some (.list items) ∧ List.Forall₂ R items ys := by
  constructor
  · rintro ⟨list, ⟨hout, rfl⟩ | ⟨items, hlist, rfl⟩, hitems⟩
    · exact Or.inl ⟨hout, List.forall₂_nil_left_iff.1 hitems⟩
    · exact Or.inr ⟨items, hlist, hitems⟩
  · rintro (⟨hout, rfl⟩ | ⟨items, hlist, hitems⟩)
    · exact ⟨none, Or.inl ⟨hout, rfl⟩, .nil⟩
    · exact ⟨some items, Or.inr ⟨items, hlist, rfl⟩, hitems⟩

/-- A value that is not null is what a currency is read from. -/
theorem nullableCurrency_iff {field : Option Json} {currency : Option Currency} :
    (IsLeftOut field ∧ currency = none ∨ ∃ value c, (field = some value ∧ value ≠ .null) ∧
        DescribesCurrency value c ∧ currency = some c) ↔
      IsLeftOut field ∧ currency = none ∨ ∃ value c, field = some value ∧
        DescribesCurrency value c ∧ currency = some c := by
  refine or_congr_right (exists_congr fun value => exists_congr fun c => ?_)
  constructor
  · rintro ⟨⟨hget, -⟩, hc⟩
    exact ⟨hget, hc⟩
  · rintro ⟨hget, hc, hcurrency⟩
    have hne : value ≠ .null := by
      rintro rfl
      obtain ⟨members, hobject, -⟩ := hc
      cases hobject
    exact ⟨⟨hget, hne⟩, hc, hcurrency⟩

/-- **A draft is read exactly from the entries that describe it.** -/
theorem draft_eq_ok_iff {d : Network.Draft} :
    draft name (normalize members) = .ok d ↔ d.name = name ∧ Describes members d := by
  have hchainId := get?_normalize members "chainId" (by decide)
  have henvironment := get?_normalize members "environment" (by decide)
  have hcontracts := get?_normalize members "contracts" (by decide)
  have hendpoints := get?_normalize members "rpcEndpoints" (by decide)
  have hcurrency := get?_normalize members "nativeCurrency" (by decide)
  have hpoints := get?_normalize members "entryPoints" (by decide)
  have hname := get?_normalize members "name" (by decide)
  have hexplorer := get?_normalize members "blockExplorerUrl" (by decide)
  have hgraph := get?_normalize members "theGraphUrl" (by decide)
  simp only [draft, bind_eq_ok_iff, required_eq_ok_iff, orAbsent_eq_ok_iff, optionMapM_eq_ok_iff,
    orNull_list_eq_ok_iff, orNull_text_eq_ok_iff, draftContracts_eq_ok_iff, mapM_eq_ok_iff,
    endpoint_eq_ok_iff, currency_eq_ok_iff, entryPoint_eq_ok_iff, present?_eq_none_iff,
    present?_eq_some_iff, pick_int_iff, pick_text_iff, pick_list_iff, exists_eq_right, hchainId,
    henvironment, hcontracts, hendpoints, hcurrency, hpoints, hname, hexplorer, hgraph]
  constructor
  · rintro ⟨chainId, hchainId, environment, henvironment, contracts, hcontracts, items, hitems,
      endpoints, hendpoints, currency, hcurrency, points, hpoints, entryPoints, hentryPoints,
      displayName, hdisplayName, explorerUrl, hexplorerUrl, graphUrl, hgraphUrl, hd⟩
    cases hd
    exact ⟨rfl, ⟨chainId, hchainId, rfl⟩, henvironment, hcontracts,
      exists_items_iff.1 ⟨items, hitems, hendpoints⟩, nullableCurrency_iff.1 hcurrency,
      exists_nullableItems_iff.1 ⟨points, hpoints, hentryPoints⟩, hdisplayName, hexplorerUrl,
      hgraphUrl⟩
  · rintro ⟨rfl, hd⟩
    obtain ⟨chainId, hchainId, hdraft⟩ := hd.chainId
    obtain ⟨items, hitems, hendpoints⟩ := exists_items_iff.2 hd.endpoints
    obtain ⟨points, hpoints, hentryPoints⟩ := exists_nullableItems_iff.2 hd.entryPoints
    refine ⟨chainId, hchainId, d.environment, hd.environment, d.contracts, hd.contracts, items,
      hitems, d.endpoints, hendpoints, d.currency, nullableCurrency_iff.2 hd.currency, points,
      hpoints, d.entryPoints, hentryPoints, d.displayName, hd.displayName, d.explorerUrl,
      hd.explorerUrl, d.graphUrl, hd.graphUrl, ?_⟩
    rw [← hdraft]
    rfl

/-! ## Shapes -/

variable {α β : Type} {field : Option Json} {P : Prop}

/-- Items can be described when each of them can be. -/
theorem exists_described_items_iff {R : α → β → Prop} (wrap : List α → Json) :
    (∃ ys, P ∧ ys = [] ∨ ∃ xs, field = some (wrap xs) ∧ List.Forall₂ R xs ys) ↔
      P ∨ ∃ xs, field = some (wrap xs) ∧ ∀ x ∈ xs, ∃ y, R x y := by
  constructor
  · rintro ⟨ys, ⟨hp, -⟩ | ⟨xs, hget, hall⟩⟩
    · exact Or.inl hp
    · exact Or.inr ⟨xs, hget, exists_forall₂_iff.1 ⟨ys, hall⟩⟩
  · rintro (hp | ⟨xs, hget, hall⟩)
    · exact ⟨[], Or.inl ⟨hp, rfl⟩⟩
    · obtain ⟨ys, hys⟩ := exists_forall₂_iff.2 hall
      exact ⟨ys, Or.inr ⟨xs, hget, hys⟩⟩

/-- An optional value can be described when it is left out or can be. -/
theorem exists_described_option_iff {R : Json → β → Prop} :
    (∃ o, P ∧ o = none ∨ ∃ x y, field = some x ∧ R x y ∧ o = some y) ↔
      P ∨ ∃ x y, field = some x ∧ R x y := by
  constructor
  · rintro ⟨o, ⟨hp, -⟩ | ⟨x, y, hget, hxy, -⟩⟩
    · exact Or.inl hp
    · exact Or.inr ⟨x, y, hget, hxy⟩
  · rintro (hp | ⟨x, y, hget, hxy⟩)
    · exact ⟨none, Or.inl ⟨hp, rfl⟩⟩
    · exact ⟨some y, Or.inr ⟨x, y, hget, hxy, rfl⟩⟩

theorem exists_describesText_iff :
    (∃ text, DescribesText field text) ↔ IsLeftOut field ∨ ∃ s, field = some (.text s) := by
  constructor
  · rintro ⟨text, ⟨hout, -⟩ | ⟨s, hget, -⟩⟩
    · exact Or.inl hout
    · exact Or.inr ⟨s, hget⟩
  · rintro (hout | ⟨s, hget⟩)
    · exact ⟨none, Or.inl ⟨hout, rfl⟩⟩
    · exact ⟨some s, Or.inr ⟨s, hget, rfl⟩⟩

theorem exists_describesContract_iff {member : String × Json} :
    (∃ entry, DescribesContract member entry) ↔ ∃ a : Address, member.2 = .text a.text := by
  constructor
  · rintro ⟨entry, -, hvalue⟩
    exact ⟨entry.2, hvalue⟩
  · rintro ⟨a, hvalue⟩
    exact ⟨(member.1, a), rfl, hvalue⟩

/-- **An entry has the right shape exactly when it describes a draft.** -/
theorem exists_describes_iff (name : String) :
    (∃ d : Network.Draft, d.name = name ∧ Describes members d) ↔ IsWellShaped members := by
  constructor
  · rintro ⟨d, -, hd⟩
    have hcontracts := (exists_described_items_iff Json.object).1 ⟨_, hd.contracts⟩
    simp only [exists_describesContract_iff] at hcontracts
    exact ⟨hd.chainId.imp fun n hn => hn.1, ⟨_, hd.environment⟩, hcontracts,
      (exists_described_items_iff Json.list).1 ⟨_, hd.endpoints⟩,
      exists_described_option_iff.1 ⟨_, hd.currency⟩,
      (exists_described_items_iff Json.list).1 ⟨_, hd.entryPoints⟩,
      exists_describesText_iff.1 ⟨_, hd.displayName⟩,
      exists_describesText_iff.1 ⟨_, hd.explorerUrl⟩, exists_describesText_iff.1 ⟨_, hd.graphUrl⟩⟩
  · intro h
    have hshape := h.contracts
    simp only [← exists_describesContract_iff] at hshape
    obtain ⟨n, hchainId⟩ := h.chainId
    obtain ⟨environment, henvironment⟩ := h.environment
    obtain ⟨contracts, hcontracts⟩ := (exists_described_items_iff Json.object).2 hshape
    obtain ⟨endpoints, hendpoints⟩ := (exists_described_items_iff Json.list).2 h.endpoints
    obtain ⟨currency, hcurrency⟩ := exists_described_option_iff.2 h.currency
    obtain ⟨entryPoints, hentryPoints⟩ := (exists_described_items_iff Json.list).2 h.entryPoints
    obtain ⟨displayName, hdisplayName⟩ := exists_describesText_iff.2 h.displayName
    obtain ⟨explorerUrl, hexplorerUrl⟩ := exists_describesText_iff.2 h.explorerUrl
    obtain ⟨graphUrl, hgraphUrl⟩ := exists_describesText_iff.2 h.graphUrl
    exact ⟨{ name, chainId := .int n, environment, contracts, endpoints, displayName, currency,
             explorerUrl, graphUrl, entryPoints },
      rfl, ⟨n, hchainId, rfl⟩, henvironment, hcontracts, hendpoints, hcurrency, hentryPoints,
      hdisplayName, hexplorerUrl, hgraphUrl⟩

/-! ## Networks -/

theorem network_object_eq_ok_iff {n : Network} :
    network name (.object members) = .ok n ↔
      ∃ d : Network.Draft, d.name = name ∧ Describes members d ∧ Network.ofDraft d = .ok n := by
  rw [network, bind_eq_ok_iff]
  simp only [draft_eq_ok_iff, and_assoc]

/-- **A network has the name that it is read under, and the chain ID of its entry.** -/
theorem name_and_chainId_of_network {value : Json} {n : Network} (h : network name value = .ok n) :
    n.name = name ∧
      ∃ members, value = .object members ∧ resolve members "chainId" = some (.int n.chainId) := by
  cases value with
  | object members =>
    obtain ⟨d, hname, hd, hn⟩ := network_object_eq_ok_iff.1 h
    obtain ⟨hsame, hdraft⟩ := Network.name_and_chainId_of_ofDraft hn
    obtain ⟨chainId, hresolve, hchainId⟩ := hd.chainId
    rw [hchainId] at hdraft
    exact ⟨hsame.trans hname, members, rfl, hdraft ▸ hresolve⟩
  | _ => cases h

/-- The names of the contracts are those of the document. -/
theorem names_eq_of_describesContract {contracts : Members} {entries : Entries Address}
    (h : List.Forall₂ DescribesContract contracts entries) :
    entries.names = Entries.names contracts :=
  Entries.Parallel.names_eq (R := fun _ (value : Json) (a : Address) => value = .text a.text) h

/-- A network is read exactly from the acceptable entries under a name that is not empty. -/
theorem exists_network_eq_ok_iff (name : String) (value : Json) :
    (∃ n, network name value = .ok n) ↔ name ≠ "" ∧ IsAcceptable value := by
  cases value with
  | object members =>
    simp only [network_object_eq_ok_iff, IsAcceptable, Json.object.injEq, exists_eq_left']
    constructor
    · rintro ⟨n, d, hdname, hd, hn⟩
      obtain ⟨hname, chainId, hchainId, hpos⟩ := Network.exists_ofDraft_eq_ok_iff.1 ⟨n, hn⟩
      obtain ⟨chainId', hresolve, hchainId'⟩ := hd.chainId
      rw [hchainId, Json.int.injEq] at hchainId'
      subst hchainId'
      exact ⟨hdname ▸ hname, (exists_describes_iff name).1 ⟨d, hdname, hd⟩, chainId, hresolve, hpos⟩
    · rintro ⟨hname, hshape, chainId, hresolve, hpos⟩
      obtain ⟨d, hdname, hd⟩ := (exists_describes_iff name).2 hshape
      obtain ⟨chainId', hresolve', hchainId⟩ := hd.chainId
      rw [hresolve, Option.some_inj, Json.int.injEq] at hresolve'
      subst hresolve'
      obtain ⟨n, hn⟩ := Network.exists_ofDraft_eq_ok_iff.2 ⟨hdname ▸ hname, chainId, hchainId, hpos⟩
      exact ⟨n, d, hdname, hd, hn⟩
  | _ => simp [network, IsAcceptable]

/-- Whether the contracts of an entry, if it has any, stand under different names, as the members of
every object of a document do. -/
def HasDistinctContracts (members : Members) : Prop :=
  ∀ contracts, resolve members "contracts" = some (.object contracts) →
    (Entries.names contracts).Nodup

/-- **What a text spells has its contracts under different names.** -/
theorem hasDistinctContracts_of_hasDistinctNames (h : (Json.object members).HasDistinctNames) :
    HasDistinctContracts members := by
  intro contracts hresolve
  have hget : Entries.get? members "contracts" = some (.object contracts) := by
    simpa [resolve, olderName?] using hresolve
  cases h with
  | object hnames hmembers =>
    have hcontracts := hmembers _ ((Entries.get?_eq_some_iff hnames).1 hget)
    cases hcontracts with
    | object hdistinct _ => exact hdistinct

/-- Contracts under different names are drafted under different names. -/
theorem HasDistinctContracts.nodup_names {d : Network.Draft} (h : HasDistinctContracts members)
    (hd : Describes members d) : d.contracts.names.Nodup := by
  rcases hd.contracts with ⟨-, hempty⟩ | ⟨contracts, hget, hall⟩
  · rw [hempty]
    exact List.nodup_nil
  · rw [names_eq_of_describesContract hall]
    exact h contracts hget

/-- A network is read from an entry exactly when the entry describes it. -/
theorem network_eq_ok_iff (hcontracts : HasDistinctContracts members) {n : Network} :
    network name (.object members) = .ok n ↔ n.name = name ∧ Describes members n.draft := by
  rw [network_object_eq_ok_iff]
  constructor
  · rintro ⟨d, rfl, hd, hn⟩
    rw [Network.ofDraft_eq_ok_iff (hcontracts.nodup_names hd)] at hn
    subst hn
    exact ⟨rfl, hd⟩
  · rintro ⟨rfl, hd⟩
    exact ⟨n.draft, rfl, hd, (Network.ofDraft_eq_ok_iff (hcontracts.nodup_names hd)).2 rfl⟩

/-- **Networks are read exactly from the entries of the right shape**, and a network keeps
everything that its entry says of it. -/
theorem network_eq_ok_iff_describes (name : String) (value : Json) :
    ((∃ n, network name value = .ok n) ↔ name ≠ "" ∧ IsAcceptable value) ∧
    ∀ members, value = .object members → HasDistinctContracts members →
      ∀ n, network name value = .ok n ↔ n.name = name ∧ Describes members n.draft := by
  refine ⟨exists_network_eq_ok_iff name value, ?_⟩
  rintro members rfl hcontracts n
  exact network_eq_ok_iff hcontracts

/-- An entry whose chain ID stands under both of its names, with an endpoint that has no tag. -/
theorem network_of_shadowed_entry :
    ∃ members n, resolve members "chainId" = some (.int 100) ∧
      Entries.get? members "id" = some (.text "none") ∧ HasDistinctContracts members ∧
      network "gnosis" (.object members) = .ok n ∧ n.name = "gnosis" ∧
        Describes members n.draft := by
  let members : Members :=
    [("id", .text "none"), ("chainId", .int 100), ("environment", .text "production"),
     ("contracts", .object [("DATA", .text "0x256eb8a51f382650B2A1e946b8811953640ee47D")]),
     ("rpcEndpoints", .list [.object [("url", .text "WSS://rpc.gnosis/wss"), ("protocol", .null)]]),
     ("entryPoints", .null)]
  have hcontracts : HasDistinctContracts members := by
    rintro contracts hget
    cases hget
    decide
  obtain ⟨n, hn⟩ : ∃ n, network "gnosis" (.object members) = .ok n := ⟨_, rfl⟩
  exact ⟨members, n, rfl, rfl, hcontracts, hn,
    ((network_eq_ok_iff_describes "gnosis" (.object members)).2 members rfl hcontracts n).1 hn⟩

end Document
end ChainAtlas
