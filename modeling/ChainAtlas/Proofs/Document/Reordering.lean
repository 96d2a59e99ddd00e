import ChainAtlas.Proofs.Document.Acceptance
import ChainAtlas.Proofs.Json.Reordering

/-!
# An entry in another order

What an entry says of a network does not depend on the order of its members, nor on the order within
the objects that it holds.  For all fields but one this is an equality: an endpoint, a currency or
an entry point that is described by a value is described by every reordering of the value
(`describesEndpoint_iff` and its companions).  The contracts of a network are listed in the order of
their object, so they come out in another order; everything else is the same (`Describes.reorder`).

Two networks that differ in no more than this agree, and so an entry is read whenever a reordering
of it is, as a network that agrees with the other one (`network_of_isReordering`).
-/

namespace ChainAtlas

/-! ## Networks that differ in the order of their contracts -/

theorem Network.agrees_of_draft {n n' : Network}
    (hdraft : n'.draft = { n.draft with contracts := n'.contracts.entries })
    (hperm : n.contracts.entries.Perm n'.contracts.entries) : n.agrees n' = true := by
  have hcontracts : n.contracts.agrees (· == ·) n'.contracts = true :=
    Directory.agrees_of_perm (fun _ => beq_self_eq_true _) hperm
  simp only [draft, Draft.mk.injEq, Json.int.injEq, Int.natCast_inj, true_and] at hdraft
  obtain ⟨hname, hchainId, henvironment, hendpoints, hdisplayName, hcurrency, hexplorerUrl,
    hgraphUrl, hentryPoints⟩ := hdraft
  rw [agrees, hcontracts, agreesApart]
  simp [hname, hchainId, henvironment, hendpoints, hdisplayName, hcurrency, hexplorerUrl,
    hgraphUrl, hentryPoints]

namespace Document

open Json

variable {name : String} {value value' : Json} {members members' : Members}
  {field field' : Option Json}

/-! ## Values -/

/-- What is said of the members of a value that is an object is said of its reorderings. -/
theorem exists_object_iff (h : IsReordering value value') {P P' : Members → Prop}
    (hP : ∀ members members', IsReordering (.object members) (.object members') →
      (P members ↔ P' members')) :
    (∃ members, value = .object members ∧ P members) ↔
      ∃ members, value' = .object members ∧ P' members := by
  simpa only [Option.some_inj] using rel_exists_object_iff (.some h) hP

theorem isLeftOut_iff (h : Option.Rel IsReordering field field') :
    IsLeftOut field ↔ IsLeftOut field' :=
  or_congr (rel_eq_none_iff h) (rel_eq_some_iff h trivial)

theorem describesText_iff (h : Option.Rel IsReordering field field') (text : Option String) :
    DescribesText field text ↔ DescribesText field' text := by
  have htext : ∀ s, field = some (.text s) ↔ field' = some (.text s) := fun s =>
    rel_eq_some_iff h trivial
  simp only [DescribesText, isLeftOut_iff h, htext]

theorem describesEndpoint_iff (h : IsReordering value value') (e : Endpoint) :
    DescribesEndpoint value e ↔ DescribesEndpoint value' e := by
  refine exists_object_iff h fun members members' hmembers => ?_
  have hurl : Entries.get? members "url" = some (.text e.url) ↔ _ :=
    rel_eq_some_iff (hmembers.rel_get? "url") trivial
  have htag : Entries.get? members "protocol" = some (.text e.protocol.tag) ↔ _ :=
    rel_eq_some_iff (hmembers.rel_get? "protocol") trivial
  rw [hurl, htag, isLeftOut_iff (hmembers.rel_get? "protocol")]

theorem describesCurrency_iff (h : IsReordering value value') (c : Currency) :
    DescribesCurrency value c ↔ DescribesCurrency value' c := by
  refine exists_object_iff h fun members members' hmembers => ?_
  have hsymbol : Entries.get? members "symbol" = some (.text c.symbol) ↔ _ :=
    rel_eq_some_iff (hmembers.rel_get? "symbol") trivial
  have hname : Entries.get? members "name" = some (.text c.name) ↔ _ :=
    rel_eq_some_iff (hmembers.rel_get? "name") trivial
  have hdecimals : Entries.get? members "decimals" = some (.int c.decimals) ↔ _ :=
    rel_eq_some_iff (hmembers.rel_get? "decimals") trivial
  rw [hsymbol, hname, hdecimals, rel_eq_none_iff (hmembers.rel_get? "decimals")]

/-- An entry point holds an object within an object, and both may be reordered. -/
theorem describesEntryPoint_iff (h : IsReordering value value') (p : EntryPoint) :
    DescribesEntryPoint value p ↔ DescribesEntryPoint value' p := by
  have hnested : ∀ value, DescribesEntryPoint value p ↔ ∃ members, value = .object members ∧
      Entries.get? members "nodeId" = some (.text p.nodeId) ∧
      ∃ socket, Entries.get? members "websocket" = some (.object socket) ∧
        Entries.get? socket "host" = some (.text p.host) ∧
        Entries.get? socket "port" = some (.int p.port) ∧
          (Entries.get? socket "tls" = none ∧ p.tls = true ∨
            Entries.get? socket "tls" = some (.bool p.tls)) := by
    intro value
    constructor
    · rintro ⟨members, socket, hvalue, hsocket, hnode, hrest⟩
      exact ⟨members, hvalue, hnode, socket, hsocket, hrest⟩
    · rintro ⟨members, hvalue, hnode, socket, hsocket, hrest⟩
      exact ⟨members, socket, hvalue, hsocket, hnode, hrest⟩
  rw [hnested, hnested]
  refine exists_object_iff h fun members members' hmembers => ?_
  refine and_congr (rel_eq_some_iff (hmembers.rel_get? "nodeId") trivial) ?_
  refine rel_exists_object_iff (hmembers.rel_get? "websocket") fun socket socket' hsocket => ?_
  have hhost : Entries.get? socket "host" = some (.text p.host) ↔ _ :=
    rel_eq_some_iff (hsocket.rel_get? "host") trivial
  have hport : Entries.get? socket "port" = some (.int p.port) ↔ _ :=
    rel_eq_some_iff (hsocket.rel_get? "port") trivial
  have htls : Entries.get? socket "tls" = some (.bool p.tls) ↔ _ :=
    rel_eq_some_iff (hsocket.rel_get? "tls") trivial
  rw [hhost, hport, htls, rel_eq_none_iff (hsocket.rel_get? "tls")]

/-! ## Entries -/

/-- A field that stands under either of its names. -/
theorem rel_resolve (h : IsReordering (.object members) (.object members')) (field : String) :
    Option.Rel IsReordering (resolve members field) (resolve members' field) := by
  have hcurrent := h.rel_get? field
  rw [resolve, resolve]
  generalize Entries.get? members field = found at hcurrent ⊢
  generalize Entries.get? members' field = found' at hcurrent ⊢
  cases hcurrent with
  | some hvalue => exact .some hvalue
  | none =>
    cases olderName? field with
    | none => exact .none
    | some older => exact h.rel_get? older

/-- The items of a list are described one by one. -/
theorem describesItems_iff {α : Type} {D : Json → α → Prop}
    (hD : ∀ v v', IsReordering v v' → ∀ x, D v x ↔ D v' x)
    (h : Option.Rel IsReordering field field') (xs : List α) :
    (∃ items, field = some (.list items) ∧ List.Forall₂ D items xs) ↔
      ∃ items, field' = some (.list items) ∧ List.Forall₂ D items xs :=
  rel_exists_list_iff h fun _ _ hitems => forall₂_iff_of_forall₂ hitems hD xs

/-- A value is described if there is one. -/
theorem describesOption_iff {α : Type} {D : Json → α → Prop}
    (hD : ∀ v v', IsReordering v v' → ∀ x, D v x ↔ D v' x)
    (h : Option.Rel IsReordering field field') (x : Option α) :
    (∃ value y, field = some value ∧ D value y ∧ x = some y) ↔
      ∃ value y, field' = some value ∧ D value y ∧ x = some y := by
  cases h with
  | none => simp
  | some hvalue => simp only [Option.some_inj, exists_and_left, exists_eq_left', hD _ _ hvalue]

/-- The contracts of a reordered object are the same, in another order. -/
theorem exists_describesContracts {entries : Entries Address}
    (h : Option.Rel IsReordering field field')
    (hfield : field = none ∧ entries = [] ∨ ∃ contracts, field = some (.object contracts) ∧
      List.Forall₂ DescribesContract contracts entries) :
    ∃ entries', entries'.Perm entries ∧
      (field' = none ∧ entries' = [] ∨ ∃ contracts, field' = some (.object contracts) ∧
        List.Forall₂ DescribesContract contracts entries') := by
  rcases hfield with ⟨hnone, rfl⟩ | ⟨contracts, hsome, hentries⟩
  · exact ⟨[], .nil, Or.inl ⟨(rel_eq_none_iff h).1 hnone, rfl⟩⟩
  · subst hsome
    cases h with
    | @some _ value' hvalue =>
      have hreordered := hvalue.2
      cases hreordered with
      | @object _ _ contracts' =>
        have hatom : ∀ (_ : String) (v v' : Json), IsReordering v v' →
            ∀ a : Address, v = .text a.text ↔ v' = .text a.text :=
          fun _ _ _ hv _ => hv.eq_iff trivial
        obtain ⟨entries', hentries', hperm⟩ := hvalue.exists_parallel hatom hentries
        exact ⟨entries', hperm, Or.inr ⟨contracts', rfl, hentries'⟩⟩

/-- **A reordered entry describes the same network**, but for the order of the contracts. -/
theorem Describes.reorder (h : IsReordering (.object members) (.object members'))
    {d : Network.Draft} (hd : Describes members d) :
    ∃ contracts, contracts.Perm d.contracts ∧ Describes members' { d with contracts } := by
  obtain ⟨contracts, hperm, hcontracts⟩ :=
    exists_describesContracts (rel_resolve h "contracts") hd.contracts
  obtain ⟨chainId, hchainId, hdraft⟩ := hd.chainId
  have hnumber : resolve members "chainId" = some (.int chainId) ↔ _ :=
    rel_eq_some_iff (rel_resolve h "chainId") trivial
  have henvironment : resolve members "environment" = some (.text d.environment) ↔ _ :=
    rel_eq_some_iff (rel_resolve h "environment") trivial
  have hendpoints := describesItems_iff (fun _ _ => describesEndpoint_iff)
    (rel_resolve h "rpcEndpoints") d.endpoints
  have hcurrency := describesOption_iff (fun _ _ => describesCurrency_iff)
    (rel_resolve h "nativeCurrency") d.currency
  have hentryPoints := describesItems_iff (fun _ _ => describesEntryPoint_iff)
    (rel_resolve h "entryPoints") d.entryPoints
  exact ⟨contracts, hperm, {
    chainId := ⟨chainId, hnumber.1 hchainId, hdraft⟩
    environment := henvironment.1 hd.environment
    contracts := hcontracts
    endpoints := hd.endpoints.imp
      (And.imp_left (rel_eq_none_iff (rel_resolve h "rpcEndpoints")).1) hendpoints.1
    currency := hd.currency.imp
      (And.imp_left (isLeftOut_iff (rel_resolve h "nativeCurrency")).1) hcurrency.1
    entryPoints := hd.entryPoints.imp
      (And.imp_left (isLeftOut_iff (rel_resolve h "entryPoints")).1) hentryPoints.1
    displayName := (describesText_iff (rel_resolve h "name") _).1 hd.displayName
    explorerUrl := (describesText_iff (rel_resolve h "blockExplorerUrl") _).1 hd.explorerUrl
    graphUrl := (describesText_iff (rel_resolve h "theGraphUrl") _).1 hd.graphUrl }⟩

/-- The contracts of an entry whose names are different stand under different names. -/
theorem hasDistinctContracts_of_isReordering
    (h : IsReordering (.object members) (.object members')) : HasDistinctContracts members :=
  hasDistinctContracts_of_hasDistinctNames h.1

/-- **A reordering of an entry is read as a network that agrees with the one of the entry.** -/
theorem network_of_isReordering (h : IsReordering value value') {n : Network}
    (hn : network name value = .ok n) :
    ∃ n', network name value' = .ok n' ∧ n.agrees n' = true := by
  have hreordered := h.2
  cases hreordered with
  | @object members _ members' =>
    obtain ⟨rfl, hd⟩ := (network_eq_ok_iff (hasDistinctContracts_of_isReordering h)).1 hn
    obtain ⟨contracts, hperm, hd'⟩ := hd.reorder h
    have hnodup := (hasDistinctContracts_of_isReordering h.symm).nodup_names hd'
    obtain ⟨n', hn'⟩ : ∃ n', Network.ofDraft { n.draft with contracts } = .ok n' :=
      Network.exists_ofDraft_eq_ok_iff.2
        ⟨n.name_ne_empty, n.chainId, rfl, Int.natCast_pos.2 n.chainId_pos⟩
    have hdraft := (Network.ofDraft_eq_ok_iff hnodup).1 hn'
    have hcontracts : n'.contracts.entries = contracts := congrArg Network.Draft.contracts hdraft
    refine ⟨n', network_object_eq_ok_iff.2 ⟨_, rfl, hd', hn'⟩, Network.agrees_of_draft ?_ ?_⟩
    · rw [hcontracts]
      exact hdraft
    · rw [hcontracts]
      exact hperm.symm
  | _ => cases hn

end Document
end ChainAtlas
