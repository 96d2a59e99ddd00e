import ChainAtlas.Proofs.Document.Reordering
import ChainAtlas.Proofs.Registry.Agreement

/-!
# The order of a document

A document lists its networks in an order, each network its fields and its contracts, and so on
inwards.  Permute the members of as many of these objects as you like: the document can be loaded as
before, and the registry agrees with the one from before (`exists_ofDocument_of_isReordering`).

What does follow the document is how things are listed: the names of a registry, its networks, and
the contracts of each network (`followsOrder_of_ofDocument`).  Agreement is blind to exactly this.
-/

namespace ChainAtlas
namespace Registry

open Json Document

variable {document document' : Json} {environment : Option String} {r r' : Registry}

/-! ## Order -/

/-- The names of the contracts in an entry, in the order of the entry. -/
def contractNames (entry : Json) : List String :=
  Entries.names
    (((entry.object?.bind fun members => resolve members "contracts").bind Json.object?).getD [])

/-- Whether a registry lists the networks in the order of a document, each under its own name, and
every network its contracts in the order of its entry. -/
def FollowsOrder (document : Json) (r : Registry) : Prop :=
  ∃ members, document = .object members ∧
    Entries.Parallel (fun name entry n => n.name = name ∧ n.contracts.names = contractNames entry)
      members r.networks.entries

/-- A network lists its contracts as its entry does. -/
theorem contractNames_of_network {name : String} {entry : Json} {n : Network}
    (hdistinct : entry.HasDistinctNames) (hn : network name entry = .ok n) :
    n.name = name ∧ n.contracts.names = contractNames entry := by
  cases entry with
  | object members =>
    obtain ⟨hname, hd⟩ :=
      (network_eq_ok_iff (hasDistinctContracts_of_hasDistinctNames hdistinct)).1 hn
    have hnames : contractNames (.object members) =
        Entries.names (((resolve members "contracts").bind Json.object?).getD []) := rfl
    refine ⟨hname, ?_⟩
    show Entries.names n.draft.contracts = contractNames (.object members)
    rcases hd.contracts with ⟨hnone, hempty⟩ | ⟨contracts, hsome, hcontracts⟩
    · rw [hnames, hnone, hempty]
      rfl
    · rw [hnames, hsome, names_eq_of_describesContract hcontracts]
      rfl
  | _ => cases hn

/-- **A registry follows the order of its document.** -/
theorem followsOrder_of_ofDocument (hdistinct : document.HasDistinctNames)
    (hr : ofDocument document environment = .ok r) : r.FollowsOrder document := by
  obtain ⟨hnetworks, -⟩ := ofDocument_eq_ok_iff.1 hr
  cases document with
  | object members =>
    cases hdistinct with
    | object hnames hmembers =>
      have hread := (networks_eq_ok_iff_readsAs hnames).1 hnetworks
      refine ⟨members, rfl, ?_⟩
      exact ((List.forall₂_and_left _ _).2 ⟨hmembers, hread⟩).imp fun _ _ hmember =>
        ⟨hmember.2.1, contractNames_of_network hmember.1 hmember.2.2⟩
  | _ => cases hnetworks

/-! ## Agreement -/

/-- **A reordered document is loaded as a registry that agrees with the one of the document.** -/
theorem exists_ofDocument_of_isReordering (h : IsReordering document document')
    (hr : ofDocument document environment = .ok r) :
    ∃ r', ofDocument document' environment = .ok r' ∧ r.agrees r' = true := by
  obtain ⟨hnetworks, henvironment⟩ := ofDocument_eq_ok_iff.1 hr
  have hreordered := h.2
  cases hreordered with
  | @object members _ members' =>
    have hread := (networks_eq_ok_iff_readsAs h.nodup_names).1 hnetworks
    have hentry : ∀ name value', Entries.get? members' name = some value' →
        ∃ n n', r.networks.get? name = some n ∧ network name value' = .ok n' ∧
          n.agrees n' = true := by
      intro name value' hvalue'
      obtain ⟨value, hvalue, hreordered⟩ := exists_of_rel_of_eq_some (h.rel_get? name) hvalue'
      obtain ⟨n, hget, hn⟩ := exists_eq_some_of_rel (hread.rel_get? name) hvalue
      obtain ⟨n', hn', hagrees⟩ := network_of_isReordering hreordered hn
      exact ⟨n, n', hget, hn', hagrees⟩
    obtain ⟨r', hr'⟩ : ∃ r', ofDocument (.object members') environment = .ok r' := by
      refine (exists_ofDocument_eq_ok_iff h.symm.nodup_names).2 fun name value' hvalue' => ?_
      obtain ⟨_, n', -, hn', -⟩ := hentry name value' hvalue'
      exact ⟨n', hn'⟩
    obtain ⟨hnetworks', henvironment'⟩ := ofDocument_eq_ok_iff.1 hr'
    have hread' := (networks_eq_ok_iff_readsAs h.symm.nodup_names).1 hnetworks'
    refine ⟨r', hr', ?_⟩
    rw [agrees, Bool.and_eq_true, beq_iff_eq, henvironment, henvironment']
    refine ⟨rfl, Directory.agrees_iff.2 ⟨?_, fun name n n' hn hn' => ?_⟩⟩
    · rw [Directory.names, Directory.names, hread.names_eq, hread'.names_eq]
      exact h.names_perm
    · obtain ⟨value', hvalue', hread'⟩ := exists_of_rel_of_eq_some (hread'.rel_get? name) hn'
      obtain ⟨m, m', hm, hm', hagrees⟩ := hentry name value' hvalue'
      rw [hn, Option.some_inj] at hm
      rw [hread', Except.ok.injEq] at hm'
      rwa [hm, hm']
  | _ => cases hnetworks

/-- **The order of members makes no difference up to agreement.**  A document can be loaded exactly
when a reordering of it can, and then the registries agree, and so do the networks under each name,
while each registry lists everything in the order of its own document. -/
theorem ofDocument_of_reordered (document document' : Json) (hdistinct : document.HasDistinctNames)
    (hreordered : document.Reordered document') (environment : Option String) :
    ((∃ r, ofDocument document environment = .ok r) ↔
      ∃ r', ofDocument document' environment = .ok r') ∧
    ∀ r r', ofDocument document environment = .ok r → ofDocument document' environment = .ok r' →
      r.agrees r' = true ∧ r.names.Perm r'.names ∧
        (∀ name n n', r.get name = .ok n → r'.get name = .ok n' → n.agrees n' = true) ∧
        r.FollowsOrder document ∧ r'.FollowsOrder document' := by
  have h : IsReordering document document' := ⟨hdistinct, hreordered⟩
  refine ⟨⟨fun ⟨r, hr⟩ => ?_, fun ⟨r', hr'⟩ => ?_⟩, fun r r' hr hr' => ?_⟩
  · obtain ⟨r', hr', -⟩ := exists_ofDocument_of_isReordering h hr
    exact ⟨r', hr'⟩
  · obtain ⟨r, hr, -⟩ := exists_ofDocument_of_isReordering h.symm hr'
    exact ⟨r, hr⟩
  · obtain ⟨found, hfound, hagrees⟩ := exists_ofDocument_of_isReordering h hr
    rw [hr', Except.ok.injEq] at hfound
    subst hfound
    obtain ⟨-, hnames, hnetworks⟩ := agrees_iff.1 hagrees
    exact ⟨hagrees, hnames, hnetworks, followsOrder_of_ofDocument h.1 hr,
      followsOrder_of_ofDocument h.symm.1 hr'⟩

/-- Two networks in one order and in the other, where one of them has its fields and its contracts
in another order as well. -/
theorem ofDocument_of_two_orders :
    ∃ document document' r r', document.HasDistinctNames ∧ document.Reordered document' ∧
      ofDocument document none = .ok r ∧ ofDocument document' none = .ok r' ∧
      r.names = ["dev", "local"] ∧ r'.names = ["local", "dev"] ∧ r.agrees r' = true := by
  let data : String × Json := ("DATA", .text "0x256eb8a51f382650B2A1e946b8811953640ee47D")
  let link : String × Json := ("LINK", .text "0x514910771AF9Ca656af840dff83E8264EcF986CA")
  let dev : Json := .object [("chainId", .int 1), ("environment", .text "development"),
    ("contracts", .object [data, link])]
  let dev' : Json := .object [("contracts", .object [link, data]),
    ("environment", .text "development"), ("chainId", .int 1)]
  let plain : Json := .object [("id", .int 2), ("environment", .text "development")]
  have hplain : IsReordering plain plain := by
    refine isReordering_object_iff.2 ⟨by decide, _, .cons ⟨rfl, ?_⟩ (.cons ⟨rfl, ?_⟩ .nil), .rfl⟩
    · exact ⟨.int 2, .int 2⟩
    · exact ⟨.text _, .text _⟩
  have hcontracts : IsReordering (.object [data, link]) (.object [link, data]) := by
    refine isReordering_object_iff.2
      ⟨by decide, [data, link], .cons ⟨rfl, ?_⟩ (.cons ⟨rfl, ?_⟩ .nil), .swap _ _ _⟩
    · exact ⟨.text _, .text _⟩
    · exact ⟨.text _, .text _⟩
  have hdev : IsReordering dev dev' := by
    refine isReordering_object_iff.2 ⟨by decide,
      [("chainId", .int 1), ("environment", .text "development"),
        ("contracts", .object [link, data])],
      .cons ⟨rfl, ?_⟩ (.cons ⟨rfl, ?_⟩ (.cons ⟨rfl, hcontracts⟩ .nil)), (List.reverse_perm _).symm⟩
    · exact ⟨.int 1, .int 1⟩
    · exact ⟨.text _, .text _⟩
  have h : IsReordering (.object [("dev", dev), ("local", plain)])
      (.object [("local", plain), ("dev", dev')]) :=
    isReordering_object_iff.2 ⟨by decide, [("dev", dev'), ("local", plain)],
      .cons ⟨rfl, hdev⟩ (.cons ⟨rfl, hplain⟩ .nil), .swap _ _ _⟩
  obtain ⟨r, hr, hnames⟩ : ∃ r, ofDocument (.object [("dev", dev), ("local", plain)]) none = .ok r ∧
      r.names = ["dev", "local"] := ⟨_, rfl, rfl⟩
  obtain ⟨r', hr', hnames'⟩ : ∃ r',
      ofDocument (.object [("local", plain), ("dev", dev')]) none = .ok r' ∧
        r'.names = ["local", "dev"] := ⟨_, rfl, rfl⟩
  exact ⟨_, _, r, r', h.1, h.2, hr, hr', hnames, hnames',
    ((ofDocument_of_reordered _ _ h.1 h.2 none).2 r r' hr hr').1⟩

end Registry
end ChainAtlas
