import ChainAtlas.Proofs.Registry.Lookups

/-!
# Registries that agree

Two registries agree when they were loaded for the same environment and have agreeing networks under
the same names (`agrees_iff`).  A caller who asks for a name cannot tell them apart: there is a network
in both of them or in neither, and the two networks agree (`get_alike_of_agrees`).

Chain IDs are another matter.  They lead to the first network that has them, and which one is the first
depends on the order, to which agreement is blind: any network comes first in some registry that agrees
(`exists_agrees_byChainId`).  Where networks have different chain IDs there is no choice, and agreeing
registries answer alike; for a registry that was loaded this is the only case
(`forall_byChainId_alike_iff`).
-/

namespace ChainAtlas
namespace Registry

open Outcome

variable {r r' : Registry} {n : Network} {name : String}

/-- Registries that agree have agreeing networks under the same names. -/
theorem agrees_iff : r.agrees r' = true ↔ r.environment = r'.environment ∧
    r.names.Perm r'.names ∧
      ∀ name n n', r.get name = .ok n → r'.get name = .ok n' → n.agrees n' = true := by
  simp only [agrees, Bool.and_eq_true, beq_iff_eq, Directory.agrees_iff, get_eq_ok_iff, names]

theorem agrees_equivalence : Equivalence fun r r' : Registry => r.agrees r' = true where
  refl := by
    intro r
    rw [agrees, Bool.and_eq_true, beq_iff_eq]
    exact ⟨rfl, Directory.agrees_of_perm Network.agrees_refl .rfl⟩
  symm := by
    intro r r' h
    rw [agrees, Bool.and_eq_true, beq_iff_eq] at h ⊢
    exact ⟨h.1.symm, Directory.agrees_symm (fun _ _ => Network.agrees_equivalence.symm) h.2⟩
  trans := by
    intro r r' r'' h h'
    rw [agrees, Bool.and_eq_true, beq_iff_eq] at h h' ⊢
    refine ⟨h.1.trans h'.1, Directory.agrees_trans ?_ h.2 h'.2⟩
    intro a b c hab hbc
    exact Network.agrees_equivalence.trans hab hbc

/-! ## Names -/

theorem has_eq_of_agrees (h : r.agrees r' = true) (name : String) : r.has name = r'.has name := by
  obtain ⟨-, hnames, -⟩ := agrees_iff.1 h
  rw [Bool.eq_iff_iff, ← mem_iff_has, ← mem_iff_has, mem_iff_mem_names, mem_iff_mem_names,
    hnames.mem_iff]

/-- A network of one registry agrees with one of the other. -/
theorem exists_get_of_agrees (h : r.agrees r' = true) (hn : r.get name = .ok n) :
    ∃ n', r'.get name = .ok n' ∧ n.agrees n' = true := by
  obtain ⟨-, hnames, hagrees⟩ := agrees_iff.1 h
  obtain ⟨n', hn'⟩ := mem_names_iff.1 (hnames.mem_iff.1 (mem_names_iff.2 ⟨n, hn⟩))
  exact ⟨n', hn', hagrees name n n' hn hn'⟩

theorem exists_mem_values_of_agrees (h : r.agrees r' = true) (hn : n ∈ r.values) :
    ∃ n' ∈ r'.values, n.agrees n' = true := by
  obtain ⟨key, hkey⟩ := mem_values_iff.1 hn
  obtain ⟨n', hn', hagrees⟩ := exists_get_of_agrees h hkey
  exact ⟨n', mem_values_iff.2 ⟨key, hn'⟩, hagrees⟩

/-- **A name leads to agreeing networks, or it is unknown to both registries.** -/
theorem get_alike_of_agrees (h : r.agrees r' = true) (name : String) :
    Alike (fun n n' => n.agrees n' = true) (fun fault => fault.kind = .unknownNetwork)
      (r.get name) (r'.get name) := by
  by_cases hname : name ∈ r.names
  · obtain ⟨n, hn⟩ := mem_names_iff.1 hname
    obtain ⟨n', hn', hagrees⟩ := exists_get_of_agrees h hn
    rw [hn, hn']
    exact .ok hagrees
  · obtain ⟨-, hnames, -⟩ := agrees_iff.1 h
    rw [get_of_not_mem_names hname, get_of_not_mem_names (mt hnames.mem_iff.2 hname)]
    exact .error rfl rfl

/-! ## Chain IDs -/

theorem hasDistinctChainIds_of_agrees (h : r.agrees r' = true) (hr : r.HasDistinctChainIds) :
    r'.HasDistinctChainIds := by
  have hback : r'.agrees r = true := agrees_equivalence.symm h
  refine hasDistinctChainIds_iff.2 fun key key' n n' hn hn' hsame => ?_
  obtain ⟨m, hm, hagrees⟩ := exists_get_of_agrees hback hn
  obtain ⟨m', hm', hagrees'⟩ := exists_get_of_agrees hback hn'
  refine hasDistinctChainIds_iff.1 hr key key' m m' hm hm' ?_
  rw [← Network.chainId_eq_of_agrees hagrees, hsame, Network.chainId_eq_of_agrees hagrees']

/-- **Where networks have different chain IDs, a chain ID leads to agreeing networks**, or to the same
fault. -/
theorem byChainId_alike_of_agrees (h : r.agrees r' = true) (hr : r.HasDistinctChainIds) (c : ℤ) :
    Alike (fun n n' => n.agrees n' = true) (· = unknownChainId (.int c))
      (r.byChainId (.int c)) (r'.byChainId (.int c)) := by
  cases hfound : r.byChainId (.int c) with
  | ok n =>
    have hfirst := byChainId_eq_ok_iff.1 hfound
    obtain ⟨name, hn⟩ := mem_values_iff.1 hfirst.mem
    obtain ⟨n', hn', hagrees⟩ := exists_get_of_agrees h hn
    have hfound' : r'.byChainId (.int n'.chainId) = .ok n' :=
      byChainId_of_get (hasDistinctChainIds_of_agrees h hr) hn'
    rw [← Network.chainId_eq_of_agrees hagrees, hfirst.chainId_eq] at hfound'
    rw [hfound']
    exact .ok hagrees
  | error fault =>
    obtain ⟨hnone, hfault⟩ := byChainId_eq_error_iff.1 hfound
    have hnone' : ∀ m ∈ r'.values, (m.chainId : ℤ) ≠ c := by
      intro m hm
      obtain ⟨n, hn, hagrees⟩ := exists_mem_values_of_agrees (agrees_equivalence.symm h) hm
      rw [Network.chainId_eq_of_agrees hagrees]
      exact hnone n hn
    rw [byChainId_eq_error_iff.2 ⟨hnone', rfl⟩]
    exact .error hfault rfl

/-- Some registry that agrees has a given network in front of all others. -/
theorem exists_agrees_byChainId (hn : r.get name = .ok n) :
    ∃ r', r.agrees r' = true ∧ r'.byChainId (.int n.chainId) = .ok n := by
  have hmem : (name, n) ∈ r.networks.entries := Directory.get?_eq_some_iff.1 (get_eq_ok_iff.1 hn)
  have hperm := List.perm_cons_erase hmem
  refine ⟨⟨⟨_, (hperm.map Prod.fst).nodup r.networks.nodup⟩, r.environment⟩, ?_, ?_⟩
  · rw [agrees, Bool.and_eq_true, beq_iff_eq]
    exact ⟨rfl, Directory.agrees_of_perm Network.agrees_refl hperm⟩
  · exact byChainId_eq_ok_iff.2 ⟨[], _, rfl, rfl, nofun⟩

/-- **For a registry that was loaded, agreement is enough for chain IDs exactly if they are
different.** -/
theorem forall_byChainId_alike_iff {document : Json} {environment : Option String}
    (hr : ofDocument document environment = .ok r) :
    (∀ r', r.agrees r' = true → ∀ c : ℤ,
      Alike (fun n n' => n.agrees n' = true) (· = unknownChainId (.int c))
        (r.byChainId (.int c)) (r'.byChainId (.int c))) ↔ r.HasDistinctChainIds := by
  constructor
  · intro h
    refine (forall_byChainId_iff hr).1 fun name n hn => ?_
    obtain ⟨r', hagrees, hfound⟩ := exists_agrees_byChainId hn
    have halike := h r' hagrees n.chainId
    rw [hfound] at halike
    cases hr' : r.byChainId (.int n.chainId) with
    | error fault =>
      rw [hr'] at halike
      cases halike
    | ok m =>
      rw [hr'] at halike
      cases halike with
      | ok hm => exact ⟨m, rfl, hm⟩
  · intro hdistinct r' h c
    exact byChainId_alike_of_agrees h hdistinct c

/-- **Agreement is a congruence.**  Networks that agree differ in nothing but the order of their
contracts and give the same answers.  Registries that agree have agreeing networks under the same
names, and also with the same chain IDs where these are different. -/
theorem agreement_congruence :
    Equivalence (fun a b : Network => a.agrees b = true) ∧
    Equivalence (fun r r' : Registry => r.agrees r' = true) ∧
    (∀ a b : Network, a.agrees b = true ↔ ∃ contracts : Directory Address,
      a.contracts.entries.Perm contracts.entries ∧ b = { a with contracts }) ∧
    (∀ a b : Network, a.agrees b = true →
      hash a = hash b ∧ ∀ question, a.answer question = b.answer question) ∧
    ∀ r r' : Registry, r.agrees r' = true →
      r.environment = r'.environment ∧ r.names.Perm r'.names ∧
      (∀ name, r.has name = r'.has name) ∧
      (∀ name, Alike (fun n n' => n.agrees n' = true) (fun fault => fault.kind = .unknownNetwork)
        (r.get name) (r'.get name)) ∧
      (r.HasDistinctChainIds → ∀ c : ℤ,
        Alike (fun n n' => n.agrees n' = true) (· = unknownChainId (.int c))
          (r.byChainId (.int c)) (r'.byChainId (.int c))) := by
  refine ⟨Network.agrees_equivalence, agrees_equivalence, fun a b => Network.agrees_iff_exists,
    fun a b h => ⟨Network.hash_eq_of_agrees h, Network.answer_eq_of_agrees h⟩, fun r r' h => ?_⟩
  obtain ⟨henvironment, hnames, -⟩ := agrees_iff.1 h
  exact ⟨henvironment, hnames, has_eq_of_agrees h, get_alike_of_agrees h,
    byChainId_alike_of_agrees h⟩

/-- A network with its contracts in one order and in the other, in two registries with their networks
in one order and in the other. -/
theorem agreement_of_two_orders :
    ∃ a b : Network, ∃ r r' : Registry, a ≠ b ∧ r.names = ["dev", "local"] ∧
      r'.names = ["local", "dev"] ∧ a.agrees b = true ∧ hash a = hash b ∧
      a.answer (.contract "LINK") = b.answer (.contract "LINK") ∧ r.agrees r' = true ∧
      r.byChainId (.int 1) = .ok a ∧ r'.byChainId (.int 1) = .ok b ∧
      Alike (fun n n' => n.agrees n' = true) (fun fault => fault.kind = .unknownNetwork)
        (r.get "test") (r'.get "test") := by
  let data : String × Address := ("DATA", ⟨"0x256eb8a51f382650B2A1e946b8811953640ee47D", by decide⟩)
  let link : String × Address := ("LINK", ⟨"0x514910771AF9Ca656af840dff83E8264EcF986CA", by decide⟩)
  let contracts : Directory Address := ⟨[data, link], by decide⟩
  let contracts' : Directory Address := ⟨[link, data], by decide⟩
  let a : Network := ⟨"dev", 1, "local", contracts, [], none, none, none, none, [], by decide,
    Nat.one_pos⟩
  let b : Network := { a with contracts := contracts' }
  let plain : Network := ⟨"local", 2, "local", .empty, [], none, none, none, none, [], by decide,
    Nat.two_pos⟩
  let r : Registry := ⟨⟨[("dev", a), ("local", plain)], by decide⟩, none⟩
  let r' : Registry := ⟨⟨[("local", plain), ("dev", b)], by decide⟩, none⟩
  obtain ⟨-, -, hnetworks, hanswers, hregistries⟩ := agreement_congruence
  have hagrees : a.agrees b = true := (hnetworks a b).2 ⟨contracts', .swap _ _ _, rfl⟩
  have hr : r.agrees r' = true := by
    rw [agrees, Bool.and_eq_true, beq_iff_eq, Directory.agrees, Bool.and_eq_true, beq_iff_eq,
      List.all_eq_true]
    exact ⟨rfl, rfl, List.forall_mem_cons.2
      ⟨hagrees, List.forall_mem_singleton.2 plain.agrees_refl⟩⟩
  refine ⟨a, b, r, r', ?_, rfl, rfl, hagrees, (hanswers a b hagrees).1,
    (hanswers a b hagrees).2 (.contract "LINK"), hr, rfl, rfl, (hregistries r r' hr).2.2.2.1 "test"⟩
  intro hsame
  have horder : contracts.names = contracts'.names := congrArg (fun n => n.contracts.names) hsame
  exact absurd horder (by decide)

end Registry
end ChainAtlas
