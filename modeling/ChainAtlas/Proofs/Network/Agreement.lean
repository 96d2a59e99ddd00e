import ChainAtlas.Network.Question
import ChainAtlas.Proofs.Directory

/-!
# Networks that agree

Two networks agree when one of them is the other with its contracts in another order
(`agrees_iff_exists`).  Everything about agreement follows from this description: it is an equivalence
relation, agreeing networks have the same hash, and whatever they are asked, they answer alike
(`answer_eq_of_agrees`).  Of all questions only those about a contract look at the contracts at all,
and they look for one name, where the order makes no difference.
-/

namespace ChainAtlas
namespace Network

variable {a b : Network}

/-- **Networks agree when they differ in nothing but the order of their contracts.** -/
theorem agrees_iff_exists : a.agrees b = true ↔
    ∃ contracts : Directory Address, a.contracts.entries.Perm contracts.entries ∧
      b = { a with contracts } := by
  rw [agrees, Bool.and_eq_true, Directory.agrees_beq_iff_perm]
  constructor
  · rintro ⟨hapart, hperm⟩
    refine ⟨b.contracts, hperm, ?_⟩
    simp only [agreesApart, Bool.and_eq_true, beq_iff_eq] at hapart
    obtain ⟨⟨⟨⟨⟨⟨⟨⟨hname, hchainId⟩, henvironment⟩, hendpoints⟩, hdisplayName⟩, hcurrency⟩,
      hexplorerUrl⟩, hgraphUrl⟩, hentryPoints⟩ := hapart
    cases b
    simp only [mk.injEq, true_and]
    exact ⟨hname.symm, hchainId.symm, henvironment.symm, hendpoints.symm, hdisplayName.symm,
      hcurrency.symm, hexplorerUrl.symm, hgraphUrl.symm, hentryPoints.symm⟩
  · rintro ⟨contracts, hperm, rfl⟩
    refine ⟨?_, hperm⟩
    simp [agreesApart]

theorem agrees_refl (a : Network) : a.agrees a = true := agrees_iff_exists.2 ⟨a.contracts, .rfl, rfl⟩

theorem agrees_equivalence : Equivalence fun a b : Network => a.agrees b = true where
  refl := agrees_refl
  symm := by
    intro a b h
    obtain ⟨contracts, hperm, rfl⟩ := agrees_iff_exists.1 h
    exact agrees_iff_exists.2 ⟨a.contracts, hperm.symm, rfl⟩
  trans := by
    intro a b c h h'
    obtain ⟨contracts, hperm, rfl⟩ := agrees_iff_exists.1 h
    obtain ⟨contracts', hperm', rfl⟩ := agrees_iff_exists.1 h'
    exact agrees_iff_exists.2 ⟨contracts', hperm.trans hperm', rfl⟩

/-! ## What cannot tell agreeing networks apart -/

theorem name_eq_of_agrees (h : a.agrees b = true) : a.name = b.name := by
  obtain ⟨contracts, -, rfl⟩ := agrees_iff_exists.1 h
  rfl

theorem chainId_eq_of_agrees (h : a.agrees b = true) : a.chainId = b.chainId := by
  obtain ⟨contracts, -, rfl⟩ := agrees_iff_exists.1 h
  rfl

theorem hash_eq_of_agrees (h : a.agrees b = true) : hash a = hash b := by
  obtain ⟨contracts, -, rfl⟩ := agrees_iff_exists.1 h
  rfl

/-- A contract is found at the same address in whatever order the contracts are. -/
theorem get?_contracts_of_agrees (h : a.agrees b = true) (contract : String) :
    a.contracts.get? contract = b.contracts.get? contract := by
  obtain ⟨contracts, hperm, rfl⟩ := agrees_iff_exists.1 h
  exact Entries.get?_eq_of_perm hperm a.contracts.nodup contract

theorem hasContract_eq_of_agrees (h : a.agrees b = true) (contract : String) :
    a.hasContract contract = b.hasContract contract :=
  congrArg Option.isSome (get?_contracts_of_agrees h contract)

theorem contract_eq_of_agrees (h : a.agrees b = true) (contract : String) :
    a.contract contract = b.contract contract := by
  rw [Network.contract, Network.contract, get?_contracts_of_agrees h, name_eq_of_agrees h]

/-- **Agreeing networks give the same answers**, faults included. -/
theorem answer_eq_of_agrees (h : a.agrees b = true) (question : Question) :
    a.answer question = b.answer question := by
  cases question with
  | hasContract contract => rw [answer, answer, hasContract_eq_of_agrees h]
  | contract contract => rw [answer, answer, contract_eq_of_agrees h]
  | _ =>
    obtain ⟨contracts, -, rfl⟩ := agrees_iff_exists.1 h
    rfl

end Network
end ChainAtlas
