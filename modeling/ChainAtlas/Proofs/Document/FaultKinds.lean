import ChainAtlas.Proofs.Document.StepFaults
import ChainAtlas.Proofs.Numeral.Positional

/-!
# Which fault an entry is refused with

An entry may be wrong in many ways at once, and one fault is reported.  `draft_eq_error_iff` says
where a fault of another kind than a malformed document comes from while an entry is read: from its
contracts, or else from its endpoints.  The name and the sign of the chain ID are looked at last, so
they are complained about only where all the rest is in order (`exists_ofDraft_eq_error_iff`).

Two messages show a value of the entry, that about a tag and that about a chain ID.  Where the value
holds a whole number of too many digits the message cannot be made, and the entry is refused with a
plain fault instead (`Fault.quoting`, `network_eq_longNumber_iff`).  Put together,
`network_refused_as` tells which entries are refused for an address, which for the name, which for
the chain ID, and which for a number that is too long.
-/

namespace ChainAtlas

open Numeral Outcome

/-! ## Drafts without a network -/

namespace Network

/-- **No network is made of a draft without a name, and none with a chain ID that is not positive**;
the name is complained about first, and the chain ID with a message that shows it. -/
theorem ofDraft_eq_error_iff {d : Draft} {fault : Fault} :
    ofDraft d = .error fault ↔
      d.name = "" ∧ fault = .emptyChainName ∨
        d.name ≠ "" ∧ fault = .quoting d.chainId (.badChainId d.chainId d.name) ∧
          ¬ ∃ n : Int, d.chainId = .int n ∧ 0 < n := by
  have hmade := exists_ofDraft_eq_ok_iff (d := d)
  rw [ofDraft] at hmade ⊢
  split_ifs at hmade ⊢ with hname
  · simp [hname, eq_comm]
  · cases hid : chainIdOf? d.chainId with
    | none =>
      simp only [hid, reduceCtorEq, exists_false, ne_eq, hname, not_false_eq_true, true_and,
        false_iff] at hmade
      simp [hname, hmade, eq_comm]
    | some chainId =>
      simp only [hid, Except.ok.injEq, exists_eq', ne_eq, hname, not_false_eq_true, true_and,
        true_iff] at hmade
      simp [hname, hmade]

end Network

namespace Document

variable {name : String} {members : Members} {value : Json} {fault : Fault}

/-! ## Entries -/

/-- Whether what is read before the contracts of an entry is in order. -/
def HasHead (members : Members) : Prop :=
  (∃ n, resolve members "chainId" = some (.int n)) ∧
    ∃ s, resolve members "environment" = some (.text s)

/-- A list that may be absent is divided at an item only where it is there. -/
theorem exists_items_divided_iff {field : Option Json} {P : List Json → Json → Prop} :
    (∃ items, (field = none ∧ items = [] ∨ field = some (.list items)) ∧
      ∃ before item after, items = before ++ item :: after ∧ P before item) ↔
      ∃ before item after, field = some (.list (before ++ item :: after)) ∧ P before item := by
  constructor
  · rintro ⟨items, hitems, before, item, after, rfl, h⟩
    rcases hitems with ⟨-, hempty⟩ | hlist
    · simp at hempty
    · exact ⟨before, item, after, hlist, h⟩
  · rintro ⟨before, item, after, hlist, h⟩
    exact ⟨_, Or.inr hlist, before, item, after, rfl, h⟩

/-- **A fault of another kind than a malformed document comes from the contracts of an entry, or
else from its endpoints.** -/
theorem draft_eq_error_iff (hkind : fault.kind ≠ .malformedDocument) :
    draft name (normalize members) = .error fault ↔
      HasHead members ∧
        (contracts name ((resolve members "contracts").getD (.object [])) = .error fault ∨
          (resolve members "contracts" = none ∨
            ∃ contracts, resolve members "contracts" = some (.object contracts) ∧
              ∀ contract ∈ contracts, ∃ a : Address, contract.2 = .text a.text) ∧
          ∃ before item after,
            resolve members "rpcEndpoints" = some (.list (before ++ item :: after)) ∧
              (∀ e ∈ before, ∃ endpoint, DescribesEndpoint e endpoint) ∧
                endpoint name item = .error fault) := by
  have hchainId := get?_normalize members "chainId" (by decide)
  have henvironment := get?_normalize members "environment" (by decide)
  have hcontracts := get?_normalize members "contracts" (by decide)
  have hendpoints := get?_normalize members "rpcEndpoints" (by decide)
  simp only [draft, bind_eq_error_iff, pure_eq_error_iff,
    eq_error_iff_false required_malformed hkind, eq_error_iff_false (orAbsent_malformed _) hkind,
    eq_error_iff_false (FaultsIn.optionMapM (fun _ => currency_malformed) _) hkind,
    eq_error_iff_false (FaultsIn.mapM (fun _ => entryPoint_malformed) _) hkind,
    eq_error_iff_false orNull_malformed hkind, mapM_eq_error_iff, endpoint_eq_ok_iff, and_false,
    exists_false, or_false, false_or, required_eq_ok_iff, pick_int_iff, pick_text_iff,
    orAbsent_eq_ok_iff, pick_list_iff, exists_eq_right, hchainId, henvironment, hcontracts,
    hendpoints, ← exists_contracts_eq_ok_iff name, exists_items_divided_iff]
  constructor
  · rintro ⟨n, hn, s, hs, hcontracts | ⟨entries, hentries, hitem⟩⟩
    · exact ⟨⟨⟨n, hn⟩, s, hs⟩, Or.inl hcontracts⟩
    · exact ⟨⟨⟨n, hn⟩, s, hs⟩, Or.inr ⟨⟨entries, hentries⟩, hitem⟩⟩
  · rintro ⟨⟨⟨n, hn⟩, s, hs⟩, hcontracts | ⟨⟨entries, hentries⟩, hitem⟩⟩
    · exact ⟨n, hn, s, hs, Or.inl hcontracts⟩
    · exact ⟨n, hn, s, hs, Or.inr ⟨entries, hentries, hitem⟩⟩

/-- Whether a fault may come up while a draft is read. -/
def IsDraftFault (fault : Fault) : Prop :=
  IsMalformed fault ∨ (∃ bad, fault = .badAddress bad) ∨ IsPlain fault

theorem draft_faultsIn : FaultsIn IsDraftFault (draft name (normalize members)) := by
  intro fault hfault
  by_cases hkind : fault.kind = .malformedDocument
  · exact Or.inl hkind
  · rcases ((draft_eq_error_iff hkind).1 hfault).2 with hcontracts | ⟨-, _, _, _, -, -, hendpoint⟩
    · exact (contracts_faultsIn fault hcontracts).imp_right Or.inl
    · exact (endpoint_faultsIn fault hendpoint).imp_right Or.inr

/-- Whether reading an entry comes to a contract with a text that is no address.  The chain ID and
the environment are read before the contracts, and nothing else is. -/
structure StopsAtAddress (members : Members) (bad : Address.Fault) : Prop where
  chainId : ∃ n, resolve members "chainId" = some (.int n)
  environment : ∃ s, resolve members "environment" = some (.text s)
  contracts : ∃ contracts, resolve members "contracts" = some (.object contracts) ∧
    HasBadAddress contracts bad

/-- A draft is refused for an address exactly when its reading comes to a contract without one. -/
theorem draft_eq_badAddress_iff {bad : Address.Fault} :
    draft name (normalize members) = .error (.badAddress bad) ↔ StopsAtAddress members bad := by
  have hendpoint : ∀ item, endpoint name item ≠ .error (.badAddress bad) := by
    intro item hitem
    rcases endpoint_faultsIn _ hitem with hmalformed | hplain
    · cases hmalformed
    · cases hplain
  have hcontracts : contracts name ((resolve members "contracts").getD (.object [])) =
      .error (.badAddress bad) ↔
        ∃ contracts, resolve members "contracts" = some (.object contracts) ∧
          HasBadAddress contracts bad := by
    rw [contracts_eq_badAddress_iff]
    cases resolve members "contracts" with
    | none => simp [HasBadAddress]
    | some value => simp
  rw [draft_eq_error_iff (by rintro ⟨⟩), hcontracts]
  simp only [hendpoint, and_false, exists_false, or_false]
  constructor
  · rintro ⟨⟨hchainId, henvironment⟩, h⟩
    exact ⟨hchainId, henvironment, h⟩
  · intro h
    exact ⟨⟨h.chainId, h.environment⟩, h.contracts⟩

/-- Whether reading an entry comes to an endpoint of a certain sort.  The chain ID, the environment
and the contracts are read before the endpoints, and nothing else is. -/
structure StopsAtEndpoint (members : Members) (isSort : Json → Prop) : Prop where
  chainId : ∃ n, resolve members "chainId" = some (.int n)
  environment : ∃ s, resolve members "environment" = some (.text s)
  contracts : resolve members "contracts" = none ∨
    ∃ contracts, resolve members "contracts" = some (.object contracts) ∧
      ∀ contract ∈ contracts, ∃ a : Address, contract.2 = .text a.text
  endpoints : ∃ before item after,
    resolve members "rpcEndpoints" = some (.list (before ++ item :: after)) ∧
      (∀ e ∈ before, ∃ endpoint, DescribesEndpoint e endpoint) ∧ isSort item

/-- A draft is refused with a plain fault exactly when its reading comes to an endpoint that is. -/
theorem draft_eq_plain_iff (hplain : IsPlain fault) {isSort : Json → Prop}
    (hsort : ∀ item, endpoint name item = .error fault ↔ isSort item) :
    draft name (normalize members) = .error fault ↔ StopsAtEndpoint members isSort := by
  have hcontracts : ∀ field, contracts name field ≠ .error fault := by
    intro field hfield
    rcases contracts_faultsIn _ hfield with hmalformed | ⟨bad, rfl⟩
    · exact hplain.kind_ne hmalformed
    · cases hplain
  rw [draft_eq_error_iff hplain.kind_ne]
  simp only [hcontracts, false_or, hsort]
  constructor
  · rintro ⟨⟨hchainId, henvironment⟩, hcontracts, hendpoints⟩
    exact ⟨hchainId, henvironment, hcontracts, hendpoints⟩
  · intro h
    exact ⟨⟨h.chainId, h.environment⟩, h.contracts, h.endpoints⟩

/-! ## Networks -/

/-- Whether an entry is in order and stands under a name, and has a chain ID that is not positive. -/
structure HasBadChainId (name : String) (members : Members) (chainId : ℤ) : Prop where
  name_ne_empty : name ≠ ""
  shape : IsWellShaped members
  resolve_eq : resolve members "chainId" = some (.int chainId)
  nonpos : chainId ≤ 0

/-- **No network is made of an entry in order if it has no name or a chain ID that is not
positive.** -/
theorem exists_ofDraft_eq_error_iff :
    (∃ d : Network.Draft, d.name = name ∧ Describes members d ∧ Network.ofDraft d = .error fault) ↔
      name = "" ∧ IsWellShaped members ∧ fault = .emptyChainName ∨
        ∃ n, HasBadChainId name members n ∧
          fault = .quoting (.int n) (.badChainId (.int n) name) := by
  constructor
  · rintro ⟨d, rfl, hd, hno⟩
    have hshape : IsWellShaped members := (exists_describes_iff d.name).1 ⟨d, rfl, hd⟩
    obtain ⟨n, hresolve, hchainId⟩ := hd.chainId
    rcases Network.ofDraft_eq_error_iff.1 hno with ⟨hempty, hfault⟩ | ⟨hname, hfault, hnot⟩
    · exact Or.inl ⟨hempty, hshape, hfault⟩
    · have hnonpos : n ≤ 0 := Int.not_lt.1 fun hpos => hnot ⟨n, hchainId, hpos⟩
      rw [hchainId] at hfault
      exact Or.inr ⟨n, ⟨hname, hshape, hresolve, hnonpos⟩, hfault⟩
  · rintro (⟨rfl, hshape, rfl⟩ | ⟨n, hbad, hfault⟩)
    · obtain ⟨d, hname, hd⟩ := (exists_describes_iff "").2 hshape
      exact ⟨d, hname, hd, Network.ofDraft_eq_error_iff.2 (Or.inl ⟨hname, rfl⟩)⟩
    · obtain ⟨d, rfl, hd⟩ := (exists_describes_iff name).2 hbad.shape
      obtain ⟨m, hresolve, hchainId⟩ := hd.chainId
      rw [hbad.resolve_eq, Option.some_inj, Json.int.injEq] at hresolve
      subst hresolve
      refine ⟨d, rfl, hd, Network.ofDraft_eq_error_iff.2 (Or.inr ⟨hbad.name_ne_empty, ?_, ?_⟩)⟩
      · rw [hfault, hchainId]
      · rintro ⟨m, hm, hpos⟩
        rw [hchainId, Json.int.injEq] at hm
        have hnonpos := hbad.nonpos
        omega

theorem network_object_eq_error_iff :
    network name (.object members) = .error fault ↔
      draft name (normalize members) = .error fault ∨
        name = "" ∧ IsWellShaped members ∧ fault = .emptyChainName ∨
          ∃ n, HasBadChainId name members n ∧
            fault = .quoting (.int n) (.badChainId (.int n) name) := by
  rw [network, bind_eq_error_iff, ← exists_ofDraft_eq_error_iff]
  simp only [draft_eq_ok_iff, and_assoc]

/-- The fault of a value that is no object. -/
theorem isMalformed_of_not_object (hvalue : ∀ members, value ≠ .object members)
    (h : network name value = .error fault) : IsMalformed fault := by
  cases value with
  | object members => exact absurd rfl (hvalue members)
  | _ =>
    cases h
    rfl

/-- **An entry is refused for a number that is too long exactly when its reading comes to a tag with
one, or it is in order and its chain ID is such a number**, and not positive. -/
theorem network_eq_longNumber_iff :
    network name value = .error .longNumber ↔
      ∃ members, value = .object members ∧ (StopsAtEndpoint members HasLongTag ∨
        ∃ n, HasBadChainId name members n ∧ isShowable n = false) := by
  have hquoted : ∀ n, Fault.longNumber = .quoting (.int n) (.badChainId (.int n) name) ↔
      isShowable n = false := by
    intro n
    rw [Fault.quoting, Json.isShowable_int]
    cases isShowable n <;> simp
  cases value with
  | object members =>
    rw [network_object_eq_error_iff, draft_eq_plain_iff .longNumber fun _ => endpoint_eq_longNumber_iff]
    simp only [reduceCtorEq, and_false, false_or, hquoted, Json.object.injEq, exists_eq_left']
  | _ => simp [network]

/-- Whether no network is read from an entry, and the fault is of a certain kind. -/
def IsRefusedAs (kind : Kind) (name : String) (value : Json) : Prop :=
  ∃ fault, network name value = .error fault ∧ fault.kind = kind

/-- **An entry is refused for an address exactly when its reading comes to one that is none.** -/
theorem isRefusedAs_malformedAddress_iff :
    IsRefusedAs .malformedAddress name value ↔
      ∃ members bad, value = .object members ∧ StopsAtAddress members bad := by
  constructor
  · rintro ⟨fault, hfault, hkind⟩
    cases value with
    | object members =>
      rcases network_object_eq_error_iff.1 hfault with hdraft | ⟨-, -, rfl⟩ | ⟨n, -, hquoted⟩
      · rcases draft_faultsIn fault hdraft with hmalformed | ⟨bad, rfl⟩ | hplain
        · cases hmalformed.symm.trans hkind
        · exact ⟨members, bad, rfl, draft_eq_badAddress_iff.1 hdraft⟩
        · cases hplain.kind_eq.symm.trans hkind
      · cases hkind
      · rw [hquoted, Fault.quoting] at hkind
        split at hkind <;> cases hkind
    | _ =>
      cases hfault
      cases hkind
  · rintro ⟨members, bad, rfl, hstop⟩
    exact ⟨_, network_object_eq_error_iff.2 (Or.inl (draft_eq_badAddress_iff.2 hstop)), rfl⟩

/-- The kinds of the faults that come up while a draft is read. -/
def draftKinds : List Kind := [.malformedDocument, .malformedAddress, .value]

theorem IsDraftFault.kind_mem (h : IsDraftFault fault) : fault.kind ∈ draftKinds := by
  rcases h with (hmalformed : fault.kind = .malformedDocument) | ⟨bad, rfl⟩ | hplain
  · simp [draftKinds, hmalformed]
  · simp [draftKinds, Fault.kind]
  · simp [draftKinds, hplain.kind_eq]

/-- What no draft is refused with is complained about only where a draft is there. -/
theorem isRefusedAs_iff_of_not_draft {kind : Kind} (hkind : kind ∉ draftKinds) :
    IsRefusedAs kind name value ↔
      ∃ members, ∃ fault : Fault, value = .object members ∧ fault.kind = kind ∧
        (name = "" ∧ IsWellShaped members ∧ fault = .emptyChainName ∨
          ∃ n, HasBadChainId name members n ∧
            fault = .quoting (.int n) (.badChainId (.int n) name)) := by
  constructor
  · rintro ⟨fault, hfault, rfl⟩
    cases value with
    | object members =>
      rcases network_object_eq_error_iff.1 hfault with hdraft | hno
      · exact absurd (draft_faultsIn fault hdraft).kind_mem hkind
      · exact ⟨members, fault, rfl, rfl, hno⟩
    | _ =>
      have hmalformed := isMalformed_of_not_object (by rintro members ⟨⟩) hfault
      exact absurd (IsDraftFault.kind_mem (Or.inl hmalformed)) hkind
  · rintro ⟨members, fault, rfl, rfl, hno⟩
    exact ⟨fault, network_object_eq_error_iff.2 (Or.inr hno), rfl⟩

/-- **An entry is refused for its name exactly when the name is empty and the entry is in order**,
whatever the sign of its chain ID. -/
theorem isRefusedAs_invalidChainName_iff :
    IsRefusedAs .invalidChainName name value ↔
      name = "" ∧ ∃ members, value = .object members ∧ IsWellShaped members := by
  rw [isRefusedAs_iff_of_not_draft (by decide)]
  constructor
  · rintro ⟨members, fault, rfl, hkind, ⟨hempty, hshape, -⟩ | ⟨n, -, hquoted⟩⟩
    · exact ⟨hempty, members, rfl, hshape⟩
    · rw [hquoted, Fault.quoting] at hkind
      split at hkind <;> cases hkind
  · rintro ⟨hempty, members, rfl, hshape⟩
    exact ⟨members, .emptyChainName, rfl, rfl, Or.inl ⟨hempty, hshape, rfl⟩⟩

/-- **An entry is refused for its chain ID exactly when it is in order, it has a name, and its chain
ID is not positive**, and not too long to be shown. -/
theorem isRefusedAs_invalidChainId_iff :
    IsRefusedAs .invalidChainId name value ↔
      ∃ members n, value = .object members ∧ HasBadChainId name members n ∧
        isShowable n = true := by
  rw [isRefusedAs_iff_of_not_draft (by decide)]
  constructor
  · rintro ⟨members, fault, rfl, hkind, ⟨-, -, rfl⟩ | ⟨n, hbad, hquoted⟩⟩
    · cases hkind
    · cases hshown : isShowable n with
      | true => exact ⟨members, n, rfl, hbad, hshown⟩
      | false =>
        rw [hquoted, Fault.quoting_of_not_isShowable ((Json.isShowable_int n).trans hshown)] at hkind
        cases hkind
  · rintro ⟨members, n, rfl, hbad, hshown⟩
    refine ⟨members, .badChainId (.int n) name, rfl, rfl, Or.inr ⟨n, hbad, ?_⟩⟩
    exact (Fault.quoting_of_isShowable ((Json.isShowable_int n).trans hshown)).symm

/-- **Which fault an entry is refused with.**  An address is complained about as soon as the reading
comes to it; the name and the chain ID only where all the rest is in order, and the name before the
chain ID.  A chain ID that is too long to be shown is not complained about: the entry is refused for
the length of the number, as one with such a tag is. -/
theorem network_refused_as (name : String) (value : Json) :
    (IsRefusedAs .malformedAddress name value ↔
      ∃ members bad, value = .object members ∧ StopsAtAddress members bad) ∧
    (IsRefusedAs .invalidChainName name value ↔
      name = "" ∧ ∃ members, value = .object members ∧ IsWellShaped members) ∧
    (IsRefusedAs .invalidChainId name value ↔
      ∃ members n, value = .object members ∧ HasBadChainId name members n ∧
        isShowable n = true) ∧
    (network name value = .error .longNumber ↔
      ∃ members, value = .object members ∧ (StopsAtEndpoint members HasLongTag ∨
        ∃ n, HasBadChainId name members n ∧ isShowable n = false)) :=
  ⟨isRefusedAs_malformedAddress_iff, isRefusedAs_invalidChainName_iff,
    isRefusedAs_invalidChainId_iff, network_eq_longNumber_iff⟩

/-- An entry with nothing but a chain ID and an environment. -/
def bareMembers (chainId : ℤ) : Members :=
  [("chainId", .int chainId), ("environment", .text "x")]

theorem isWellShaped_bareMembers (chainId : ℤ) : IsWellShaped (bareMembers chainId) where
  chainId := ⟨chainId, rfl⟩
  environment := ⟨"x", rfl⟩
  contracts := Or.inl rfl
  endpoints := Or.inl rfl
  currency := Or.inl (Or.inl rfl)
  entryPoints := Or.inl (Or.inl rfl)
  displayName := Or.inl (Or.inl rfl)
  explorerUrl := Or.inl (Or.inl rfl)
  graphUrl := Or.inl (Or.inl rfl)

/-- The greatest of the negative numbers that are too long to be shown. -/
def longNegative : ℤ := -(10 ^ digitLimit : ℕ)

theorem not_isShowable_longNegative : isShowable longNegative = false := by
  rw [Bool.eq_false_iff, ne_eq, isShowable_iff, longNegative, Int.natAbs_neg, Int.natAbs_natCast]
  exact lt_irrefl _

theorem hasBadChainId_longNegative :
    HasBadChainId "dev" (bareMembers longNegative) longNegative where
  name_ne_empty := by decide
  shape := isWellShaped_bareMembers _
  resolve_eq := rfl
  nonpos := Int.neg_nonpos_of_nonneg (Int.natCast_nonneg _)

/-- An entry in order with a name and with a chain ID that is not positive need not be refused for
its chain ID. -/
theorem network_of_long_chainId :
    HasBadChainId "dev" (bareMembers longNegative) longNegative ∧
      network "dev" (.object (bareMembers longNegative)) = .error .longNumber ∧
        ¬ IsRefusedAs .invalidChainId "dev" (.object (bareMembers longNegative)) := by
  have hfault : network "dev" (.object (bareMembers longNegative)) = .error .longNumber :=
    network_eq_longNumber_iff.2
      ⟨_, rfl, Or.inr ⟨longNegative, hasBadChainId_longNegative, not_isShowable_longNegative⟩⟩
  refine ⟨hasBadChainId_longNegative, hfault, ?_⟩
  rintro ⟨fault, hfault', hkind⟩
  cases Except.error.inj (hfault.symm.trans hfault')
  cases hkind

/-- An entry with a bad chain ID and without a name is refused for the name. -/
example : network "" (.object [("id", .int (-1)), ("environment", .text "test")]) =
    .error .emptyChainName := rfl

end Document
end ChainAtlas
