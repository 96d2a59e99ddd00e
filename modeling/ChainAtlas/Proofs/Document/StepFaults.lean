import ChainAtlas.Proofs.Document.Acceptance

/-!
# Which faults the steps of reading know of

Most steps of reading an entry know of malformed documents only (`required_malformed` and its
companions).  There are two exceptions.  An address of a contract may be no address, which is a fault of
its own (`contracts_eq_badAddress_iff`).  And an endpoint may be passed over with a plain fault of a
value: that of its URL, if it has no tag (`endpoint_eq_badUrl_iff`), or that of a number in its tag that
is too long for the message about the tag (`endpoint_eq_longNumber_iff`).
-/

namespace ChainAtlas
namespace Document

open Outcome

variable {α : Type} {shape : Shape α} {name field contract : String} {members : Members}
  {value : Json} {fault : Fault}

/-! ## Malformed documents -/

/-- Whether a fault says that the document is malformed. -/
def IsMalformed (fault : Fault) : Prop := fault.kind = .malformedDocument

/-- A step that knows of malformed documents only has no fault of another kind. -/
theorem eq_error_iff_false {x : Except Fault α} (h : FaultsIn IsMalformed x)
    (hkind : fault.kind ≠ .malformedDocument) : x = .error fault ↔ False :=
  iff_false_intro (h.ne_error hkind)

theorem required_malformed : FaultsIn IsMalformed (required shape name members field) := by
  rw [required]
  split
  · exact .error rfl
  · split
    · exact .error rfl
    · exact .ok _

theorem orAbsent_malformed (absent : α) :
    FaultsIn IsMalformed (orAbsent shape name members field absent) := by
  rw [orAbsent]
  split
  · exact required_malformed
  · exact .ok _

theorem orNull_malformed : FaultsIn IsMalformed (orNull shape name members field) := by
  rw [orNull]
  split
  · exact .ok _
  · exact required_malformed.map some

theorem currency_malformed : FaultsIn IsMalformed (currency name value) := by
  cases value with
  | object members =>
    exact .bind required_malformed fun _ => .bind required_malformed fun _ =>
      .bind (orAbsent_malformed 18) fun _ => .ok _
  | _ => exact .error rfl

theorem entryPoint_malformed : FaultsIn IsMalformed (entryPoint name value) := by
  cases value with
  | object members =>
    exact .bind required_malformed fun _ => .bind required_malformed fun _ =>
      .bind required_malformed fun _ => .bind required_malformed fun _ =>
      .bind (orAbsent_malformed true) fun _ => .ok _
  | _ => exact .error rfl

/-! ## Contracts -/

/-- Either a malformed document or a text that is no address. -/
def IsMalformedOrBadAddress (fault : Fault) : Prop :=
  IsMalformed fault ∨ ∃ a, fault = .badAddress a

theorem contractAddress_faultsIn :
    FaultsIn IsMalformedOrBadAddress (contractAddress name contract value) := by
  cases value with
  | text s =>
    intro fault hfault
    obtain ⟨bad, -, rfl⟩ := mapError_eq_error_iff.1 hfault
    exact Or.inr ⟨bad, rfl⟩
  | _ => exact .error (Or.inl rfl)

theorem contracts_faultsIn : FaultsIn IsMalformedOrBadAddress (contracts name value) := by
  cases value with
  | object members =>
    exact .mapM (fun _ => .bind contractAddress_faultsIn fun _ => .ok _) members
  | _ => exact .error (Or.inl rfl)

theorem contractAddress_eq_badAddress_iff {bad : Address.Fault} :
    contractAddress name contract value = .error (.badAddress bad) ↔
      ∃ s, value = .text s ∧ Address.ofText s = .error bad := by
  cases value with
  | text s =>
    simp only [contractAddress, mapError_eq_error_iff, Fault.badAddress.injEq, exists_eq_right,
      Json.text.injEq, exists_eq_left']
  | _ => simp [contractAddress]

/-- Whether the first contract that has no address has a text instead of one. -/
def HasBadAddress (contracts : Members) (bad : Address.Fault) : Prop :=
  ∃ before contract s after, contracts = before ++ (contract, .text s) :: after ∧
    (∀ member ∈ before, ∃ a : Address, member.2 = .text a.text) ∧ Address.ofText s = .error bad

/-- **Contracts are refused for an address exactly when the first of them that has none has a text
instead.** -/
theorem contracts_eq_badAddress_iff {bad : Address.Fault} :
    contracts name value = .error (.badAddress bad) ↔
      ∃ members, value = .object members ∧ HasBadAddress members bad := by
  cases value with
  | object members =>
    simp only [contracts, mapM_eq_error_iff, bind_eq_error_iff, pure_eq_error_iff, and_false,
      exists_false, or_false, exists_bind_pure_eq_ok_iff, contractAddress_eq_ok_iff,
      contractAddress_eq_badAddress_iff, Json.object.injEq, exists_eq_left', HasBadAddress]
    constructor
    · rintro ⟨before, ⟨contract, value⟩, after, hsplit, hbefore, s, hvalue, hbad⟩
      cases hvalue
      exact ⟨before, contract, s, after, hsplit, hbefore, hbad⟩
    · rintro ⟨before, contract, s, after, hsplit, hbefore, hbad⟩
      exact ⟨before, (contract, .text s), after, hsplit, hbefore, s, rfl, hbad⟩
  | _ => simp [contracts]

/-- Contracts are in order when there are none, or when all of them have addresses. -/
theorem exists_contracts_eq_ok_iff (name : String) {field : Option Json} :
    (∃ entries, contracts name (field.getD (.object [])) = .ok entries) ↔
      field = none ∨ ∃ contracts, field = some (.object contracts) ∧
        ∀ contract ∈ contracts, ∃ a : Address, contract.2 = .text a.text := by
  simp only [draftContracts_eq_ok_iff, ← exists_describesContract_iff]
  exact exists_described_items_iff Json.object

/-! ## Endpoints -/

/-- Whether a fault is one of a value and nothing more is said of where the value comes from: a text
that is refused as a URL, or a number that is too long for a message. -/
inductive IsPlain : Fault → Prop where
  | badUrl (u : Url.Fault) : IsPlain (.badUrl u)
  | longNumber : IsPlain .longNumber

theorem IsPlain.kind_eq (h : IsPlain fault) : fault.kind = .value := by cases h <;> rfl

theorem IsPlain.kind_ne (h : IsPlain fault) : fault.kind ≠ .malformedDocument := by
  rw [h.kind_eq]
  rintro ⟨⟩

/-- Either a malformed document or a plain fault. -/
def IsMalformedOrPlain (fault : Fault) : Prop := IsMalformed fault ∨ IsPlain fault

/-- Whether a value is an endpoint without a tag, and with a text that is refused as a URL. -/
def HasRefusedUrl (value : Json) (u : Url.Fault) : Prop :=
  ∃ members, value = .object members ∧ ∃ url, Entries.get? members "url" = some (.text url) ∧
    IsLeftOut (Entries.get? members "protocol") ∧ Url.scheme url = .error u

/-- Whether a value is an endpoint with a URL, and with a tag that holds a number which is too long
to be shown. -/
def HasLongTag (value : Json) : Prop :=
  ∃ members, value = .object members ∧ ∃ url, Entries.get? members "url" = some (.text url) ∧
    ∃ tag, Entries.get? members "protocol" = some tag ∧ tag.isShowable = false

theorem inferProtocol_faultsIn {url : String} :
    FaultsIn IsMalformedOrPlain (inferProtocol url) := by
  rw [inferProtocol]
  split
  · exact .error (Or.inr (.badUrl _))
  · split
    · exact .error (Or.inl rfl)
    · exact .ok _

/-- A tag that names no transport is complained about with a message that shows it. -/
theorem taggedProtocol_eq_error_iff {tag : Json} :
    taggedProtocol name tag = .error fault ↔
      (¬ ∃ p, taggedProtocol name tag = .ok p) ∧ fault = .quoting tag (.unknownTag name tag) := by
  rw [taggedProtocol]
  cases tag.text?.bind Protocol.ofTag? <;> simp [eq_comm]

theorem taggedProtocol_faultsIn {tag : Json} :
    FaultsIn IsMalformedOrPlain (taggedProtocol name tag) := by
  intro fault hfault
  obtain ⟨-, rfl⟩ := taggedProtocol_eq_error_iff.1 hfault
  cases hshown : tag.isShowable with
  | true =>
    rw [Fault.quoting_of_isShowable hshown]
    exact Or.inl rfl
  | false =>
    rw [Fault.quoting_of_not_isShowable hshown]
    exact Or.inr .longNumber

/-- The tags that are too long to be shown name no transport, since those that do are texts. -/
theorem taggedProtocol_eq_longNumber_iff {tag : Json} :
    taggedProtocol name tag = .error .longNumber ↔ tag.isShowable = false := by
  rw [taggedProtocol_eq_error_iff]
  constructor
  · rintro ⟨-, hfault⟩
    cases hshown : tag.isShowable with
    | true =>
      rw [Fault.quoting_of_isShowable hshown] at hfault
      cases hfault
    | false => rfl
  · intro hlong
    refine ⟨?_, (Fault.quoting_of_not_isShowable hlong).symm⟩
    rintro ⟨p, hp⟩
    rw [taggedProtocol_eq_ok_iff.1 hp, Json.isShowable_text] at hlong
    cases hlong

theorem endpoint_faultsIn : FaultsIn IsMalformedOrPlain (endpoint name value) := by
  cases value with
  | object members =>
    rw [endpoint_object]
    refine .bind (required_malformed.mono fun _ => Or.inl) fun url => .bind ?_ fun protocol => .ok _
    rw [endpointProtocol]
    split
    · exact inferProtocol_faultsIn
    · exact taggedProtocol_faultsIn
  | _ => exact .error (Or.inl rfl)

theorem endpointProtocol_eq_badUrl_iff {url : String} {u : Url.Fault} :
    endpointProtocol name members url = .error (.badUrl u) ↔
      IsLeftOut (Entries.get? members "protocol") ∧ Url.scheme url = .error u := by
  rw [endpointProtocol, ← present?_eq_none_iff]
  cases present? members "protocol" with
  | none =>
    rw [inferProtocol]
    cases Url.scheme url with
    | error fault => simp
    | ok scheme =>
      simp only [reduceCtorEq, and_false, iff_false]
      split <;> simp
  | some tag =>
    have htag : taggedProtocol name tag ≠ .error (.badUrl u) := by
      intro hfault
      obtain ⟨-, hquoted⟩ := taggedProtocol_eq_error_iff.1 hfault
      rw [Fault.quoting] at hquoted
      split at hquoted <;> cases hquoted
    simp [htag]

theorem endpointProtocol_eq_longNumber_iff {url : String} :
    endpointProtocol name members url = .error .longNumber ↔
      ∃ tag, Entries.get? members "protocol" = some tag ∧ tag.isShowable = false := by
  rw [endpointProtocol]
  cases h : present? members "protocol" with
  | none =>
    have hurl : inferProtocol url ≠ .error .longNumber := by
      intro hfault
      rw [inferProtocol] at hfault
      cases hscheme : Url.scheme url with
      | error fault => simp [hscheme] at hfault
      | ok scheme => cases htag : Protocol.ofScheme? scheme <;> simp [hscheme, htag] at hfault
    rcases present?_eq_none_iff.1 h with hnone | hnull
    · simp [hurl, hnone]
    · simp [hurl, hnull, Json.isShowable]
  | some tag =>
    obtain ⟨hget, -⟩ := present?_eq_some_iff.1 h
    simp [taggedProtocol_eq_longNumber_iff, hget]

/-- An endpoint is refused for its URL exactly when it has no tag to make up for it. -/
theorem endpoint_eq_badUrl_iff {u : Url.Fault} :
    endpoint name value = .error (.badUrl u) ↔ HasRefusedUrl value u := by
  have hurl : ∀ members, required .text name members "url" = .error (.badUrl u) ↔ False :=
    fun _ => eq_error_iff_false required_malformed (IsPlain.badUrl u).kind_ne
  cases value with
  | object members =>
    simp only [endpoint_object, HasRefusedUrl, bind_eq_error_iff, hurl,
      endpointProtocol_eq_badUrl_iff, required_eq_ok_iff, pick_text_iff, reduceCtorEq, and_false,
      exists_false, or_false, false_or, exists_eq_right, Json.object.injEq, exists_eq_left']
  | _ => simp [endpoint, HasRefusedUrl]

/-- An endpoint is refused for a number exactly when its tag is too long to be shown. -/
theorem endpoint_eq_longNumber_iff :
    endpoint name value = .error .longNumber ↔ HasLongTag value := by
  have hurl : ∀ members, required .text name members "url" = .error .longNumber ↔ False :=
    fun _ => eq_error_iff_false required_malformed IsPlain.longNumber.kind_ne
  cases value with
  | object members =>
    simp only [endpoint_object, HasLongTag, bind_eq_error_iff, hurl,
      endpointProtocol_eq_longNumber_iff, required_eq_ok_iff, pick_text_iff, reduceCtorEq, and_false,
      exists_false, or_false, false_or, exists_eq_right, Json.object.injEq, exists_eq_left']
  | _ => simp [endpoint, HasLongTag]

end Document
end ChainAtlas
