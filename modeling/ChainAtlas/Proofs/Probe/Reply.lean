import ChainAtlas.Proofs.Probe.Verification

/-!
# What replies say

An endpoint that is asked for its chain ID may answer anything, or not at all.  A reply falls into one
of three groups, and there is a fault or a value for each: it is lost on the way (`IsLost`), it arrives
and cannot be used (`IsUnusable`), or it has a result that spells a number (`HasResult`).  The three
are written down here by what a reply looks like.  `cases_of_reply` says that there is no fourth, and
`fetch_of_reply` what is made of each of them.

A result spells a chain ID to the base sixteen.  Whatever chain ID is spelled, in whatever spelling, is
the one that is learnt from the reply (`fetch_of_spelling`).
-/

namespace ChainAtlas

open Numeral Outcome

/-! ## The groups of replies -/

/-- Why a JSON value tells no chain ID: it is no object, it reports an error, or it has no result that
spells a number. -/
inductive Json.TellsNoChainId : Json → Prop where
  | shape {value : Json} (hshape : ∀ members, value ≠ .object members) : TellsNoChainId value
  | error {members : Members} {error : Json} (herror : Entries.get? members "error" = some error) :
      TellsNoChainId (.object members)
  | missing {members : Members} (hmissing : Entries.get? members "result" = none) :
      TellsNoChainId (.object members)
  | notText {members : Members} {result : Json}
      (hresult : Entries.get? members "result" = some result)
      (hshape : ∀ text, result ≠ .text text) : TellsNoChainId (.object members)
  | notNumeral {members : Members} {text : String}
      (hresult : Entries.get? members "result" = some (.text text))
      (hnumeral : Hexadecimal.read? text.toList = none) : TellsNoChainId (.object members)

namespace Reply

/-- Whether a reply is lost on the way: the request failed, or what came back is not an answer to it or
not JSON. -/
inductive IsLost : Reply → Prop where
  | failed (description : String) : IsLost (.failed description)
  | status {status : ℤ} {body : String} (hstatus : status ≠ 200) : IsLost (.answered status body)
  | malformed {status : ℤ} {body : String} {fault : Json.Located}
      (hbody : Json.read body.toList = .error (.malformed fault)) : IsLost (.answered status body)

/-- Whether a reply arrives and cannot be used: there is a whole number in it that is too long, or it
tells no chain ID. -/
inductive IsUnusable : Reply → Prop where
  | longNumeral {body : String} {digits : ℕ}
      (hbody : Json.read body.toList = .error (.longNumeral digits)) :
      IsUnusable (.answered 200 body)
  | value {body : String} {value : Json} (hbody : Json.read body.toList = .ok value)
      (hvalue : value.TellsNoChainId) : IsUnusable (.answered 200 body)

/-- Whether a reply has a text as its result, and reports no error. -/
inductive HasResult : Reply → String → Prop where
  | intro {body : String} {members : Members} {text : String}
      (hbody : Json.read body.toList = .ok (.object members))
      (herror : Entries.get? members "error" = none)
      (hresult : Entries.get? members "result" = some (.text text)) :
      HasResult (.answered 200 body) text

end Reply

namespace Probe

variable {reply : Reply} {value : Json} {text : String} {chainId : ℤ} {n : ℕ}

/-! ## What is made of a JSON value -/

theorem resultChainId_of_none {members : Members}
    (h : ((Entries.get? members "result").bind Json.text?).bind
      (fun text => Hexadecimal.read? text.toList) = none) :
    resultChainId value members = .error (.malformedReply value) := by
  rw [resultChainId, h]

/-- An error counts, whatever else there is. -/
theorem chainIdOf_of_error {members : Members} {error : Json}
    (h : Entries.get? members "error" = some error) :
    chainIdOf (.object members) = .error (.errorReply error) := by
  rw [chainIdOf, h]

theorem chainIdOf_of_no_error {members : Members} (h : Entries.get? members "error" = none) :
    chainIdOf (.object members) = resultChainId (.object members) members := by
  rw [chainIdOf, h]

theorem chainIdOf_of_result {members : Members} (herror : Entries.get? members "error" = none)
    (hresult : Entries.get? members "result" = some (.text text))
    (hnumeral : Hexadecimal.read? text.toList = some chainId) :
    chainIdOf (.object members) = .ok chainId := by
  rw [chainIdOf_of_no_error herror, resultChainId, hresult, Option.bind_some, Json.text?,
    Option.bind_some, hnumeral]

/-- A value that tells no chain ID has a fault that is about the value. -/
theorem kind_of_tellsNoChainId (h : value.TellsNoChainId) :
    ∃ fault, chainIdOf value = .error fault ∧ fault.kind = .value := by
  -- an object without a result that spells a number may still report an error, which is then the fault
  have hobject : ∀ members, ((Entries.get? members "result").bind Json.text?).bind
      (fun text => Hexadecimal.read? text.toList) = none →
        ∃ fault, chainIdOf (.object members) = .error fault ∧ fault.kind = .value := by
    intro members hnone
    cases herror : Entries.get? members "error" with
    | some error => exact ⟨_, chainIdOf_of_error herror, rfl⟩
    | none => exact ⟨_, (chainIdOf_of_no_error herror).trans (resultChainId_of_none hnone), rfl⟩
  cases h with
  | shape hshape =>
    cases value with
    | object members => exact absurd rfl (hshape members)
    | _ => exact ⟨_, rfl, rfl⟩
  | error herror => exact ⟨_, chainIdOf_of_error herror, rfl⟩
  | missing hmissing => exact hobject _ (by rw [hmissing]; rfl)
  | @notText members result hresult hshape =>
    refine hobject _ ?_
    rw [hresult, Option.bind_some]
    cases result with
    | text s => exact absurd rfl (hshape s)
    | _ => rfl
  | notNumeral hresult hnumeral =>
    refine hobject _ ?_
    rw [hresult, Option.bind_some, Json.text?, Option.bind_some, hnumeral]

/-- A value tells no chain ID, or it is an object with a result that spells one and no error. -/
theorem tellsNoChainId_or_result (value : Json) :
    value.TellsNoChainId ∨ ∃ members text chainId, value = .object members ∧
      Entries.get? members "error" = none ∧
      Entries.get? members "result" = some (.text text) ∧
      Hexadecimal.read? text.toList = some chainId := by
  cases value with
  | object members =>
    cases herror : Entries.get? members "error" with
    | some error => exact Or.inl (.error herror)
    | none =>
      cases hresult : Entries.get? members "result" with
      | none => exact Or.inl (.missing hresult)
      | some result =>
        cases result with
        | text s =>
          cases hnumeral : Hexadecimal.read? s.toList with
          | none => exact Or.inl (.notNumeral hresult hnumeral)
          | some chainId => exact Or.inr ⟨members, s, chainId, rfl, herror, hresult, hnumeral⟩
        | _ => exact Or.inl (.notText hresult nofun)
  | _ => exact Or.inl (.shape nofun)

/-! ## What is made of a reply -/

theorem classify_of_body {body : String} (hbody : Json.read body.toList = .ok value) :
    classify (.answered 200 body) = chainIdOf value := by
  rw [classify, if_neg (by decide), hbody]
  rfl

theorem classify_of_unread {body : String} {fault : Json.ReadFault}
    (hbody : Json.read body.toList = .error fault) :
    classify (.answered 200 body) = .error (replyFault fault) := by
  rw [classify, if_neg (by decide), hbody]
  rfl

/-- A reply that is lost has a fault of the surroundings. -/
theorem kind_of_isLost (h : reply.IsLost) :
    ∃ fault, classify reply = .error fault ∧ fault.kind = .runtime := by
  have hstatus : ∀ {status : ℤ} {body : String}, status ≠ 200 →
      ∃ fault, classify (.answered status body) = .error fault ∧ fault.kind = .runtime :=
    fun hstatus => ⟨_, if_pos hstatus, rfl⟩
  cases h with
  | failed description => exact ⟨_, rfl, rfl⟩
  | status h => exact hstatus h
  | @malformed status body fault hbody =>
    by_cases hok : status = 200
    · subst hok
      exact ⟨_, classify_of_unread hbody, rfl⟩
    · exact hstatus hok

/-- A reply that cannot be used has a fault that is about its value. -/
theorem kind_of_isUnusable (h : reply.IsUnusable) :
    ∃ fault, classify reply = .error fault ∧ fault.kind = .value := by
  cases h with
  | longNumeral hbody => exact ⟨_, classify_of_unread hbody, rfl⟩
  | value hbody hvalue =>
    obtain ⟨fault, hfault, hkind⟩ := kind_of_tellsNoChainId hvalue
    exact ⟨fault, (classify_of_body hbody).trans hfault, hkind⟩

/-- A result is read as the number that it spells. -/
theorem classify_of_hasResult (h : reply.HasResult text)
    (hnumeral : Hexadecimal.read? text.toList = some chainId) :
    classify reply = .ok chainId := by
  obtain ⟨hbody, herror, hresult⟩ := h
  exact (classify_of_body hbody).trans (chainIdOf_of_result herror hresult hnumeral)

/-- **There is no fourth group.** -/
theorem cases_of_reply (reply : Reply) : reply.IsLost ∨ reply.IsUnusable ∨
    ∃ text chainId, reply.HasResult text ∧ Hexadecimal.read? text.toList = some chainId := by
  cases reply with
  | failed description => exact Or.inl (.failed description)
  | answered status body =>
    by_cases hstatus : status = 200
    · subst hstatus
      cases hbody : Json.read body.toList with
      | error fault =>
        cases fault with
        | malformed fault => exact Or.inl (.malformed hbody)
        | longNumeral digits => exact Or.inr (Or.inl (.longNumeral hbody))
      | ok value =>
        rcases tellsNoChainId_or_result value with
          hvalue | ⟨members, text, chainId, rfl, herror, hresult, hnumeral⟩
        · exact Or.inr (Or.inl (.value hbody hvalue))
        · exact Or.inr (Or.inr ⟨text, chainId, .intro hbody herror hresult, hnumeral⟩)
    · exact Or.inl (.status hstatus)

variable {fault : Fault}

/-- A fault is about the surroundings or about a value, and which of them it is about tells the group
of the reply. -/
theorem group_of_fault (h : classify reply = .error fault) :
    reply.IsLost ∧ fault.kind = .runtime ∨ reply.IsUnusable ∧ fault.kind = .value := by
  rcases cases_of_reply reply with hlost | hunusable | ⟨text, chainId, hresult, hnumeral⟩
  · obtain ⟨other, hother, hruntime⟩ := kind_of_isLost hlost
    rw [h] at hother
    cases hother
    exact Or.inl ⟨hlost, hruntime⟩
  · obtain ⟨other, hother, hvalue⟩ := kind_of_isUnusable hunusable
    rw [h] at hother
    cases hother
    exact Or.inr ⟨hunusable, hvalue⟩
  · rw [classify_of_hasResult hresult hnumeral] at h
    cases h

/-- **A chain ID is learnt exactly from a result that spells it.** -/
theorem classify_eq_ok_iff : classify reply = .ok chainId ↔
    ∃ text, reply.HasResult text ∧ Hexadecimal.read? text.toList = some chainId := by
  constructor
  · intro h
    rcases cases_of_reply reply with hlost | hunusable | ⟨text, c, hresult, hnumeral⟩
    · obtain ⟨fault, hfault, -⟩ := kind_of_isLost hlost
      rw [h] at hfault
      cases hfault
    · obtain ⟨fault, hfault, -⟩ := kind_of_isUnusable hunusable
      rw [h] at hfault
      cases hfault
    · rw [classify_of_hasResult hresult hnumeral] at h
      cases h
      exact ⟨text, hresult, hnumeral⟩
  · rintro ⟨text, hresult, hnumeral⟩
    exact classify_of_hasResult hresult hnumeral

/-- **What an endpoint is asked, and what is made of its reply.**  There is one request.  It ends in
a fault of the surroundings exactly when the reply is lost, in a fault about a value exactly when it
cannot be used, and in a chain ID exactly when there is a result that spells it; and there is no
other end.  An error is what counts in a reply that has one. -/
theorem fetch_of_reply (url : String) (timeout : Json) (reply : Reply) :
    (fetch url timeout reply).requests = [⟨url, question, timeout⟩] ∧
    ((∃ fault, (fetch url timeout reply).outcome = .error fault ∧ fault.kind = .runtime) ↔
      reply.IsLost) ∧
    ((∃ fault, (fetch url timeout reply).outcome = .error fault ∧ fault.kind = .value) ↔
      reply.IsUnusable) ∧
    (∀ chainId, (fetch url timeout reply).outcome = .ok chainId ↔
      ∃ text, reply.HasResult text ∧ Hexadecimal.read? text.toList = some chainId) ∧
    (∀ fault, (fetch url timeout reply).outcome = .error fault →
      fault.kind = .runtime ∨ fault.kind = .value) ∧
    ∀ body members error, reply = .answered 200 body →
      Json.read body.toList = .ok (.object members) →
      Entries.get? members "error" = some error →
        (fetch url timeout reply).outcome = .error (.errorReply error) := by
  have houtcome : (fetch url timeout reply).outcome = classify reply := rfl
  rw [houtcome]
  refine ⟨rfl, ⟨?_, kind_of_isLost⟩, ⟨?_, kind_of_isUnusable⟩, fun _ => classify_eq_ok_iff,
    fun fault hfault => ?_, ?_⟩
  · rintro ⟨fault, hfault, hkind⟩
    rcases group_of_fault hfault with ⟨hlost, -⟩ | ⟨-, hvalue⟩
    · exact hlost
    · rw [hkind] at hvalue
      cases hvalue
  · rintro ⟨fault, hfault, hkind⟩
    rcases group_of_fault hfault with ⟨-, hruntime⟩ | ⟨hunusable, -⟩
    · rw [hkind] at hruntime
      cases hruntime
    · exact hunusable
  · exact (group_of_fault hfault).imp And.right And.right
  · rintro body members error rfl hbody herror
    rw [classify_of_body hbody, chainIdOf_of_error herror]

/-! ## Replies in full -/

/-- A text that needs no escape is the result of a reply that holds nothing else. -/
theorem hasResult_resultReply {result : List Char} (hplain : result.all Json.isPlain = true) :
    (resultReply result).HasResult (String.ofList result) := by
  obtain ⟨body, hreply, hbody⟩ := exists_body_resultReply hplain
  rw [hreply]
  refine .intro hbody ?_ ?_
  · rw [Entries.get?_cons, if_neg (by decide), Entries.get?_nil]
  · rw [Entries.get?_cons, if_pos rfl]

/-- A request that fails, an error and a result. -/
theorem fetch_of_failure_error_result :
    (∃ fault, (fetch "http://a" defaultTimeout (.failed "refused")).outcome = .error fault ∧
        fault.kind = .runtime) ∧
      (fetch "http://a" defaultTimeout
        (.answered 200 "\x7b\"error\":\"denied\"\x7d")).outcome =
          .error (.errorReply (.text "denied")) ∧
      (fetch "http://a" defaultTimeout (resultReply "0x64".toList)).outcome = .ok 100 := by
  have hfetch := fun reply => (fetch_of_reply "http://a" defaultTimeout reply).2
  have hname : "error".toList.all Json.isPlain = true := by decide
  have hvalue : "denied".toList.all Json.isPlain = true := by decide
  have hresult : (resultReply "0x64".toList).HasResult "0x64" :=
    @hasResult_resultReply "0x64".toList (by decide)
  exact ⟨(hfetch _).1.2 (.failed _),
    (hfetch _).2.2.2.2 _ _ _ rfl (Json.read_object_of_isPlain hname hvalue) rfl,
    ((hfetch _).2.2.1 100).2 ⟨_, hresult, rfl⟩⟩

/-! ## Chain IDs in replies -/

/-- **A chain ID is learnt from every spelling of it.**  Whatever number is spelled by the result of
a reply is the one that is learnt, and confirmed for the network that has it as its chain ID.  So
replies tell one chain ID only if their results spell one number. -/
theorem fetch_of_spelling (hresult : reply.HasResult text)
    (hspells : Hexadecimal.Spells text.toList n) (url : String) (timeout : Json) :
    (fetch url timeout reply).outcome = .ok n ∧
    (∀ network given env, network.chainId = n →
      (verify network given env timeout reply).requests ≠ [] →
        (verify network given env timeout reply).outcome = .ok n) ∧
    ∀ reply' text' m, reply'.HasResult text' → Hexadecimal.Spells text'.toList m →
      ((fetch url timeout reply').outcome = (fetch url timeout reply).outcome ↔ m = n) := by
  have hfetch : ∀ {reply text n}, reply.HasResult text → Hexadecimal.Spells text.toList n →
      ∀ url, (fetch url timeout reply).outcome = .ok (n : ℤ) := fun hresult hspells _ =>
    classify_of_hasResult hresult (Hexadecimal.read?_of_spells hspells)
  refine ⟨hfetch hresult hspells url, ?_, ?_⟩
  · intro network given env hchain hsent
    cases hurl : network.resolveUrl given .http env with
    | error fault => exact absurd (by rw [verify_of_error hurl]) hsent
    | ok target =>
      exact outcome_verify_eq_ok_iff.2 ⟨by rw [hchain], target, hurl, hfetch hresult hspells target⟩
  · intro reply' text' m hresult' hspells'
    rw [hfetch hresult' hspells', hfetch hresult hspells, Except.ok.injEq, Nat.cast_inj]

/-- The chain ID of a network with zeros in front, and another one without a marker. -/
theorem fetch_of_padded_spelling :
    (fetch "http://a" defaultTimeout (resultReply "0X001".toList)).outcome = .ok (1 : ℕ) ∧
      (verify devNetwork (some "http://a") (fun _ => none) defaultTimeout
        (resultReply "0X001".toList)).outcome = .ok (1 : ℕ) ∧
      ((fetch "http://a" defaultTimeout (resultReply "fF".toList)).outcome =
        (fetch "http://a" defaultTimeout (resultReply "0X001".toList)).outcome ↔ 255 = 1) := by
  have hdigits : List.Forall₂ Hexadecimal.IsDigitOf ['0', '0', '1'] [0, 0, 1] := by decide
  have hletters : List.Forall₂ Hexadecimal.IsDigitOf ['f', 'F'] [15, 15] := by decide
  have hone : Hexadecimal.Spells "0X001".toList 1 :=
    Hexadecimal.spells_of_digits .capital hdigits (by decide)
  have hother : Hexadecimal.Spells "fF".toList 255 :=
    Hexadecimal.spells_of_digits .absent hletters (by decide)
  have hreply : (resultReply "0X001".toList).HasResult "0X001" :=
    @hasResult_resultReply "0X001".toList (by decide)
  have hreply' : (resultReply "fF".toList).HasResult "fF" :=
    @hasResult_resultReply "fF".toList (by decide)
  obtain ⟨hfetched, hverified, hsame⟩ := fetch_of_spelling hreply hone "http://a" defaultTimeout
  exact ⟨hfetched, hverified devNetwork (some "http://a") _ rfl
      (by rw [verify_of_ok resolveUrl_devNetwork]; nofun), hsame _ _ _ hreply' hother⟩

end Probe
end ChainAtlas
