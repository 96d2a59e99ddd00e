import ChainAtlas.Probe
import ChainAtlas.Proofs.Json.Tokens
import ChainAtlas.Proofs.Network.Resolution
import ChainAtlas.Proofs.Numeral.Hexadecimal
import Mathlib.Tactic.NormNum

/-!
# Comparing the chain that is served with the one that is configured

A network is verified by asking one endpoint for its chain ID.  Whether anything is sent depends on
whether there is a URL (`resolveUrl_eq_error_iff`), and what is sent is one question to that URL.
The answer is compared with the chain ID of the network as a number, however long it is, so a chain
is confirmed if and only if it is the right one (`outcome_verify_eq_ok_iff`).

What does depend on the length is how a wrong chain is reported.  A number of many digits cannot be
shown, and the fault of a wrong chain shows two numbers; if one of them is too long there is a fault
of the number instead (`verify_of_answer`).  Nothing bounds the chain ID that an endpoint reports:
`read?_power` gives a numeral for each power of sixteen.
-/

namespace ChainAtlas

open Numeral Outcome

/-! ## Powers of sixteen -/

namespace Numeral
namespace Hexadecimal

/-- The spelling of a power of sixteen, with its marker. -/
def power (n : ℕ) : List Char := '0' :: 'x' :: '1' :: List.replicate n '0'

/-- Three characters are enough for a power of sixteen. -/
theorem forall_mem_power {P : Char → Prop} (hzero : P '0') (hmark : P 'x') (hone : P '1') (n : ℕ) :
    ∀ c ∈ power n, P c := by
  intro c hc
  simp only [power, List.mem_cons, List.mem_replicate] at hc
  rcases hc with rfl | rfl | rfl | ⟨-, rfl⟩ <;> assumption

/-- **There is no bound on the numbers that are read.** -/
theorem read?_power (n : ℕ) : read? (power n) = some ((16 ^ n : ℕ) : ℤ) := by
  have hone : IsDigitOf '1' 1 := by decide
  have hdigits : List.Forall₂ IsDigitOf ('1' :: List.replicate n '0') (1 :: List.replicate n 0) :=
    .cons hone (forall₂_replicate_zero n)
  rw [← ofDigits_power 16 n]
  exact read?_of_digits .small hdigits (List.cons_ne_nil _ _)

end Hexadecimal
end Numeral

namespace Probe

variable {network : Network} {given : Option String} {env : Variables} {timeout : Json}
  {reply : Reply} {url : String} {served : ℤ}

/-! ## Comparing -/

/-- The fault of a wrong chain whose number can be shown. -/
theorem mismatch_of_lt (hserved : served.natAbs < 10 ^ digitLimit)
    (hchain : network.chainId < 10 ^ digitLimit) :
    mismatch network url served =
      .chainIdMismatch url served network.name network.chainId := by
  have hshown : isShowable served = true ∧ isShowable network.chainId = true :=
    ⟨isShowable_iff.2 hserved, isShowable_iff.2 hchain⟩
  rw [mismatch, hshown.1, hshown.2]
  rfl

/-- The fault of a wrong chain if there is a number that is too long to be shown. -/
theorem mismatch_of_le
    (h : 10 ^ digitLimit ≤ served.natAbs ∨ 10 ^ digitLimit ≤ network.chainId) :
    mismatch network url served = .longNumber := by
  have hhidden : ¬ (isShowable served && isShowable network.chainId) = true := by
    rw [Bool.and_eq_true, isShowable_iff, isShowable_iff, Int.natAbs_natCast, not_and_or,
      Nat.not_lt, Nat.not_lt]
    exact h
  rw [mismatch, if_neg hhidden]

/-! ## Replies with a result -/

/-- The reply of an endpoint that has a text as its only member, as the result. -/
def resultReply (result : List Char) : Reply :=
  .answered 200 (String.ofList ('\x7b' :: '\x22' :: (("result".toList ++ ['\x22']) ++
    ':' :: '\x22' :: ((result ++ ['\x22']) ++ ['\x7d']))))

/-- A result that needs no escape is read as it is. -/
theorem exists_body_resultReply {result : List Char} (hplain : result.all Json.isPlain = true) :
    ∃ body, resultReply result = .answered 200 body ∧
      Json.read body.toList = .ok (.object [("result", .text (String.ofList result))]) := by
  have hname : "result".toList.all Json.isPlain = true := by decide
  refine ⟨_, rfl, ?_⟩
  rw [String.toList_ofList]
  exact Json.read_object_of_isPlain hname hplain

/-- The chain ID in it is the number that the result spells. -/
theorem classify_resultReply {result : List Char} (hplain : result.all Json.isPlain = true)
    (hread : Hexadecimal.read? result = some served) :
    classify (resultReply result) = .ok served := by
  obtain ⟨body, hreply, hbody⟩ := exists_body_resultReply hplain
  rw [hreply, classify, if_neg (by decide), hbody]
  show chainIdOf (.object [("result", .text (String.ofList result))]) = .ok served
  have hmember : ((Entries.get? [("result", Json.text (String.ofList result))] "result").bind
      Json.text?).bind (fun text => Hexadecimal.read? text.toList) = some served := by
    rw [Entries.get?_cons, if_pos rfl, Option.bind_some, Json.text?, Option.bind_some,
      String.toList_ofList, hread]
  rw [chainIdOf, Entries.get?_cons, if_neg (by decide), Entries.get?_nil]
  show resultChainId _ _ = _
  rw [resultChainId, hmember]

/-! ## Verifying -/

theorem verify_of_error {fault : Fault} (h : network.resolveUrl given .http env = .error fault) :
    verify network given env timeout reply = ⟨.error fault, []⟩ := by
  rw [verify, h]

theorem verify_of_ok (h : network.resolveUrl given .http env = .ok url) :
    verify network given env timeout reply =
      ⟨(fetch url timeout reply).outcome >>= confirm network url,
        [⟨url, question, timeout⟩]⟩ := by
  rw [verify, h]
  rfl

/-- Where there is a URL it is asked, once. -/
theorem requests_verify_of_ok (h : network.resolveUrl given .http env = .ok url) :
    (verify network given env timeout reply).requests = [⟨url, question, timeout⟩] := by
  rw [verify_of_ok h]

/-- **A chain is confirmed if and only if it is the one that is configured.** -/
theorem outcome_verify_eq_ok_iff : (verify network given env timeout reply).outcome = .ok served ↔
    served = network.chainId ∧ ∃ url, network.resolveUrl given .http env = .ok url ∧
      (fetch url timeout reply).outcome = .ok served := by
  cases hurl : network.resolveUrl given .http env with
  | error fault => simp [verify_of_error hurl]
  | ok url =>
    rw [verify_of_ok hurl, bind_eq_ok_iff]
    constructor
    · rintro ⟨c, hc, hconfirm⟩
      rw [confirm] at hconfirm
      split_ifs at hconfirm with heq
      cases hconfirm
      exact ⟨heq, url, rfl, hc⟩
    · rintro ⟨heq, _, ⟨⟩, hc⟩
      exact ⟨served, hc, if_pos heq⟩

/-- A wrong chain is reported with whatever fault there is for it. -/
theorem outcome_verify_of_ne (hurl : network.resolveUrl given .http env = .ok url)
    (hserved : (fetch url timeout reply).outcome = .ok served) (hne : served ≠ network.chainId) :
    (verify network given env timeout reply).outcome = .error (mismatch network url served) := by
  rw [verify_of_ok hurl, hserved]
  exact if_neg hne

/-- **Verifying a network.**  Without a URL nothing is sent.  With one there is one request, to it;
a fault of the answer is passed on, the right chain is confirmed, and a wrong one is reported as
such unless one of the two chain IDs is too long to be shown. -/
theorem verify_of_answer (network : Network) (given : Option String) (env : Variables)
    (timeout : Json) (reply : Reply) :
    (∀ fault, network.resolveUrl given .http env = .error fault →
      verify network given env timeout reply = ⟨.error fault, []⟩ ∧ fault.kind = .noEndpoint) ∧
    ∀ url, network.resolveUrl given .http env = .ok url →
      (verify network given env timeout reply).requests = [⟨url, question, timeout⟩] ∧
      (∀ fault, (fetch url timeout reply).outcome = .error fault →
        (verify network given env timeout reply).outcome = .error fault) ∧
      ∀ served, (fetch url timeout reply).outcome = .ok served →
        (served = network.chainId →
          (verify network given env timeout reply).outcome = .ok served) ∧
        (served ≠ network.chainId →
          served.natAbs < 10 ^ digitLimit ∧ network.chainId < 10 ^ digitLimit →
            (verify network given env timeout reply).outcome =
              .error (.chainIdMismatch url served network.name network.chainId)) ∧
        (served ≠ network.chainId →
          10 ^ digitLimit ≤ served.natAbs ∨ 10 ^ digitLimit ≤ network.chainId →
            (verify network given env timeout reply).outcome = .error .longNumber) := by
  constructor
  · intro fault hfault
    obtain ⟨-, -, -, rfl⟩ := Network.resolveUrl_eq_error_iff.1 hfault
    exact ⟨verify_of_error hfault, rfl⟩
  · intro url hurl
    refine ⟨by rw [verify_of_ok hurl], fun fault hfault => ?_, fun served hserved => ?_⟩
    · rw [verify_of_ok hurl]
      exact bind_eq_error_iff.2 (Or.inl hfault)
    · refine ⟨fun heq => outcome_verify_eq_ok_iff.2 ⟨heq, url, hurl, hserved⟩,
        fun hne hshort => ?_, fun hne hlong => ?_⟩
      · rw [outcome_verify_of_ne hurl hserved hne, mismatch_of_lt hshort.1 hshort.2]
      · rw [outcome_verify_of_ne hurl hserved hne, mismatch_of_le hlong]

/-! ## A network, and a chain ID that is too long -/

/-- A network with a chain ID, a name and nothing else. -/
def devNetwork : Network where
  name := "dev"
  chainId := 1
  environment := "development"
  contracts := .empty
  endpoints := []
  displayName := none
  currency := none
  explorerUrl := none
  graphUrl := none
  entryPoints := []
  name_ne_empty := by decide
  chainId_pos := Nat.one_pos

theorem resolveUrl_devNetwork :
    devNetwork.resolveUrl (some "http://a") .http (fun _ => none) = .ok "http://a" := rfl

theorem outcome_fetch_power (url : String) (timeout : Json) (n : ℕ) :
    (fetch url timeout (resultReply (Hexadecimal.power n))).outcome = .ok ((16 ^ n : ℕ) : ℤ) := by
  have hplain : (Hexadecimal.power n).all Json.isPlain = true :=
    List.all_eq_true.2 (Hexadecimal.forall_mem_power (by decide) (by decide) (by decide) n)
  exact classify_resultReply hplain (Hexadecimal.read?_power n)

theorem pow_digitLimit_le : 10 ^ digitLimit ≤ ((16 ^ 3600 : ℕ) : ℤ).natAbs :=
  calc 10 ^ digitLimit = (10 ^ 43) ^ 100 := by rw [digitLimit, ← pow_mul]
    _ ≤ (16 ^ 36) ^ 100 := Nat.pow_le_pow_left (by norm_num) 100
    _ = 16 ^ 3600 := by rw [← pow_mul]
    _ = ((16 ^ 3600 : ℕ) : ℤ).natAbs := (Int.natAbs_natCast _).symm

theorem power_ne_chainId {n : ℕ} (hn : n ≠ 0) : ((16 ^ n : ℕ) : ℤ) ≠ devNetwork.chainId := by
  have hlarge : 1 < 16 ^ n := Nat.one_lt_pow hn (by norm_num)
  exact_mod_cast hlarge.ne'

/-- A network without a URL, a request that fails, an answer with the right chain ID, one with a
wrong one, and one with a wrong one that is too long. -/
theorem verify_devNetwork :
    verify devNetwork none (fun _ => none) defaultTimeout (.failed "refused") =
        ⟨.error (.noEndpointOf .http "dev" (Network.overrideVariable "dev")), []⟩ ∧
      (verify devNetwork (some "http://a") (fun _ => none) defaultTimeout
          (.failed "refused")).outcome = .error (.transport "refused") ∧
      (verify devNetwork (some "http://a") (fun _ => none) defaultTimeout
          (resultReply (Hexadecimal.power 0))).outcome = .ok ((16 ^ 0 : ℕ) : ℤ) ∧
      (verify devNetwork (some "http://a") (fun _ => none) defaultTimeout
          (resultReply (Hexadecimal.power 1))).outcome =
        .error (.chainIdMismatch "http://a" ((16 ^ 1 : ℕ) : ℤ) "dev" 1) ∧
      (verify devNetwork (some "http://a") (fun _ => none) defaultTimeout
          (resultReply (Hexadecimal.power 3600))).outcome = .error .longNumber := by
  have hnone : devNetwork.resolveUrl none .http (fun _ => none) =
      .error (.noEndpointOf .http "dev" (Network.overrideVariable "dev")) := rfl
  have hanswer := fun reply =>
    (verify_of_answer devNetwork (some "http://a") (fun _ => none) defaultTimeout reply).2 _
      resolveUrl_devNetwork
  have hserved := fun n => (hanswer _).2.2 _ (outcome_fetch_power "http://a" defaultTimeout n)
  exact ⟨((verify_of_answer devNetwork none _ defaultTimeout _).1 _ hnone).1,
    (hanswer _).2.1 _ rfl, (hserved 0).1 rfl,
    (hserved 1).2.1 (power_ne_chainId (by decide))
      ⟨lt_pow_digitLimit (by decide), lt_pow_digitLimit (by decide)⟩,
    (hserved 3600).2.2 (power_ne_chainId (by decide)) (Or.inl pow_digitLimit_le)⟩

/-- A wrong chain ID that is too long is not reported as a wrong chain ID. -/
theorem verify_misses_mismatch :
    ¬ ∀ (network : Network) (given : Option String) (env : Variables) (timeout : Json)
      (reply : Reply) (url : String) (served : ℤ),
      network.resolveUrl given .http env = .ok url →
      (fetch url timeout reply).outcome = .ok served → served ≠ network.chainId →
        ∃ fault, (verify network given env timeout reply).outcome = .error fault ∧
          fault.kind = .chainIdMismatch := by
  intro h
  have hserved := outcome_fetch_power "http://a" defaultTimeout 3600
  have hne : ((16 ^ 3600 : ℕ) : ℤ) ≠ devNetwork.chainId := power_ne_chainId (by decide)
  obtain ⟨fault, hfault, hkind⟩ :=
    h devNetwork (some "http://a") (fun _ => none) _ _ _ _ resolveUrl_devNetwork hserved hne
  rw [outcome_verify_of_ne resolveUrl_devNetwork hserved hne,
    mismatch_of_le (Or.inl pow_digitLimit_le)] at hfault
  cases hfault
  cases hkind

end Probe
end ChainAtlas
