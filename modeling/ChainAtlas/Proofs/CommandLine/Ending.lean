import ChainAtlas.CommandLine.Process
import ChainAtlas.Proofs.CommandLine.Reporting

/-!
# How a command ends

A command is a chain of calls of the library, of a question to an endpoint, and of texts that are made
of what they return.  `result` is this chain and nothing else: the answer, or what the first link of
the chain fails with.  A run has handlers around some parts of the chain, each of which reports some
families of faults.  The two agree (`finish_run`): a run leads to the same finish as its result.

What a failure leads to depends on where it comes up (`Failure.finish`).  The calls of the library are
made inside of handlers, and these report every fault that the calls have.  The texts are made outside
of all handlers, so a fault of theirs passes through the command.  A text about a chain ID never has
one, since the chain IDs of shipped networks are short (`isShowable_of_registry`).
-/

namespace ChainAtlas
namespace CommandLine

open Numeral Outcome

/-! ## What a command results in -/

/-- Why a command has no answer. -/
inductive Failure where
  /-- Two options exclude each other. -/
  | conflict
  /-- A call of the library fails. -/
  | fault (cause : Fault)
  /-- A text to be printed cannot be made. -/
  | text (cause : Fault)
  /-- Asking an endpoint has raised an exception. -/
  | exception (cause : Exception)

namespace Failure

/-- The text of a failure. -/
def message : Failure → String
  | .conflict => Selection.conflictMessage
  | .fault cause | .text cause => cause.message
  | .exception cause => cause.message

/-- Whether a command reports a failure. -/
def IsReported : Failure → Prop
  | .conflict | .fault _ => True
  | .text _ => False
  | .exception cause => cause.isReported = true

/-- How a process finishes where a command fails. -/
def finish (s : Surroundings) : Failure → Finish
  | .conflict => s.exit 1 (.failure Selection.conflictMessage)
  | .fault cause => s.exit 1 (.failure cause.message)
  | .text cause => .fell cause
  | .exception cause => cause.finish s

theorem finish_of_isReported {failure : Failure} (h : failure.IsReported) (s : Surroundings) :
    failure.finish s = s.exit 1 (.failure failure.message) := by
  cases failure with
  | conflict => rfl
  | fault cause => rfl
  | text cause => exact h.elim
  | exception cause => exact if_pos h

end Failure

/-- How a process finishes where a command comes to a result. -/
def Surroundings.conclude (s : Surroundings) : Except Failure Output → Finish
  | .ok output => s.exit 0 (.answer output)
  | .error failure => failure.finish s

/-- What is to be had from the transport, as a link of a chain. -/
def Surroundings.ask (s : Surroundings) (request : Request) : Except Failure Reply :=
  (s.send request).mapError .exception

/-- Something that shows a whole number, which must not be too long. -/
def showing {α : Type} (n : ℤ) (a : α) : Except Fault α :=
  if isShowable n then .ok a else .error .longNumber

/-- The registry that is selected. -/
def Selection.resolve (selection : Selection) (env : Variables) : Except Failure Registry :=
  if selection.isConflicting then .error .conflict
  else (selection.registry env).mapError .fault

/-- The network of a name in the registry that is selected. -/
def Selection.target (selection : Selection) (env : Variables) (network : String) :
    Except Failure Network := do
  let registry ← selection.resolve env
  (registry.get network).mapError .fault

/-- The operation of a method with its encoded argument. -/
def encodedCall (method : String) (value : Option String) :
    Except Fault (Operation × Option Argument) := do
  let op ← Operation.ofMethod method
  return (op, ← op.encode value)

/-- The address of a contract in a registry. -/
def contractOf (registry : Registry) (network contract : String) : Except Fault Address := do
  (← registry.get network).contract contract

namespace Command

/-- What a command results in, given what comes of asking an endpoint. -/
def result (command : Command) (env : Variables) (ask : Request → Except Failure Reply) :
    Except Failure Output :=
  match command with
  | .networks selection => do
    let registry ← selection.resolve env
    let _ ← (registry.values.mapM fun n => showing n.chainId n).mapError .text
    return networkTable registry
  | .address network contract selection => do
    let registry ← selection.resolve env
    let address ← (contractOf registry network contract).mapError .fault
    return .line address.text
  | .rpc network protocol selection => do
    let n ← selection.target env network
    let url ← (n.resolveUrl none protocol env).mapError .fault
    return .line url
  | .check network given selection => do
    let n ← selection.target env network
    let url ← (n.resolveUrl given .http env).mapError .fault
    let reply ← ask ⟨url, Probe.question, Probe.defaultTimeout⟩
    let chainId ← (Probe.classify reply >>= Probe.confirm n url).mapError .fault
    (showing chainId (.confirmation (confirmation n chainId))).mapError .text
  | .configOp method value network selection => do
    let (op, argument) ← (encodedCall method value).mapError .fault
    let text ← (argument.mapM Argument.text).mapError .text
    match network with
    | none => return .sheet (operationRows op text)
    | some network =>
      let registry ← selection.resolve env
      let address ← (contractOf registry network configContract).mapError .fault
      return .sheet (operationRows op text ++ [("Contract", address.text)])

/-- Whether the argument of a command is encoded as a number of too many digits. -/
def HasLongArgument : Command → Prop
  | .configOp method value _ _ =>
    ∃ op n, encodedCall method value = .ok (op, some (.number n)) ∧ 10 ^ digitLimit ≤ n
  | _ => False

end Command

/-! ## Chains with handlers -/

variable {α : Type} {env : Variables} {reply : Reply} {selection : Selection} {registry : Registry}
  {s : Surroundings} {arguments : List String}

/-- A handler makes no difference where it reports every fault that there is. -/
theorem finish_attempt {reported : List Family} {x : Except Fault α} {next : α → Run}
    {f : α → Except Failure Output} (hx : FaultsIn (IsReportedBy reported) x)
    (hnext : ∀ a, x = .ok a → (next a).ending.finish s arguments = s.conclude (f a)) :
    (Run.attempt reported x next).ending.finish s arguments =
      s.conclude (x.mapError .fault >>= f) := by
  cases hresult : x with
  | ok a => exact hnext a hresult
  | error fault =>
    obtain ⟨family, hkind, hreported⟩ := hx fault hresult
    rw [Run.attempt, Run.ending_ofFault hkind hreported]
    rfl

/-- Without a handler a fault passes through. -/
theorem finish_attempt_nil {x : Except Fault α} {next : α → Run} {f : α → Except Failure Output}
    (hnext : ∀ a, (next a).ending.finish s arguments = s.conclude (f a)) :
    (Run.attempt [] x next).ending.finish s arguments = s.conclude (x.mapError .text >>= f) := by
  cases x with
  | ok a => exact hnext a
  | error fault =>
    have hnone : fault.kind.families.any (List.contains []) = false :=
      List.any_eq_false.2 fun _ _ => Bool.false_ne_true
    rw [Run.attempt, Run.ofFault, hnone]
    rfl

/-- A registry that is selected is there, or it is reported why not. -/
theorem finish_withRegistry {next : Registry → Run} {f : Registry → Except Failure Output}
    (hnext : ∀ r, selection.registry env = .ok r →
      (next r).ending.finish s arguments = s.conclude (f r)) :
    (selection.withRegistry env next).ending.finish s arguments =
      s.conclude (selection.resolve env >>= f) := by
  rw [Selection.withRegistry, Selection.resolve]
  split
  · rfl
  · exact finish_attempt (selection.registry_faultsIn (by decide) env) hnext

/-- The chain ID of a network that is selected can be shown. -/
theorem isShowable_of_registry (hr : selection.registry env = .ok registry) {n : Network}
    (hn : n ∈ registry.values) : isShowable n.chainId = true := by
  obtain ⟨document, environment, hshipped, hdocument⟩ :
      ∃ document environment, Catalog.IsShipped document ∧
        Registry.ofDocument document environment = .ok registry := by
    rw [Selection.registry] at hr
    split at hr
    · obtain ⟨document, hdocument⟩ := Catalog.exists_isShipped_of_loadSelected hr
      exact ⟨document, _, hdocument⟩
    · obtain ⟨document, hdocument⟩ := Catalog.exists_isShipped_of_load hr
      exact ⟨document, _, hdocument⟩
  have hlimit : 1000000 ≤ 10 ^ digitLimit :=
    calc 1000000 = 10 ^ 6 := rfl
      _ ≤ 10 ^ digitLimit := Nat.pow_le_pow_right (by decide) (by decide)
  exact isShowable_natCast_iff.2
    ((Catalog.chainId_lt_of_ofDocument hshipped hdocument hn).trans_le hlimit)

theorem mapM_showing (hr : selection.registry env = .ok registry) :
    registry.values.mapM (fun n => showing n.chainId n) = .ok registry.values := by
  refine mapM_eq_ok_iff.2 (List.forall₂_same.2 fun n hn => ?_)
  exact if_pos (isShowable_of_registry hr hn)

/-- The text about the chain ID that was confirmed can be made. -/
theorem showing_of_confirm (hr : selection.registry env = .ok registry) {network url : String}
    {n : Network} (hn : registry.get network = .ok n) {served chainId : ℤ}
    (hconfirm : Probe.confirm n url served = .ok chainId) (a : α) : showing chainId a = .ok a := by
  have hshown : isShowable n.chainId = true :=
    isShowable_of_registry hr (Registry.mem_values_iff.2 ⟨network, hn⟩)
  rw [Probe.confirm] at hconfirm
  split at hconfirm
  · next heq =>
    cases hconfirm
    rw [showing, heq, if_pos hshown]
  · cases hconfirm

theorem contractOf_faultsIn (registry : Registry) (network contract : String) :
    FaultsIn (IsReportedBy [.configuration]) (contractOf registry network contract) :=
  .bind (registry.get_faultsIn (by decide) network) fun n =>
    n.contract_faultsIn (by decide) contract

theorem encodedCall_faultsIn (method : String) (value : Option String) :
    FaultsIn (IsReportedBy [.configuration, .value]) (encodedCall method value) :=
  .bind (Operation.ofMethod_faultsIn (by decide) method) fun op =>
    .bind (op.encode_faultsIn (by decide) value) fun _ => .ok _

/-! ## The commands -/

theorem finish_networks (hr : selection.registry env = .ok registry) :
    (Run.answer (networkTable registry)).ending.finish s arguments = s.conclude
      ((registry.values.mapM fun n => showing n.chainId n).mapError .text >>= fun _ =>
        pure (networkTable registry)) := by
  rw [mapM_showing hr]
  rfl

theorem finish_runAddress (network contract : String) (registry : Registry) :
    (runAddress network contract registry).ending.finish s arguments = s.conclude
      ((contractOf registry network contract).mapError .fault >>= fun address =>
        pure (.line address.text)) :=
  finish_attempt (contractOf_faultsIn registry network contract) fun _ _ => rfl

theorem finish_runRpc (network : String) (protocol : Protocol) (env : Variables)
    (registry : Registry) :
    (runRpc network protocol env registry).ending.finish s arguments = s.conclude
      ((registry.get network).mapError .fault >>= fun n =>
        (n.resolveUrl none protocol env).mapError .fault >>= fun url => pure (.line url)) := by
  refine finish_attempt (registry.get_faultsIn (by decide) network) fun n _ => ?_
  have hchosen : FaultsIn (IsReportedBy [.configuration]) (n.chooseUrl none protocol env) := by
    intro fault hfault
    exact n.resolveUrl_faultsIn (by decide) none protocol env fault (map_eq_error_iff.2 hfault)
  rw [Run.ending_noted, Network.resolveUrl,
    finish_attempt (f := fun chosen => pure (.line chosen.url)) hchosen fun _ _ => rfl]
  cases n.chooseUrl none protocol env <;> rfl

/-- Verifying a network as a chain of its own: the URL, the chain ID in the reply, the comparison. -/
theorem outcome_verify_mapError (n : Network) (given : Option String) (env : Variables)
    (reply : Reply) :
    (Probe.verify n given env Probe.defaultTimeout reply).outcome.mapError Failure.fault =
      (n.resolveUrl given .http env).mapError .fault >>= fun url =>
        (Probe.classify reply >>= Probe.confirm n url).mapError .fault := by
  cases hurl : n.resolveUrl given .http env with
  | error fault =>
    rw [Probe.verify_of_error hurl]
    rfl
  | ok url =>
    rw [Probe.verify_of_ok hurl]
    rfl

theorem finish_runCheck (hr : selection.registry env = .ok registry) (network : String)
    (given : Option String) (reply : Reply) :
    (runCheck network given env reply registry).ending.finish s arguments = s.conclude
      ((registry.get network).mapError .fault >>= fun n =>
        (n.resolveUrl given .http env).mapError .fault >>= fun url =>
          (Probe.classify reply >>= Probe.confirm n url).mapError .fault >>= fun chainId =>
            (showing chainId (.confirmation (confirmation n chainId))).mapError .text) := by
  refine finish_attempt (registry.get_faultsIn (by decide) network) fun n hn => ?_
  rw [← bind_assoc, ← outcome_verify_mapError n given env reply]
  refine finish_attempt (Probe.outcome_verify_faultsIn (by decide) (by decide) (by decide) n given
    env Probe.defaultTimeout reply) fun chainId hchainId => ?_
  have hconfirm : Probe.confirm n "" chainId = .ok chainId :=
    if_pos (Probe.outcome_verify_eq_ok_iff.1 hchainId).1
  rw [showing_of_confirm hr hn hconfirm]
  rfl

theorem finish_runConfigOp (method : String) (value network : Option String)
    (selection : Selection) (env : Variables) (ask : Request → Except Failure Reply) :
    (runConfigOp method value network selection env).ending.finish s arguments =
      s.conclude ((Command.configOp method value network selection).result env ask) := by
  refine finish_attempt (encodedCall_faultsIn method value) fun ⟨op, argument⟩ _ =>
    finish_attempt_nil fun text => ?_
  cases network with
  | none => rfl
  | some network =>
    exact finish_withRegistry fun registry _ =>
      finish_attempt (contractOf_faultsIn registry network configContract) fun _ _ => rfl

/-- **A run leads to the finish of what its command results in**, the reply being known. -/
theorem finish_run (command : Command) (env : Variables) (reply : Reply) :
    (command.run env reply).ending.finish s arguments =
      s.conclude (command.result env fun _ => .ok reply) := by
  cases command with
  | networks selection => exact finish_withRegistry fun registry hr => finish_networks hr
  | address network contract selection =>
    exact finish_withRegistry fun registry _ => finish_runAddress network contract registry
  | rpc network protocol selection =>
    rw [Command.result, Selection.target, bind_assoc]
    exact finish_withRegistry fun registry _ => finish_runRpc network protocol env registry
  | check network given selection =>
    rw [Command.result, Selection.target, bind_assoc]
    exact finish_withRegistry fun registry hr => finish_runCheck hr network given reply
  | configOp method value network selection =>
    exact finish_runConfigOp method value network selection env _

/-! ## Failures of calls -/

/-- Whether a failure is one of a call of the library. -/
def Failure.IsOwn : Failure → Prop
  | .conflict | .fault _ => True
  | .text _ | .exception _ => False

theorem Failure.IsOwn.isReported {failure : Failure} (h : failure.IsOwn) : failure.IsReported := by
  cases failure <;> first | exact trivial | exact h.elim

theorem isOwn_mapError (x : Except Fault α) : FaultsIn Failure.IsOwn (x.mapError .fault) := by
  intro failure hfailure
  obtain ⟨cause, -, rfl⟩ := mapError_eq_error_iff.1 hfailure
  trivial

theorem Selection.isOwn_resolve (selection : Selection) (env : Variables) :
    FaultsIn Failure.IsOwn (selection.resolve env) := by
  rw [Selection.resolve]
  split
  · exact .error trivial
  · exact isOwn_mapError _

theorem Selection.isOwn_target (selection : Selection) (env : Variables) (network : String) :
    FaultsIn Failure.IsOwn (selection.target env network) :=
  .bind (selection.isOwn_resolve env) fun _ => isOwn_mapError _

theorem Selection.registry_of_resolve (h : selection.resolve env = .ok registry) :
    selection.registry env = .ok registry := by
  rw [Selection.resolve] at h
  split at h
  · cases h
  · exact mapError_eq_ok_iff.1 h

end CommandLine
end ChainAtlas
