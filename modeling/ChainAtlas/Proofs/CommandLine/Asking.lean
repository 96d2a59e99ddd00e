import ChainAtlas.Proofs.CommandLine.Ending

/-!
# What a command asks

A command asks one question or none.  Which of the two it is depends on the command and on the
variables, and not on any reply (`Command.request?`).  A run makes the request that its command asks
for (`Command.requests_run`), and what a command results in depends on what comes of this request and
on nothing else that could be asked (`Command.result_of_request?_eq_some`).

So a process, which asks for the request by a run with a reply that tells nothing, and runs again with
the reply that it gets, comes to what its command results in (`process_of_perform`).
-/

namespace ChainAtlas
namespace CommandLine

open Outcome

variable {α : Type} {env : Variables} {reply : Reply} {selection : Selection} {network : String}
  {s : Surroundings} {arguments : List String}

/-! ## The requests of a run -/

/-- Where there is no result there is no request. -/
theorem requests_attempt (reported : List Family) (x : Except Fault α) (next : α → Run) :
    (Run.attempt reported x next).requests =
      match x with
      | .ok a => (next a).requests
      | .error _ => [] := by
  cases x with
  | ok a => rfl
  | error fault => exact Run.requests_ofFault reported fault

/-- Where there is no registry there is no request. -/
theorem requests_withRegistry (selection : Selection) (env : Variables) (next : Registry → Run) :
    (selection.withRegistry env next).requests =
      match selection.resolve env with
      | .ok registry => (next registry).requests
      | .error _ => [] := by
  rw [Selection.withRegistry, Selection.resolve]
  split
  · rfl
  · rw [requests_attempt]
    cases selection.registry env <;> rfl

theorem requests_attempt_eq_nil {reported : List Family} {x : Except Fault α} {next : α → Run}
    (hnext : ∀ a, (next a).requests = []) : (Run.attempt reported x next).requests = [] := by
  rw [requests_attempt]
  cases x with
  | ok a => exact hnext a
  | error fault => rfl

theorem requests_withRegistry_eq_nil {next : Registry → Run}
    (hnext : ∀ registry, (next registry).requests = []) :
    (selection.withRegistry env next).requests = [] := by
  rw [requests_withRegistry]
  cases selection.resolve env with
  | ok registry => exact hnext registry
  | error failure => rfl

namespace Command

/-- The request that a check makes, if it comes to a URL. -/
def checkRequest? (selection : Selection) (env : Variables) (network : String)
    (given : Option String) : Option Request :=
  match selection.target env network with
  | .error _ => none
  | .ok n =>
    match n.resolveUrl given .http env with
    | .error _ => none
    | .ok url => some ⟨url, Probe.question, Probe.defaultTimeout⟩

/-- The request that a command makes, if there is one. -/
def request? (command : Command) (env : Variables) : Option Request :=
  match command with
  | .check network given selection => checkRequest? selection env network given
  | _ => none

theorem checkRequest?_of_error {given : Option String} {failure : Failure}
    (h : selection.target env network = .error failure) :
    checkRequest? selection env network given = none := by
  rw [checkRequest?, h]

theorem checkRequest?_of_ok {n : Network} (h : selection.target env network = .ok n)
    (given : Option String) :
    checkRequest? selection env network given =
      match n.resolveUrl given .http env with
      | .error _ => none
      | .ok url => some ⟨url, Probe.question, Probe.defaultTimeout⟩ := by
  rw [checkRequest?, h]

theorem checkRequest?_eq_some_iff {given : Option String} {request : Request} :
    checkRequest? selection env network given = some request ↔
      ∃ n url, selection.target env network = .ok n ∧ n.resolveUrl given .http env = .ok url ∧
        request = ⟨url, Probe.question, Probe.defaultTimeout⟩ := by
  constructor
  · intro h
    cases htarget : selection.target env network with
    | error failure =>
      rw [checkRequest?_of_error htarget] at h
      cases h
    | ok n =>
      rw [checkRequest?_of_ok htarget] at h
      split at h
      · cases h
      · next url hurl => exact ⟨n, url, rfl, hurl, (Option.some.inj h).symm⟩
  · rintro ⟨n, url, htarget, hurl, rfl⟩
    rw [checkRequest?_of_ok htarget, hurl]

/-- A check makes the requests that verifying its network makes. -/
theorem requests_check {given : Option String} :
    ((Command.check network given selection).run env reply).requests =
      match selection.target env network with
      | .ok n => (Probe.verify n given env Probe.defaultTimeout reply).requests
      | .error _ => [] := by
  rw [run, requests_withRegistry, Selection.target]
  cases selection.resolve env with
  | error failure => rfl
  | ok registry =>
    show (runCheck network given env reply registry).requests =
      match (registry.get network).mapError Failure.fault with
      | .ok n => (Probe.verify n given env Probe.defaultTimeout reply).requests
      | .error _ => []
    rw [runCheck, requests_attempt]
    cases registry.get network <;> rfl

/-- **A run makes the request of its command**, whatever the reply will be. -/
theorem requests_run (command : Command) (env : Variables) (reply : Reply) :
    (command.run env reply).requests = (command.request? env).toList := by
  cases command with
  | networks selection => exact requests_withRegistry_eq_nil fun _ => rfl
  | address network contract selection =>
    exact requests_withRegistry_eq_nil fun _ => requests_attempt_eq_nil fun _ => rfl
  | rpc network protocol selection =>
    exact requests_withRegistry_eq_nil fun _ => requests_attempt_eq_nil fun _ =>
      requests_attempt_eq_nil fun _ => rfl
  | check network given selection =>
    rw [requests_check, request?]
    cases htarget : selection.target env network with
    | error failure => rw [checkRequest?_of_error htarget, Option.toList_none]
    | ok n =>
      rw [checkRequest?_of_ok htarget given]
      show (Probe.verify n given env Probe.defaultTimeout reply).requests = _
      cases hurl : n.resolveUrl given .http env with
      | error fault => rw [Probe.verify_of_error hurl, Option.toList_none]
      | ok url => rw [Probe.requests_verify_of_ok hurl, Option.toList_some]
  | configOp method value network selection =>
    refine requests_attempt_eq_nil fun ⟨op, argument⟩ => requests_attempt_eq_nil fun text => ?_
    cases network with
    | none => rfl
    | some network =>
      exact requests_withRegistry_eq_nil fun _ => requests_attempt_eq_nil fun _ => rfl

/-! ## What depends on a reply -/

/-- Where nothing is asked nothing depends on a reply. -/
theorem result_of_request?_eq_none {command : Command} (h : command.request? env = none)
    (ask ask' : Request → Except Failure Reply) :
    command.result env ask = command.result env ask' := by
  cases command with
  | check network given selection =>
    rw [result, result]
    cases htarget : selection.target env network with
    | error failure => rfl
    | ok n =>
      rw [request?, checkRequest?_of_ok htarget] at h
      show (n.resolveUrl given .http env).mapError Failure.fault >>= _ =
        (n.resolveUrl given .http env).mapError Failure.fault >>= _
      cases hurl : n.resolveUrl given .http env with
      | error fault => rfl
      | ok url =>
        rw [hurl] at h
        cases h
  | _ => rfl

theorem exists_next_of_request? {command : Command} {request : Request}
    (h : command.request? env = some request) : ∃ next : Reply → Except Failure Output,
      ∀ ask, command.result env ask = ask request >>= next := by
  cases command with
  | check network given selection =>
    obtain ⟨n, url, htarget, hurl, rfl⟩ := checkRequest?_eq_some_iff.1 h
    refine ⟨fun reply =>
      (Probe.classify reply >>= Probe.confirm n url).mapError .fault >>= fun chainId =>
        (showing chainId (.confirmation (confirmation n chainId))).mapError .text, fun ask => ?_⟩
    rw [result, htarget]
    show (n.resolveUrl given .http env).mapError Failure.fault >>= _ = _
    rw [hurl]
    rfl
  | _ => cases h

/-- **A command asks for its request, and goes on with the reply.** -/
theorem result_of_request?_eq_some {command : Command} {request : Request}
    (h : command.request? env = some request) (ask : Request → Except Failure Reply) :
    command.result env ask =
      ask request >>= fun reply => command.result env fun _ => .ok reply := by
  obtain ⟨next, hnext⟩ := exists_next_of_request? h
  rw [hnext ask]
  exact bind_congr fun reply => (hnext fun _ => .ok reply).symm

end Command

/-! ## Processes -/

theorem runArguments_of_perform {debug : Bool} {command : Command}
    (h : Invocation.ofArguments arguments = .perform debug command) :
    (runArguments arguments env reply).ending = (command.run env reply).ending ∧
      (runArguments arguments env reply).requests = (command.run env reply).requests := by
  rw [runArguments, h]
  exact ⟨rfl, rfl⟩

/-- The finish of a run is known from what its command results in, given the reply. -/
theorem finish_runArguments {debug : Bool} {command : Command}
    (h : Invocation.ofArguments arguments = .perform debug command) (s : Surroundings)
    (env : Variables) (reply : Reply) :
    (runArguments arguments env reply).ending.finish s arguments =
      s.conclude (command.result env fun _ => .ok reply) := by
  rw [(runArguments_of_perform h).1, finish_run]

/-- **A process finishes with what its command results in, and asks what its command asks.** -/
theorem process_of_perform {debug : Bool} {command : Command}
    (h : Invocation.ofArguments arguments = .perform debug command) :
    (process arguments s).finish = s.conclude (command.result s.env s.ask) ∧
      (process arguments s).requests = (command.request? s.env).toList := by
  have hrequests : ∀ reply, (runArguments arguments s.env reply).requests =
      (command.request? s.env).toList := fun reply => by
    rw [(runArguments_of_perform h).2, Command.requests_run]
  have hfinish := finish_runArguments h s s.env
  cases hrequest : command.request? s.env with
  | none =>
    rw [hrequest] at hrequests
    rw [process_of_nil (hrequests noReply),
      Command.result_of_request?_eq_none hrequest s.ask fun _ => .ok noReply]
    exact ⟨hfinish noReply, hrequests noReply⟩
  | some request =>
    rw [hrequest] at hrequests
    rw [Command.result_of_request?_eq_some hrequest, Surroundings.ask]
    cases hsent : s.send request with
    | ok reply =>
      rw [process_of_send_eq_ok (hrequests noReply) hsent]
      exact ⟨hfinish reply, hrequests reply⟩
    | error exception =>
      rw [process_of_send_eq_error (hrequests noReply) hsent]
      exact ⟨rfl, hrequests noReply⟩

/-- A process that performs nothing shows how it is used, or the help text, and asks nothing. -/
theorem process_of_misused (h : Invocation.ofArguments arguments = .misused) :
    (process arguments s).finish = s.exit 2 (.usage arguments) ∧
      (process arguments s).requests = [] := by
  have hrun : runArguments arguments s.env noReply = { ending := .misused } := by
    rw [runArguments, h]
    rfl
  rw [process_of_nil (congrArg Run.requests hrun), hrun]
  exact ⟨rfl, rfl⟩

theorem process_of_help (h : Invocation.ofArguments arguments = .help) :
    (process arguments s).finish = s.exit 0 (.help arguments) ∧
      (process arguments s).requests = [] := by
  have hrun : runArguments arguments s.env noReply = { ending := .help } := by
    rw [runArguments, h]
    rfl
  rw [process_of_nil (congrArg Run.requests hrun), hrun]
  exact ⟨rfl, rfl⟩

/-- Only a command that is performed makes a request. -/
theorem exists_perform_of_mem_requests {request : Request}
    (h : request ∈ (process arguments s).requests) : ∃ debug command,
      Invocation.ofArguments arguments = .perform debug command ∧
        command.request? s.env = some request := by
  cases hasked : Invocation.ofArguments arguments with
  | misused =>
    rw [(process_of_misused hasked).2] at h
    cases h
  | help =>
    rw [(process_of_help hasked).2] at h
    cases h
  | perform debug command =>
    rw [(process_of_perform hasked).2, Option.mem_toList] at h
    exact ⟨debug, command, rfl, h⟩

end CommandLine
end ChainAtlas
