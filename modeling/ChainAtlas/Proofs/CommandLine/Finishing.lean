import ChainAtlas.Proofs.CommandLine.Asking

/-!
# How a process finishes

A process is to print one page and to exit with the code that goes with it: the usage with 2, the help
text or an answer with 0, and the message of a failure with 1 (`IsDue`).  Two things can come in
between.

The first one is a fault of the library that no handler is there for.  A failure of a command comes from
a call of the library, from a text, or from asking (`Command.FailsWith`).  The calls are all made inside
of handlers, and of the texts one only can fail: that of an encoded argument, if it is a number of too
many digits.  So a fault passes through the command there and nowhere else.

The second one is an exception that is raised outside of the library, by sending a request or by
printing the page.  The first kind is reported by the command if it belongs to one of the families that
a check reports; the second kind is never reported.

What happens where is said by `finish_of_process` without a remainder, and `process_breaks` has a
process that finishes at a fault although sending and printing always succeed.
-/

namespace ChainAtlas
namespace CommandLine

open Numeral Outcome

variable {α : Type} {env : Variables} {selection : Selection} {s : Surroundings}
  {arguments : List String}

/-! ## Where a failure comes from -/

/-- Where a failure of a command comes from. -/
inductive Command.FailsWith (command : Command) (env : Variables)
    (ask : Request → Except Failure Reply) : Failure → Prop where
  | own {failure : Failure} (h : failure.IsOwn) : FailsWith command env ask failure
  | text (h : command.HasLongArgument) : FailsWith command env ask (.text .longNumber)
  | asked {failure : Failure} {request : Request} (h : command.request? env = some request)
    (hask : ask request = .error failure) : FailsWith command env ask failure

/-- The text of an argument cannot be made exactly if it shows a number that is too long. -/
theorem argumentText_eq_error_iff {argument : Option Argument} {cause : Fault} :
    argument.mapM Argument.text = .error cause ↔
      ∃ n : ℕ, argument = some (.number n) ∧ 10 ^ digitLimit ≤ n ∧ cause = .longNumber := by
  rw [optionMapM_eq_error_iff]
  constructor
  · rintro ⟨given, rfl, hgiven⟩
    cases given with
    | account address => cases hgiven
    | number n =>
      rw [Argument.text] at hgiven
      split at hgiven
      · cases hgiven
      · next hhidden =>
        cases hgiven
        exact ⟨n, rfl, not_lt.1 fun hshort => hhidden (isShowable_natCast_iff.2 hshort), rfl⟩
  · rintro ⟨n, rfl, hlong, rfl⟩
    have hhidden : ¬ isShowable n = true :=
      fun hshown => absurd (isShowable_natCast_iff.1 hshown) (not_lt.2 hlong)
    exact ⟨_, rfl, by rw [Argument.text, if_neg hhidden]⟩

namespace Command

variable {command : Command} {ask : Request → Except Failure Reply} {failure : Failure}

theorem failsWith_of_networks
    (h : (Command.networks selection).result env ask = .error failure) :
    FailsWith (.networks selection) env ask failure := by
  rcases bind_eq_error_iff.1 h with hresolve | ⟨registry, hresolve, hrows⟩
  · exact .own (selection.isOwn_resolve env failure hresolve)
  · rw [mapM_showing (Selection.registry_of_resolve hresolve)] at hrows
    cases hrows

theorem failsWith_of_check {network : String} {given : Option String}
    (h : (Command.check network given selection).result env ask = .error failure) :
    FailsWith (.check network given selection) env ask failure := by
  rcases bind_eq_error_iff.1 h with htarget | ⟨n, htarget, h⟩
  · exact .own (selection.isOwn_target env network failure htarget)
  rcases bind_eq_error_iff.1 h with hurl | ⟨url, hurl, h⟩
  · exact .own (isOwn_mapError _ failure hurl)
  rcases bind_eq_error_iff.1 h with hasked | ⟨reply, -, h⟩
  · have hrequest : (Command.check network given selection).request? env =
        some ⟨url, Probe.question, Probe.defaultTimeout⟩ :=
      checkRequest?_eq_some_iff.2 ⟨n, url, htarget, mapError_eq_ok_iff.1 hurl, rfl⟩
    exact .asked hrequest hasked
  rcases bind_eq_error_iff.1 h with hanswer | ⟨chainId, hanswer, h⟩
  · exact .own (isOwn_mapError _ failure hanswer)
  obtain ⟨registry, hresolve, hn⟩ := bind_eq_ok_iff.1 htarget
  obtain ⟨served, -, hconfirm⟩ := bind_eq_ok_iff.1 (mapError_eq_ok_iff.1 hanswer)
  rw [showing_of_confirm (Selection.registry_of_resolve hresolve) (mapError_eq_ok_iff.1 hn)
    hconfirm] at h
  cases h

theorem failsWith_of_configOp {method : String} {value network : Option String}
    (h : (Command.configOp method value network selection).result env ask = .error failure) :
    FailsWith (.configOp method value network selection) env ask failure := by
  rcases bind_eq_error_iff.1 h with hcall | ⟨⟨op, argument⟩, hcall, h⟩
  · exact .own (isOwn_mapError _ failure hcall)
  rcases bind_eq_error_iff.1 h with htext | ⟨text, -, h⟩
  · obtain ⟨cause, hunmade, rfl⟩ := mapError_eq_error_iff.1 htext
    obtain ⟨n, hargument, hlong, rfl⟩ := argumentText_eq_error_iff.1 hunmade
    have hcall' : encodedCall method value = .ok (op, some (.number n)) := by
      rw [← hargument]
      exact mapError_eq_ok_iff.1 hcall
    exact .text ⟨op, n, hcall', hlong⟩
  · cases network with
    | none => cases h
    | some network =>
      have hown : FaultsIn Failure.IsOwn (selection.resolve env >>= fun registry =>
          (contractOf registry network configContract).mapError .fault >>= fun address =>
            pure (Output.sheet (operationRows op text ++ [("Contract", address.text)]))) :=
        .bind (selection.isOwn_resolve env) fun _ => .bind (isOwn_mapError _) fun _ => .ok _
      exact .own (hown failure h)

/-- **Every failure comes from a call of the library, from an argument that is too long, or from
asking.** -/
theorem failsWith_of_result (h : command.result env ask = .error failure) :
    command.FailsWith env ask failure := by
  cases command with
  | networks selection => exact failsWith_of_networks h
  | address network contract selection =>
    have hown : FaultsIn Failure.IsOwn ((Command.address network contract selection).result env ask) :=
      .bind (selection.isOwn_resolve env) fun _ => .bind (isOwn_mapError _) fun _ => .ok _
    exact .own (hown failure h)
  | rpc network protocol selection =>
    have hown : FaultsIn Failure.IsOwn ((Command.rpc network protocol selection).result env ask) :=
      .bind (selection.isOwn_target env network) fun _ => .bind (isOwn_mapError _) fun _ => .ok _
    exact .own (hown failure h)
  | check network given selection => exact failsWith_of_check h
  | configOp method value network selection => exact failsWith_of_configOp h

theorem result_of_hasLongArgument (h : command.HasLongArgument) :
    command.result env ask = .error (.text .longNumber) := by
  cases command with
  | configOp method value network selection =>
    obtain ⟨op, n, hcall, hlong⟩ := h
    have htext : (some (Argument.number n)).mapM Argument.text = .error .longNumber :=
      argumentText_eq_error_iff.2 ⟨n, rfl, hlong, rfl⟩
    refine bind_eq_error_iff.2 (Or.inr ⟨_, mapError_eq_ok_iff.2 hcall, ?_⟩)
    exact bind_eq_error_iff.2 (Or.inl (mapError_eq_error_iff.2 ⟨_, htext, rfl⟩))
  | _ => exact h.elim

/-- A text cannot be made exactly if an argument is encoded as a number of too many digits. -/
theorem result_eq_text_iff {cause : Fault} :
    command.result s.env s.ask = .error (.text cause) ↔
      cause = .longNumber ∧ command.HasLongArgument := by
  constructor
  · intro h
    cases failsWith_of_result h with
    | own hown => exact hown.elim
    | text hlong => exact ⟨rfl, hlong⟩
    | asked _ hask =>
      obtain ⟨_, -, hcause⟩ := mapError_eq_error_iff.1 hask
      cases hcause
  · rintro ⟨rfl, hlong⟩
    exact result_of_hasLongArgument hlong

/-- An exception comes up exactly if the request of a command raises it. -/
theorem result_eq_exception_iff {cause : Exception} :
    command.result s.env s.ask = .error (.exception cause) ↔
      ∃ request, command.request? s.env = some request ∧ s.send request = .error cause := by
  constructor
  · intro h
    cases failsWith_of_result h with
    | own hown => exact hown.elim
    | asked hrequest hask =>
      obtain ⟨_, hsend, hcause⟩ := mapError_eq_error_iff.1 hask
      cases hcause
      exact ⟨_, hrequest, hsend⟩
  · rintro ⟨request, hrequest, hsend⟩
    rw [result_of_request?_eq_some hrequest, Surroundings.ask, hsend]
    rfl

end Command

/-! ## What is due -/

/-- Whether a command line asks for a command that comes to a result. -/
def ComesTo (arguments : List String) (s : Surroundings) (result : Except Failure Output) : Prop :=
  ∃ debug command, Invocation.ofArguments arguments = .perform debug command ∧
    command.result s.env s.ask = result

/-- Whether a page is to be printed for a command line, before it exits with a code. -/
inductive IsDue (arguments : List String) (s : Surroundings) : ℕ → Page → Prop where
  | usage (h : Invocation.ofArguments arguments = .misused) : IsDue arguments s 2 (.usage arguments)
  | help (h : Invocation.ofArguments arguments = .help) : IsDue arguments s 0 (.help arguments)
  | answer {output : Output} (h : ComesTo arguments s (.ok output)) :
    IsDue arguments s 0 (.answer output)
  | failure {failure : Failure} (h : ComesTo arguments s (.error failure))
    (hreported : failure.IsReported) : IsDue arguments s 1 (.failure failure.message)

theorem finish_of_comesTo {result : Except Failure Output} (h : ComesTo arguments s result) :
    (process arguments s).finish = s.conclude result := by
  obtain ⟨debug, command, hasked, rfl⟩ := h
  exact (process_of_perform hasked).1

/-- What is due is printed. -/
theorem IsDue.finish {code : ℕ} {page : Page} (h : IsDue arguments s code page) :
    (process arguments s).finish = s.exit code page := by
  cases h with
  | usage h => exact (process_of_misused h).1
  | help h => exact (process_of_help h).1
  | answer h => exact finish_of_comesTo h
  | failure h hreported =>
    rw [finish_of_comesTo h]
    exact Failure.finish_of_isReported hreported s

/-- A complaint is due where the exit code tells that something went wrong. -/
theorem IsDue.isComplaint_iff {code : ℕ} {page : Page} (h : IsDue arguments s code page) :
    page.isComplaint = true ↔ code ≠ 0 := by
  cases h <;> simp [Page.isComplaint]

theorem conclude_of_not_isReported {cause : Exception} (h : cause.isReported = false) :
    s.conclude (.error (.exception cause)) = .interrupted cause :=
  if_neg (Bool.eq_false_iff.1 h)

/-- The ways in which a process finishes. -/
inductive FinishesBy (arguments : List String) (s : Surroundings) : Finish → Prop where
  | exit {code : ℕ} {page : Page} (h : IsDue arguments s code page) :
    FinishesBy arguments s (s.exit code page)
  | fall {cause : Fault} (h : ComesTo arguments s (.error (.text cause))) :
    FinishesBy arguments s (.fell cause)
  | interruption {cause : Exception} (h : ComesTo arguments s (.error (.exception cause)))
    (hreported : cause.isReported = false) : FinishesBy arguments s (.interrupted cause)

/-- **A process prints what is due, unless a text cannot be made or a request raises an exception.** -/
theorem finishesBy_of_process (arguments : List String) (s : Surroundings) :
    FinishesBy arguments s (process arguments s).finish := by
  cases hasked : Invocation.ofArguments arguments with
  | misused =>
    rw [(process_of_misused hasked).1]
    exact .exit (.usage hasked)
  | help =>
    rw [(process_of_help hasked).1]
    exact .exit (.help hasked)
  | perform debug command =>
    have hcomes : ComesTo arguments s (command.result s.env s.ask) :=
      ⟨debug, command, hasked, rfl⟩
    rw [finish_of_comesTo hcomes]
    cases hresult : command.result s.env s.ask with
    | ok output =>
      rw [hresult] at hcomes
      exact .exit (.answer hcomes)
    | error failure =>
      rw [hresult] at hcomes
      cases failure with
      | conflict => exact .exit (.failure hcomes trivial)
      | fault cause => exact .exit (.failure hcomes trivial)
      | text cause => exact .fall hcomes
      | exception cause =>
        cases hreported : cause.isReported with
        | true =>
          have hfinish : s.conclude (.error (.exception cause)) = s.exit 1 (.failure cause.message) :=
            if_pos hreported
          rw [hfinish]
          exact .exit (.failure hcomes hreported)
        | false =>
          rw [conclude_of_not_isReported hreported]
          exact .interruption hcomes hreported

namespace FinishesBy

variable {finish : Finish}

theorem of_exited (h : FinishesBy arguments s finish) {code : ℕ} {page : Page} {text : String}
    (hfinish : finish = .exited code page text) :
    IsDue arguments s code page ∧ s.print page = .ok text := by
  cases h with
  | exit hdue =>
    obtain ⟨⟨rfl, rfl⟩, htext⟩ := Surroundings.exit_eq_exited_iff.1 hfinish
    exact ⟨hdue, htext⟩
  | fall hcomes => cases hfinish
  | interruption hcomes hreported => cases hfinish

theorem of_fell (h : FinishesBy arguments s finish) {fault : Fault}
    (hfinish : finish = .fell fault) : ComesTo arguments s (.error (.text fault)) := by
  cases h with
  | exit hdue => exact absurd hfinish (s.exit_ne_fell _ _ fault)
  | fall hcomes =>
    cases hfinish
    exact hcomes
  | interruption hcomes hreported => cases hfinish

theorem of_interrupted (h : FinishesBy arguments s finish) {exception : Exception}
    (hfinish : finish = .interrupted exception) :
    (exception.isReported = false ∧ ComesTo arguments s (.error (.exception exception))) ∨
      ∃ code page, IsDue arguments s code page ∧ s.print page = .error exception := by
  cases h with
  | exit hdue => exact Or.inr ⟨_, _, hdue, Surroundings.exit_eq_interrupted_iff.1 hfinish⟩
  | fall hcomes => cases hfinish
  | interruption hcomes hreported =>
    cases hfinish
    exact Or.inl ⟨hreported, hcomes⟩

end FinishesBy

/-! ## Command lines -/

theorem comesTo_text_iff {cause : Fault} :
    ComesTo arguments s (.error (.text cause)) ↔ cause = .longNumber ∧ ∃ debug command,
      Invocation.ofArguments arguments = .perform debug command ∧ command.HasLongArgument := by
  constructor
  · rintro ⟨debug, command, hasked, hresult⟩
    obtain ⟨hcause, hlong⟩ := Command.result_eq_text_iff.1 hresult
    exact ⟨hcause, debug, command, hasked, hlong⟩
  · rintro ⟨hcause, debug, command, hasked, hlong⟩
    exact ⟨debug, command, hasked, Command.result_eq_text_iff.2 ⟨hcause, hlong⟩⟩

theorem comesTo_exception_iff {cause : Exception} :
    ComesTo arguments s (.error (.exception cause)) ↔
      ∃ request ∈ (process arguments s).requests, s.send request = .error cause := by
  constructor
  · rintro ⟨debug, command, hasked, hresult⟩
    obtain ⟨request, hrequest, hsend⟩ := Command.result_eq_exception_iff.1 hresult
    refine ⟨request, ?_, hsend⟩
    rw [(process_of_perform hasked).2, Option.mem_toList]
    exact hrequest
  · rintro ⟨request, hmem, hsend⟩
    obtain ⟨debug, command, hasked, hrequest⟩ := exists_perform_of_mem_requests hmem
    exact ⟨debug, command, hasked, Command.result_eq_exception_iff.2 ⟨request, hrequest, hsend⟩⟩

/-- **How a process finishes.**  It exits exactly with the code and the page that are due, if the page
is printed; a page is a complaint if the code is not zero.  A fault of the library passes through
exactly at an argument that is encoded as a number that is too long to be shown, and an exception from
outside exactly if a request raises it and it is none that is reported, or if the page that is due
cannot be printed because of it. -/
theorem finish_of_process (arguments : List String) (s : Surroundings) :
    (∀ code page text, (process arguments s).finish = .exited code page text ↔
      IsDue arguments s code page ∧ s.print page = .ok text) ∧
    (∀ code page, IsDue arguments s code page → (page.isComplaint = true ↔ code ≠ 0)) ∧
    (∀ fault, (process arguments s).finish = .fell fault ↔ fault = .longNumber ∧
      ∃ debug command, Invocation.ofArguments arguments = .perform debug command ∧
        command.HasLongArgument) ∧
    ∀ exception, (process arguments s).finish = .interrupted exception ↔
      (exception.isReported = false ∧
        ∃ request ∈ (process arguments s).requests, s.send request = .error exception) ∨
      ∃ code page, IsDue arguments s code page ∧ s.print page = .error exception := by
  have hfinish := finishesBy_of_process arguments s
  refine ⟨fun code page text => ?_, fun _ _ => IsDue.isComplaint_iff, fun fault => ?_,
    fun exception => ?_⟩
  · constructor
    · exact hfinish.of_exited
    · rintro ⟨hdue, htext⟩
      rw [hdue.finish]
      exact Surroundings.exit_eq_exited_iff.2 ⟨⟨rfl, rfl⟩, htext⟩
  · rw [← comesTo_text_iff (s := s)]
    exact ⟨hfinish.of_fell, fun h => finish_of_comesTo h⟩
  · rw [← comesTo_exception_iff]
    constructor
    · exact hfinish.of_interrupted
    · rintro (⟨hreported, hcomes⟩ | ⟨code, page, hdue, hprint⟩)
      · rw [finish_of_comesTo hcomes, conclude_of_not_isReported hreported]
      · rw [hdue.finish]
        exact Surroundings.exit_eq_interrupted_iff.2 hprint

/-! ## An argument that is too long -/

/-- A command line with a whole number of one digit more than can be shown. -/
def longArguments : List String := ["config-op", "setMaxQueueSeconds", "1e4300"]

/-- The command that it asks for. -/
def longCall : Command := .configOp "setMaxQueueSeconds" (some "1e4300") none ⟨none, false⟩

theorem ofArguments_longArguments :
    Invocation.ofArguments longArguments = .perform false longCall := by decide

theorem hasLongArgument_longCall : longCall.HasLongArgument := by
  have hcall : encodedCall "setMaxQueueSeconds" (some "1e4300") =
      .ok (⟨.maxQueueSeconds, true⟩, some (.number (Decimal.toNat ⟨false, 1, 4300⟩))) := rfl
  have hvalue : Decimal.toNat ⟨false, 1, 4300⟩ = 1 * 10 ^ (4300 : ℤ).toNat := by
    rw [Decimal.toNat, if_neg (by decide), if_pos (by decide)]
  refine ⟨_, _, hcall, ?_⟩
  rw [hvalue, Nat.one_mul]
  exact Nat.pow_le_pow_right (by decide) (by decide)

/-- Surroundings in which nothing is set, every request fails on its way, and what is printed is lost. -/
def silence : Surroundings := ⟨fun _ => none, fun _ => .ok (.failed "refused"), fun _ => .ok ""⟩

/-- The exception where there is no room for what is printed. -/
def noSpace : Exception := ⟨.other, "No space left on device"⟩

/-- A call without an argument, an unknown method, no command, a call for help, an argument that is too
long, and a page that cannot be printed. -/
theorem finish_of_configOp :
    (∃ output, (process ["config-op", "slashingFraction"] silence).finish =
        .exited 0 (.answer output) "") ∧
      (process ["config-op", "setNothing"] silence).finish =
        .exited 1 (.failure "No such method in StreamrConfig: setNothing") "" ∧
      (process [] silence).finish = .exited 2 (.usage []) "" ∧
      (Page.usage []).isComplaint = true ∧
      (process ["--help"] silence).finish = .exited 0 (.help ["--help"]) "" ∧
      (process longArguments silence).finish = .fell .longNumber ∧
      (process ["--help"] { silence with print := fun _ => .error noSpace }).finish =
        .interrupted noSpace := by
  have hends := fun arguments => finish_of_process arguments silence
  have hread : Invocation.ofArguments ["config-op", "slashingFraction"] =
      .perform false (.configOp "slashingFraction" none none ⟨none, false⟩) := by decide
  have hunknown : Invocation.ofArguments ["config-op", "setNothing"] =
      .perform false (.configOp "setNothing" none none ⟨none, false⟩) := by decide
  have hanswer : IsDue ["config-op", "slashingFraction"] silence 0 (.answer _) :=
    .answer ⟨false, _, hread, rfl⟩
  have hrefused : ComesTo ["config-op", "setNothing"] silence
      (.error (.fault (.unknownMethod "setNothing"))) := ⟨false, _, hunknown, rfl⟩
  have hfailure : IsDue ["config-op", "setNothing"] silence 1
      (.failure "No such method in StreamrConfig: setNothing") := .failure hrefused trivial
  have husage : IsDue [] silence 2 (.usage []) := .usage rfl
  refine ⟨⟨_, ((hends _).1 _ _ _).2 ⟨hanswer, rfl⟩⟩, ((hends _).1 _ _ _).2 ⟨hfailure, rfl⟩,
    ((hends _).1 _ _ _).2 ⟨husage, rfl⟩, ((hends _).2.1 _ _ husage).2 (by decide),
    ((hends _).1 _ _ _).2 ⟨.help rfl, rfl⟩, ((hends _).2.2.1 _).2 ⟨rfl, false, _,
      ofArguments_longArguments, hasLongArgument_longCall⟩, ?_⟩
  exact ((finish_of_process _ _).2.2.2 _).2 (Or.inr ⟨0, .help ["--help"], .help rfl, rfl⟩)

/-- **A process may finish at a fault**, also where sending and printing never raise an exception. -/
theorem process_breaks :
    ¬ ∀ arguments s, (∀ request, ∃ reply, s.send request = .ok reply) →
      (∀ page, ∃ text, s.print page = .ok text) →
        ∃ code page text, (process arguments s).finish = .exited code page text := by
  intro h
  obtain ⟨code, page, text, hexited⟩ := h longArguments silence (fun _ => ⟨_, rfl⟩) fun _ => ⟨_, rfl⟩
  have hcomes : ComesTo longArguments silence (.error (.text .longNumber)) :=
    comesTo_text_iff.2 ⟨rfl, false, longCall, ofArguments_longArguments, hasLongArgument_longCall⟩
  have hfell : (process longArguments silence).finish = .fell .longNumber := finish_of_comesTo hcomes
  rw [hfell] at hexited
  cases hexited

end CommandLine
end ChainAtlas
