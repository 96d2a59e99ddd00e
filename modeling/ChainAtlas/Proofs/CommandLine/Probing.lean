import ChainAtlas.Proofs.CommandLine.Arguments
import ChainAtlas.Proofs.CommandLine.Asking
import ChainAtlas.Text.ControlSequence

/-!
# Which endpoint is asked

Two commands choose the URL of a network: one shows it, the other asks the endpoint behind it.  Both
come to the URL through the same calls, the registry that is selected, the network in it and
`Network.resolveUrl`, so where one of these calls fails both commands fail alike, and where none does
the URL that is shown is the one that is asked (`shown_or_refused`).  Only a check makes a request
(`Command.exists_check_of_request?`).

What is shown need not be what is printed, for printing is left to the console.  One that is no terminal
prints a text without its control sequences, and the request goes to the URL as it is, so the two can
differ (`printed_url_not_asked`).  One that writes UTF-8 prints nothing at all of a URL that holds other
bytes, which is asked nevertheless (`requests_of_urlVariable`).
-/

namespace ChainAtlas
namespace CommandLine

open Outcome

variable {env : Variables} {selection : Selection} {network : String} {s : Surroundings}

/-! ## Showing a URL and asking it -/

namespace Command

/-- No command makes a request but a check. -/
theorem exists_check_of_request? {command : Command} {request : Request}
    (h : command.request? env = some request) :
    ∃ network given selection, command = .check network given selection := by
  cases command with
  | check network given selection => exact ⟨network, given, selection, rfl⟩
  | _ => cases h

/-- **A check asks the URL that is shown, or fails with what the showing fails with.** -/
theorem result_rpc_and_check (env : Variables) (ask : Request → Except Failure Reply)
    (network : String) (selection : Selection) :
    (∃ u, (Command.rpc network .http selection).result env ask = .ok (.line u) ∧
        (Command.check network none selection).request? env =
          some ⟨u, Probe.question, Probe.defaultTimeout⟩) ∨
      ∃ failure, failure.IsOwn ∧
        (Command.rpc network .http selection).result env ask = .error failure ∧
        (Command.check network none selection).result env ask = .error failure ∧
        (Command.check network none selection).request? env = none := by
  cases htarget : selection.target env network with
  | error failure =>
    refine Or.inr ⟨failure, selection.isOwn_target env network failure htarget, ?_, ?_,
      checkRequest?_of_error htarget⟩
    · rw [result, htarget]
      rfl
    · rw [result, htarget]
      rfl
  | ok n =>
    have hrequest := checkRequest?_of_ok htarget none
    cases hurl : n.resolveUrl none .http env with
    | ok u =>
      rw [hurl] at hrequest
      refine Or.inl ⟨u, ?_, hrequest⟩
      rw [result, htarget]
      exact bind_eq_ok_iff.2 ⟨n, rfl, bind_eq_ok_iff.2 ⟨u, mapError_eq_ok_iff.2 hurl, rfl⟩⟩
    | error fault =>
      rw [hurl] at hrequest
      have hfailed : (n.resolveUrl none .http env).mapError Failure.fault = .error (.fault fault) :=
        mapError_eq_error_iff.2 ⟨fault, hurl, rfl⟩
      refine Or.inr ⟨.fault fault, trivial, ?_, ?_, hrequest⟩
      · rw [result, htarget]
        exact bind_eq_error_iff.2 (Or.inr ⟨n, rfl, bind_eq_error_iff.2 (Or.inl hfailed)⟩)
      · rw [result, htarget]
        exact bind_eq_error_iff.2 (Or.inr ⟨n, rfl, bind_eq_error_iff.2 (Or.inl hfailed)⟩)

/-- A URL that is given is the one that is asked. -/
theorem request?_check_of_given {v : String} (hv : v ≠ "") :
    (Command.check network (some v) selection).request? env =
      match selection.target env network with
      | .ok _ => some ⟨v, Probe.question, Probe.defaultTimeout⟩
      | .error _ => none := by
  cases htarget : selection.target env network with
  | error failure => exact checkRequest?_of_error htarget
  | ok n => rw [request?, checkRequest?_of_ok htarget (some v), n.resolveUrl_of_given hv]

end Command

/-! ## Command lines -/

/-- Only a command line that asks for a check makes a request. -/
theorem isCheck_of_requests {arguments : List String} (h : (process arguments s).requests ≠ []) :
    ∃ debug network given selection,
      Invocation.ofArguments arguments = .perform debug (.check network given selection) := by
  obtain ⟨request, hrequest⟩ := List.exists_mem_of_ne_nil _ h
  obtain ⟨debug, command, hasked, hmade⟩ := exists_perform_of_mem_requests hrequest
  obtain ⟨network, given, selection, rfl⟩ := Command.exists_check_of_request? hmade
  exact ⟨debug, network, given, selection, hasked⟩

section NameNetwork

variable {front arguments : List String} {debug : Bool}

/-- **A check asks the URL that is shown for its network.**  Of two command lines that differ in the
name of the command only, one shows the URL and the other asks it, or both report the same failure. -/
theorem shown_or_refused (hfront : AreProgramOptions front debug)
    (harguments : NameNetwork arguments network selection) (s : Surroundings) :
    (∃ u, (process (front ++ "rpc" :: arguments) s).finish = s.exit 0 (.answer (.line u)) ∧
        (process (front ++ "check" :: arguments) s).requests =
          [⟨u, Probe.question, Probe.defaultTimeout⟩]) ∨
      ∃ message,
        (process (front ++ "rpc" :: arguments) s).finish = s.exit 1 (.failure message) ∧
        (process (front ++ "check" :: arguments) s).finish = s.exit 1 (.failure message) ∧
        (process (front ++ "check" :: arguments) s).requests = [] := by
  obtain ⟨hrpc, hcheck⟩ := Invocation.ofArguments_of_nameNetwork hfront harguments
  rw [(process_of_perform hrpc).1, (process_of_perform hcheck).1, (process_of_perform hcheck).2]
  rcases Command.result_rpc_and_check s.env s.ask network selection with
    ⟨u, hshown, hasked⟩ | ⟨failure, hown, hfailed, hfailed', hnone⟩
  · rw [hshown, hasked]
    exact Or.inl ⟨u, rfl, rfl⟩
  · have hrefused : s.conclude (.error failure) = s.exit 1 (.failure failure.message) :=
      Failure.finish_of_isReported hown.isReported s
    rw [hfailed, hfailed', hnone, hrefused]
    exact Or.inr ⟨failure.message, rfl, rfl, rfl⟩

/-- Where the first one exits with 0, the second one asks the URL that is the answer of the first one,
which need not be what is read of it. -/
theorem requests_of_exited (hfront : AreProgramOptions front debug)
    (harguments : NameNetwork arguments network selection) {page : Page} {text : String}
    (h : (process (front ++ "rpc" :: arguments) s).finish = .exited 0 page text) :
    ∃ u, page = .answer (.line u) ∧ s.print page = .ok text ∧
      (process (front ++ "check" :: arguments) s).requests =
        [⟨u, Probe.question, Probe.defaultTimeout⟩] := by
  rcases shown_or_refused hfront harguments s with ⟨u, hshown, hasked⟩ | ⟨message, hrefused, -⟩
  · obtain ⟨⟨-, rfl⟩, htext⟩ := Surroundings.exit_eq_exited_iff.1 (hshown.symm.trans h)
    exact ⟨u, rfl, htext, hasked⟩
  · obtain ⟨⟨hcode, -⟩, -⟩ := Surroundings.exit_eq_exited_iff.1 (hrefused.symm.trans h)
    cases hcode

/-- The URL of a network that is there is shown, and it is asked. -/
theorem shown_and_asked_of_target (hfront : AreProgramOptions front debug)
    (harguments : NameNetwork arguments network selection) {n : Network}
    (htarget : selection.target s.env network = .ok n) {u : String}
    (hurl : n.resolveUrl none .http s.env = .ok u) :
    (process (front ++ "rpc" :: arguments) s).finish = s.exit 0 (.answer (.line u)) ∧
      (process (front ++ "check" :: arguments) s).requests =
        [⟨u, Probe.question, Probe.defaultTimeout⟩] := by
  obtain ⟨hrpc, hcheck⟩ := Invocation.ofArguments_of_nameNetwork hfront harguments
  constructor
  · rw [(process_of_perform hrpc).1, Command.result, htarget]
    show s.conclude ((n.resolveUrl none .http s.env).mapError .fault >>= _) = _
    rw [hurl]
    rfl
  · rw [(process_of_perform hcheck).2, Command.request?, Command.checkRequest?_of_ok htarget none,
      hurl]
    rfl

end NameNetwork

/-- **Which endpoint a command line asks.**  Two command lines that differ in the name of the command
only show the URL of a network and check the network.  Either the first one exits with 0 once a URL is
printed as its answer, and the second one asks that URL once; or both exit with 1 once the same message
is printed, and nothing is asked.  Where a URL is given to a check no other one is asked, and it is
asked once if the network is there.  No other command asks anything. -/
theorem requests_of_process (s : Surroundings) :
    (∀ front debug arguments network selection, AreProgramOptions front debug →
      NameNetwork arguments network selection →
        (∃ u, (process (front ++ "rpc" :: arguments) s).finish = s.exit 0 (.answer (.line u)) ∧
          (process (front ++ "check" :: arguments) s).requests =
            [⟨u, Probe.question, Probe.defaultTimeout⟩]) ∨
        ∃ message,
          (process (front ++ "rpc" :: arguments) s).finish = s.exit 1 (.failure message) ∧
          (process (front ++ "check" :: arguments) s).finish = s.exit 1 (.failure message) ∧
          (process (front ++ "check" :: arguments) s).requests = []) ∧
    (∀ arguments debug network v selection, v ≠ "" →
      Invocation.ofArguments arguments = .perform debug (.check network (some v) selection) →
        (∀ request ∈ (process arguments s).requests, request.url = v) ∧
        ((∃ n, selection.target s.env network = .ok n) →
          (process arguments s).requests = [⟨v, Probe.question, Probe.defaultTimeout⟩])) ∧
    ∀ arguments, (process arguments s).requests ≠ [] → ∃ debug network given selection,
      Invocation.ofArguments arguments = .perform debug (.check network given selection) := by
  refine ⟨fun front debug arguments network selection hfront harguments =>
    shown_or_refused hfront harguments s, ?_, fun arguments => isCheck_of_requests⟩
  intro arguments debug network v selection hv hasked
  rw [(process_of_perform hasked).2, Command.request?_check_of_given hv]
  cases selection.target s.env network with
  | error failure =>
    refine ⟨List.forall_mem_nil _, ?_⟩
    rintro ⟨n, ⟨⟩⟩
  | ok n => exact ⟨List.forall_mem_singleton.2 rfl, fun _ => rfl⟩

/-! ## A URL in a variable -/

/-- The variables of a process in which nothing is set but the URL of one network. -/
def urlVariable (url : String) : Variables :=
  Variables.ofList [(Network.overrideVariable "ethereum", url)]

/-- Arguments that every command understands, with the name of the network. -/
def commonArguments : List String := ["ethereum", "--env", "development"]

theorem nameNetwork_commonArguments :
    NameNetwork commonArguments "ethereum" ⟨some "development", false⟩ :=
  ⟨_, rfl, rfl, rfl, rfl⟩

theorem exists_target_commonArguments :
    ∃ n : Network, n.name = "ethereum" ∧ ∀ env : Variables,
      Selection.target ⟨some "development", false⟩ env "ethereum" = .ok n := by
  have hname : (Selection.target ⟨some "development", false⟩ (fun _ => none)
      "ethereum").toOption.map Network.name = some "ethereum" := by decide +kernel
  cases htarget : Selection.target ⟨some "development", false⟩ (fun _ => none) "ethereum" with
  | error failure =>
    rw [htarget] at hname
    cases hname
  | ok n =>
    rw [htarget] at hname
    exact ⟨n, Option.some.inj hname, fun env => htarget⟩

/-- The URL in the variable is shown, and it is asked. -/
theorem shown_and_asked_of_urlVariable {front : List String} {debug : Bool}
    (hfront : AreProgramOptions front debug) {u : String} (hu : u ≠ "")
    (henv : s.env = urlVariable u) :
    (process (front ++ "rpc" :: commonArguments) s).finish = s.exit 0 (.answer (.line u)) ∧
      (process (front ++ "check" :: commonArguments) s).requests =
        [⟨u, Probe.question, Probe.defaultTimeout⟩] := by
  obtain ⟨n, hname, htarget⟩ := exists_target_commonArguments
  have hvalue : s.env.value? (Network.overrideVariable n.name) = some u := by
    rw [henv, hname, Variables.value?_eq_some_iff]
    exact ⟨by simp [urlVariable, Variables.ofList], hu⟩
  exact shown_and_asked_of_target hfront nameNetwork_commonArguments (htarget _)
    (Network.resolveUrl_of_variable hvalue)

theorem areProgramOptions_nil : AreProgramOptions [] false := ⟨_, rfl, rfl, rfl, rfl⟩

theorem areProgramOptions_debug : AreProgramOptions ["--debug"] true := ⟨_, rfl, rfl, rfl, rfl⟩

/-! ## A stream that is no terminal -/

/-- The exception about characters that stand for bytes, which UTF-8 does not have. -/
def unencodable (position : ℕ) (strays : List Char) : Exception where
  kind := .value
  message :=
    let last := position + strays.length - 1
    match strays with
    | [c] =>
      let byte := String.ofList (Text.hexPadded 2 (c.toNat - 0x10ff00))
      s!"'utf-8' codec can't encode character '\\udc{byte}' in position {position}: " ++
        "surrogates not allowed"
    | _ =>
      s!"'utf-8' codec can't encode characters in position {position}-{last}: " ++
        "surrogates not allowed"

/-- What is to be read where one text is printed to a stream that is no terminal: the text without its
control sequences, as UTF-8. -/
def printLine (text : String) : Except Exception String :=
  let stripped := Text.ControlSequence.strip text
  match stripped.toList.dropWhile fun c => !Utf8.isStray c with
  | [] => .ok stripped
  | rest =>
    .error (unencodable (stripped.length - rest.length) (rest.takeWhile Utf8.isStray))

/-- What is printed of a text is the text without its control sequences, if no character of it stands for
a byte. -/
theorem printLine_eq_ok_iff {text printed : String} :
    printLine text = .ok printed ↔
      printed = Text.ControlSequence.strip text ∧
        ∀ c ∈ (Text.ControlSequence.strip text).toList, Utf8.isStray c = false := by
  rw [printLine]
  constructor
  · intro h
    split at h
    · next hnone =>
      refine ⟨(Except.ok.inj h).symm, fun c hc => ?_⟩
      simpa using List.dropWhile_eq_nil_iff.1 hnone c hc
    · cases h
  · rintro ⟨rfl, hplain⟩
    have hnone : (Text.ControlSequence.strip text).toList.dropWhile (fun c => !Utf8.isStray c) = [] :=
      List.dropWhile_eq_nil_iff.2 fun c hc => by simp [hplain c hc]
    simp only [hnone]

/-- A stream that is no terminal, given how it prints all pages but the answers that are one text. -/
def piped (others : Page → Except Exception String) : Page → Except Exception String
  | .answer (.line text) => printLine text
  | page => others page

/-- **On a stream that is no terminal the URL that is asked is read without its control sequences.** -/
theorem requests_of_exited_piped {front arguments : List String} {debug : Bool}
    {others : Page → Except Exception String} {page : Page} {text : String}
    (hfront : AreProgramOptions front debug)
    (harguments : NameNetwork arguments network selection) (hprint : s.print = piped others)
    (h : (process (front ++ "rpc" :: arguments) s).finish = .exited 0 page text) :
    ∃ u, text = Text.ControlSequence.strip u ∧
      (process (front ++ "check" :: arguments) s).requests =
        [⟨u, Probe.question, Probe.defaultTimeout⟩] := by
  obtain ⟨u, rfl, htext, hasked⟩ := requests_of_exited hfront harguments h
  rw [hprint] at htext
  exact ⟨u, (printLine_eq_ok_iff.1 htext).1, hasked⟩

/-- Surroundings with the URL of a network in a variable and a stream that is no terminal. -/
def pipedUrl (url : String) : Surroundings :=
  ⟨urlVariable url, fun _ => .ok (.failed "refused"), piped fun _ => .ok ""⟩

/-- A URL in the variable, another one that is given to a check, and a byte in the variable that is no
UTF-8: it cannot be printed, and it is asked. -/
theorem requests_of_urlVariable :
    (process (["--debug"] ++ "rpc" :: commonArguments) (pipedUrl "http://a")).finish =
        .exited 0 (.answer (.line "http://a")) "http://a" ∧
      (process (["--debug"] ++ "check" :: commonArguments) (pipedUrl "http://a")).requests =
        [⟨"http://a", Probe.question, Probe.defaultTimeout⟩] ∧
      (process ("check" :: "--rpc-url" :: "http://b" :: commonArguments)
          (pipedUrl "http://a")).requests =
        [⟨"http://b", Probe.question, Probe.defaultTimeout⟩] ∧
      (∃ debug network given selection,
        Invocation.ofArguments ("check" :: "--rpc-url" :: "http://b" :: commonArguments) =
          .perform debug (.check network given selection)) ∧
      (process ([] ++ "rpc" :: commonArguments) (pipedUrl (Utf8.held [0xff]))).finish =
        .interrupted (unencodable 0 [Utf8.stray 0xff]) ∧
      (process ([] ++ "check" :: commonArguments) (pipedUrl (Utf8.held [0xff]))).requests =
        [⟨Utf8.held [0xff], Probe.question, Probe.defaultTimeout⟩] := by
  obtain ⟨hboth, hgiven, honly⟩ := requests_of_process (pipedUrl "http://a")
  have hprinted : (pipedUrl "http://a").exit 0 (.answer (.line "http://a")) =
      .exited 0 (.answer (.line "http://a")) "http://a" :=
    Surroundings.exit_eq_exited_iff.2 ⟨⟨rfl, rfl⟩, by decide⟩
  have hunprinted : (pipedUrl (Utf8.held [0xff])).exit 0 (.answer (.line (Utf8.held [0xff]))) =
      .interrupted (unencodable 0 [Utf8.stray 0xff]) :=
    Surroundings.exit_eq_interrupted_iff.2 (by decide)
  have hshown := (shown_and_asked_of_urlVariable (s := pipedUrl "http://a")
    areProgramOptions_debug (by decide) rfl).1.trans hprinted
  obtain ⟨hheld, hasked⟩ := shown_and_asked_of_urlVariable (s := pipedUrl (Utf8.held [0xff]))
    areProgramOptions_nil (by decide) rfl
  have hother : (process ("check" :: "--rpc-url" :: "http://b" :: commonArguments)
      (pipedUrl "http://a")).requests = [⟨"http://b", Probe.question, Probe.defaultTimeout⟩] := by
    obtain ⟨n, -, htarget⟩ := exists_target_commonArguments
    exact (hgiven _ false "ethereum" "http://b" ⟨some "development", false⟩ (by decide) rfl).2
      ⟨n, htarget _⟩
  refine ⟨hshown, ?_, hother, honly _ ?_, hheld.trans hunprinted, hasked⟩
  · rcases hboth ["--debug"] true commonArguments "ethereum" _ areProgramOptions_debug
      nameNetwork_commonArguments with ⟨u, hanswered, hrequests⟩ | ⟨message, hrefused, -⟩
    · obtain ⟨⟨-, hpage⟩, -⟩ := Surroundings.exit_eq_exited_iff.1 (hanswered.symm.trans hshown)
      cases hpage
      exact hrequests
    · obtain ⟨⟨hcode, -⟩, -⟩ := Surroundings.exit_eq_exited_iff.1 (hrefused.symm.trans hshown)
      cases hcode
  · rw [hother]
    exact List.cons_ne_nil _ _

/-- **The URL that is printed need not be the one that is asked.**  However other pages are printed, the
control sequence in front of the URL is not. -/
theorem printed_url_not_asked :
    ¬ ∃ others, ∀ front debug arguments network selection env send page u,
      AreProgramOptions front debug → NameNetwork arguments network selection →
        (process (front ++ "rpc" :: arguments) ⟨env, send, piped others⟩).finish =
          .exited 0 page u →
        (process (front ++ "check" :: arguments) ⟨env, send, piped others⟩).requests.map
          Request.url = [u] := by
  rintro ⟨others, h⟩
  obtain ⟨hshown, hasked⟩ := shown_and_asked_of_urlVariable
    (s := ⟨urlVariable "\x1b[1mhttp://a", fun _ => .ok noReply, piped others⟩)
    areProgramOptions_nil (by decide) rfl
  have hprint : piped others (.answer (.line "\x1b[1mhttp://a")) = .ok "http://a" := by
    rw [piped]
    decide
  have hurl := h [] false commonArguments "ethereum" _ _ _ _ _ areProgramOptions_nil
    nameNetwork_commonArguments
    (hshown.trans (Surroundings.exit_eq_exited_iff.2 ⟨⟨rfl, rfl⟩, hprint⟩))
  rw [hasked] at hurl
  revert hurl
  decide

end CommandLine
end ChainAtlas
