import ChainAtlas.CommandLine.Run
import ChainAtlas.Proofs.CommandLine.Insertion
import ChainAtlas.Proofs.Network.OverrideVariable
import ChainAtlas.Proofs.Registry.Selection

/-!
# Selecting an environment

An environment is selected in three places: by a caller of the library who names it, by the variable,
and by an option of a command, which either names it or leaves it to the variable.  All of them come
down to loading by name (`Registry.loadSelected_of_mem_selectable`), so for an environment that the
variable may name it makes no difference which of them is used (`selection_agrees`).

On the command line there are two things to see to.  The option is put between other arguments, and
these have to mean what they mean without it; that is the subject of `Invocation.ofArguments_insert`.
And the variable is one of many, and a command looks at others too.  But it looks at those only that
hold the URL of a network, and the one that selects is none of them (`overrideVariable_ne_selector`).
-/

namespace ChainAtlas

/-- Whether two processes have the same variables, one of them aside. -/
def Variables.AgreeBut (name : String) (env env' : Variables) : Prop :=
  ∀ other, other ≠ name → env other = env' other

namespace CommandLine

open Registry

variable {env env' : Variables} {reply : Reply} {v : String} {front before after : List String}
  {verb : Verb} {name : String}

/-! ## The other variables -/

/-- The variable that selects an environment holds the URL of no network. -/
theorem overrideVariable_ne_selector (name : String) :
    Network.overrideVariable name ≠ selector := by
  intro h
  have hsuffix : Network.overrideSuffix.toList <:+ selector.toList := by
    rw [← h, Network.toList_overrideVariable]
    exact List.suffix_append _ _
  exact absurd hsuffix (by decide)

/-- Which URL is chosen does not depend on the variable that selects an environment. -/
theorem chooseUrl_of_agreeBut (henv : Variables.AgreeBut selector env env') (n : Network)
    (given : Option String) (protocol : Protocol) :
    n.chooseUrl given protocol env = n.chooseUrl given protocol env' := by
  refine Network.chooseUrl_congr_env given protocol ?_
  rw [Variables.value?, Variables.value?, henv _ (overrideVariable_ne_selector n.name)]

theorem runRpc_of_agreeBut (henv : Variables.AgreeBut selector env env') (network : String)
    (protocol : Protocol) (registry : Registry) :
    runRpc network protocol env registry = runRpc network protocol env' registry := by
  simp only [runRpc, chooseUrl_of_agreeBut henv]

theorem runCheck_of_agreeBut (henv : Variables.AgreeBut selector env env') (network : String)
    (url : Option String) (reply : Reply) (registry : Registry) :
    runCheck network url env reply registry = runCheck network url env' reply registry := by
  simp only [runCheck, Probe.verify, Network.resolveUrl, chooseUrl_of_agreeBut henv]

/-! ## The same registry -/

/-- **What the variable selects and what is named is one registry.** -/
theorem withRegistry_of_selector (hv : v ∈ selectable) (hselector : env selector = some v)
    {next next' : Registry → Run} (hnext : ∀ registry, next registry = next' registry) :
    Selection.withRegistry ⟨none, true⟩ env next =
      Selection.withRegistry ⟨some v, false⟩ env' next' := by
  have hregistry : Selection.registry ⟨none, true⟩ env = Selection.registry ⟨some v, false⟩ env' :=
    loadSelected_of_mem_selectable hselector hv
  show Run.attempt _ (Selection.registry ⟨none, true⟩ env) _ =
    Run.attempt _ (Selection.registry ⟨some v, false⟩ env') _
  rw [hregistry, funext hnext]

/-- Every command does the same on the registry that the variable selects and on the one that is
named. -/
theorem Command.run_withSelection (hv : v ∈ selectable) (hselector : env selector = some v)
    (henv : Variables.AgreeBut selector env env') (command : Command) (reply : Reply) :
    (command.withSelection ⟨none, true⟩).run env reply =
      (command.withSelection ⟨some v, false⟩).run env' reply := by
  cases command with
  | networks selection => exact withRegistry_of_selector hv hselector fun _ => rfl
  | address network contract selection => exact withRegistry_of_selector hv hselector fun _ => rfl
  | rpc network protocol selection =>
    exact withRegistry_of_selector hv hselector (runRpc_of_agreeBut henv network protocol)
  | check network url selection =>
    exact withRegistry_of_selector hv hselector (runCheck_of_agreeBut henv network url reply)
  | configOp method value network selection =>
    have hcontract : ∀ next, Selection.withRegistry ⟨none, true⟩ env next =
        Selection.withRegistry ⟨some v, false⟩ env' next :=
      fun next => withRegistry_of_selector hv hselector fun _ => rfl
    simp only [Command.withSelection, Command.run, runConfigOp, hcontract]

/-- **Nothing that a command line asks for comes out differently.** -/
theorem Invocation.run_withSelection (hv : v ∈ selectable) (hselector : env selector = some v)
    (henv : Variables.AgreeBut selector env env') (invocation : Invocation) (reply : Reply) :
    (invocation.withSelection ⟨none, true⟩).run env reply =
      (invocation.withSelection ⟨some v, false⟩).run env' reply := by
  cases invocation with
  | misused => rfl
  | help => rfl
  | perform debug command =>
    simp only [Invocation.withSelection, Invocation.run,
      Command.run_withSelection hv hselector henv]

/-- **The two options that select do the same in the same place**: what the command line asks for
without them is done on the registry of the environment. -/
theorem runArguments_of_selector (hv : v ∈ selectable) (hselector : env selector = some v)
    (henv : Variables.AgreeBut selector env env') (hfront : PrecedesName front)
    (hname : Verb.ofName? name = some verb) (hplace : LeavesSelection verb before after)
    (reply : Reply) :
    runArguments (front ++ name :: (before ++ "--from-node-env" :: after)) env reply =
        ((Invocation.ofArguments (front ++ name :: (before ++ after))).withSelection
          ⟨some v, false⟩).run env' reply ∧
      runArguments (front ++ name :: (before ++ "--env" :: v :: after)) env' reply =
        ((Invocation.ofArguments (front ++ name :: (before ++ after))).withSelection
          ⟨some v, false⟩).run env' reply := by
  have hvariable := Invocation.ofArguments_insert hfront hname hplace (says_fromVariable verb) rfl
  have hnamed := Invocation.ofArguments_insert hfront hname hplace (says_environment verb v) rfl
  refine ⟨?_, congrArg (·.run env' reply) hnamed⟩
  calc runArguments (front ++ name :: (before ++ "--from-node-env" :: after)) env reply
    _ = ((Invocation.ofArguments (front ++ name :: (before ++ after))).withSelection
          ⟨none, true⟩).run env reply := congrArg (·.run env reply) hvariable
    _ = ((Invocation.ofArguments (front ++ name :: (before ++ after))).withSelection
          ⟨some v, false⟩).run env' reply := Invocation.run_withSelection hv hselector henv _ reply

/-! ## All three places -/

/-- **Selecting an environment comes to the same wherever it is done.**

By name every environment is loaded that a document other than the default one ships for, and the
registry records its name; anything else is refused as an unknown environment, among it the name of
the default document, the empty text and every text with a part of a path in it.

By the variable it is the value of this one variable that counts.  Without a value it is refused that
there is none; the two values that are allowed are loaded as they are by name, and this never fails;
every other value is refused.

By options it makes no difference whether a value that is allowed is named or left to the variable.
Two command lines with one or the other option in the same place, whatever the command and its other
arguments are, lead to the same run: to the same ending, the same log and the same requests.  It is
the run of what is asked for without the option, on the registry of the environment. -/
theorem selection_agrees :
    (∀ s, ((∃ r, load (some s) = .ok r) ↔
        s ∈ Catalog.documents.names ∧ s ≠ Catalog.defaultName) ∧
      (∀ r, load (some s) = .ok r → r.environment = some s) ∧
      (∀ fault, load (some s) = .error fault → fault.kind = .unknownEnvironment) ∧
      (s = Catalog.defaultName ∨ s = "" ∨ isPathLike s = true →
        ∃ fault, load (some s) = .error fault)) ∧
    (∀ env env' : Variables, env selector = env' selector → loadSelected env = loadSelected env') ∧
    (∀ env : Variables, env selector = none ∨ env selector = some "" →
      ∃ fault, loadSelected env = .error fault ∧ fault.kind = .missingSelector) ∧
    (∀ (env : Variables) v, env selector = some v →
      (v = "production" ∨ v = "development" →
        loadSelected env = load (some v) ∧ ∃ r, load (some v) = .ok r) ∧
      (v ≠ "" → v ≠ "production" → v ≠ "development" →
        ∃ fault, loadSelected env = .error fault ∧ fault.kind = .invalidSelector)) ∧
    ∀ (env env' : Variables) (reply : Reply) (v : String) (front : List String) (verb : Verb)
      (name : String) (before after : List String),
      v = "production" ∨ v = "development" → env selector = some v →
        Variables.AgreeBut selector env env' → PrecedesName front →
        Verb.ofName? name = some verb → LeavesSelection verb before after →
          runArguments (front ++ name :: (before ++ "--from-node-env" :: after)) env reply =
              runArguments (front ++ name :: (before ++ "--env" :: v :: after)) env' reply ∧
            runArguments (front ++ name :: (before ++ "--env" :: v :: after)) env' reply =
              ((Invocation.ofArguments (front ++ name :: (before ++ after))).withSelection
                ⟨some v, false⟩).run env' reply := by
  have hselectable : ∀ v, v ∈ selectable ↔ v = "production" ∨ v = "development" :=
    fun v => List.mem_pair
  refine ⟨fun s => ⟨?_, fun r => environment_of_load, fun fault hfault => ?_, fun hs => ?_⟩,
    fun env env' => loadSelected_congr, fun env hunset => ?_, fun env v hvalue => ⟨fun hv => ?_, ?_⟩,
    ?_⟩
  · rw [exists_load_iff, mem_environments_iff]
  · by_cases hs : s ∈ Catalog.environments
    · obtain ⟨r, hr⟩ := exists_load_of_mem_environments hs
      rw [hr] at hfault
      cases hfault
    · rw [load_of_not_mem hs] at hfault
      cases hfault
      rfl
  · rcases hs with rfl | rfl | hpath
    · exact ⟨_, load_of_not_mem (by decide)⟩
    · exact ⟨_, load_of_not_mem (by decide)⟩
    · exact ⟨_, load_of_isPathLike hpath⟩
  · exact ⟨_, loadSelected_of_unset hunset, rfl⟩
  · have hmem := (hselectable v).2 hv
    exact ⟨loadSelected_of_mem_selectable hvalue hmem,
      exists_load_of_mem_environments (mem_environments_of_mem_selectable hmem)⟩
  · intro hne hproduction hdevelopment
    have hnot : v ∉ selectable := fun h => ((hselectable v).1 h).elim hproduction hdevelopment
    exact ⟨_, loadSelected_of_not_mem_selectable hvalue hne hnot, rfl⟩
  · intro env env' reply v front verb name before after hv hselector henv hfront hname hplace
    obtain ⟨hvariable, hnamed⟩ := runArguments_of_selector ((hselectable v).2 hv) hselector henv
      hfront hname hplace reply
    exact ⟨hvariable.trans hnamed.symm, hnamed⟩

/-- The variables of a process in which the URL of one network is set, and the one that selects. -/
def selectingVariables (value : String) : Variables :=
  Variables.ofList [("ETHEREUM_RPC_URL", "http://a"), (selector, value)]

/-- A check of a network whose URL is in a variable, with the log switched on.  The environment is
left to the variable, and it is named where the variable holds a path. -/
theorem selection_agrees_for_check :
    (∃ r, loadSelected (selectingVariables "development") = .ok r ∧
      r.environment = some "development") ∧
    (∃ fault, loadSelected (selectingVariables "../data/development") = .error fault ∧
      fault.kind = .invalidSelector) ∧
    runArguments ["--debug", "check", "ethereum", "--from-node-env", "--rpc-url", ""]
        (selectingVariables "development") (.failed "refused") =
      runArguments ["--debug", "check", "ethereum", "--env", "development", "--rpc-url", ""]
        (selectingVariables "../data/development") (.failed "refused") := by
  obtain ⟨hname, -, -, hvalue, hoptions⟩ := selection_agrees
  obtain ⟨hsame, r, hr⟩ := (hvalue (selectingVariables "development") _ rfl).1 (Or.inr rfl)
  have hagree : Variables.AgreeBut selector (selectingVariables "development")
      (selectingVariables "../data/development") := by
    intro other hother
    have hne : (other == selector) = false := beq_false_of_ne hother
    simp only [selectingVariables, Variables.ofList, List.lookup_cons, hne]
  have hfront : PrecedesName ["--debug"] := by
    rintro s ⟨⟩
    exact ⟨rfl, rfl⟩
  have hplace : LeavesSelection .check ["ethereum"] ["--rpc-url", ""] := by
    constructor
    · rintro s ⟨⟩
      rfl
    · rintro s ⟨⟩
      rfl
  refine ⟨⟨r, hsame.trans hr, (hname _).2.1 r hr⟩, ?_, ?_⟩
  · exact (hvalue (selectingVariables "../data/development") _ rfl).2 (by decide) (by decide)
      (by decide)
  · exact (hoptions _ _ (.failed "refused") "development" ["--debug"] .check "check" ["ethereum"]
      ["--rpc-url", ""] (Or.inr rfl) rfl hagree hfront rfl hplace).1

end CommandLine
end ChainAtlas
