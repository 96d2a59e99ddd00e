import ChainAtlas.Proofs.CommandLine.Arguments

/-!
# Putting an option somewhere

An option may stand anywhere between the arguments of a command, as long as it is not taken for
something else there: for the value of the option before it, or for an operand behind `--`.  What the
option says then goes between what was said before it and what is said after it, and nothing else
about the command line changes.

The reason is that a scan never looks at what was set already.  It does the same after more settings
as after fewer (`Scan.run_prepend`), so the arguments behind the option are scanned as they would be
without it (`Scan.exists_ofArguments_insert`).  For an option that selects the registry this means
that the command line asks for the same command with another selection
(`Invocation.ofArguments_insert`).
-/

namespace ChainAtlas
namespace CommandLine

variable {g : Grammar} {front before after option arguments : List String} {debug : Bool}
  {verb : Verb} {name argument : String} {setting : Setting} {selection : Selection}

namespace Scan

variable {s t : Scan}

/-! ## What was set before -/

/-- A scan with more settings in front. -/
def prepend (earlier : List Setting) (s : Scan) : Scan :=
  { s with settings := earlier ++ s.settings }

/-- A step does not look at what was set before. -/
theorem step_prepend (g : Grammar) (earlier : List Setting) (s : Scan) (argument : String) :
    step g (s.prepend earlier) argument = (step g s argument).map (prepend earlier) := by
  have hadd : ∀ found, (s.prepend earlier).add found = (s.add found).prepend earlier := by
    intro found
    rw [add, add, prepend, prepend, List.append_assoc]
  cases hmode : s.mode with
  | waiting setting =>
    have hwaiting : (s.prepend earlier).mode = .waiting setting := hmode
    simp only [step, hmode, hwaiting, Option.map_some, hadd]
  | operandsOnly => simp only [step, prepend, hmode, Option.map_some, addOperand]
  | free =>
    have hfree : (s.prepend earlier).mode = .free := hmode
    simp only [step, hmode, hfree]
    split_ifs
    · rfl
    · rw [Option.map_map]
      exact congrArg (Option.map · _) (funext hadd)
    · simp only [addOperand, prepend, Option.map_some, hmode]

/-- **A run does not look at what was set before.** -/
theorem run_prepend (g : Grammar) (earlier : List Setting) (s : Scan) (arguments : List String) :
    run g (s.prepend earlier) arguments = (run g s arguments).map (prepend earlier) := by
  induction arguments generalizing s with
  | nil => rfl
  | cons argument rest ih =>
    rw [run_cons, run_cons, step_prepend]
    cases step g s argument with
    | none => rfl
    | some t => exact ih t

/-! ## An option between other arguments -/

/-- Whether arguments are an option with all that belongs to it, and say one thing. -/
def Says (g : Grammar) (option : List String) (setting : Setting) : Prop :=
  ∀ s : Scan, s.mode = .free → run g s option = some (s.add ⟨[setting], .free⟩)

/-- Whether an option may stand behind arguments. -/
def EndsFree (g : Grammar) (before : List String) : Prop :=
  ∀ s, run g {} before = some s → s.mode = .free

/-- **What an option says goes between what is said before it and after it.** -/
theorem exists_ofArguments_insert (hbefore : EndsFree g before) (after : List String) :
    ∃ (earlier : List Setting) (rest : Option Scan),
      ofArguments g (before ++ after) = rest.map (prepend earlier) ∧
      ∀ option setting, Says g option setting →
        ofArguments g (before ++ (option ++ after)) =
          rest.map (prepend (earlier ++ [setting])) := by
  cases hrun : run g {} before with
  | none =>
    have hnone : ∀ behind, ofArguments g (before ++ behind) = none := fun behind => by
      rw [ofArguments, run_append, hrun]
      rfl
    exact ⟨[], none, hnone after, fun option _ _ => hnone (option ++ after)⟩
  | some s =>
    have hmode := hbefore s hrun
    let start : Scan := { s with settings := [] }
    -- with or without the option, the arguments behind are scanned as if nothing had been set
    have hscan : ∀ middle earlier, run g s middle = some (start.prepend earlier) →
        ofArguments g (before ++ (middle ++ after)) =
          ((run g start after).filter isComplete).map (prepend earlier) := by
      intro middle earlier hmiddle
      rw [ofArguments, run_append, hrun, Option.bind_some, run_append, hmiddle, Option.bind_some,
        run_prepend, Option.filter_map]
      rfl
    have hnothing : run g s [] = some (start.prepend s.settings) := by
      rw [prepend, List.append_nil]
      rfl
    refine ⟨s.settings, (run g start after).filter isComplete, hscan [] _ hnothing, ?_⟩
    intro option setting hoption
    have hadded : s.add ⟨[setting], .free⟩ = start.prepend (s.settings ++ [setting]) := by
      rw [add, prepend, List.append_nil, ← hmode]
    exact hscan option _ ((hoption s hmode).trans (congrArg some hadded))

end Scan

/-! ## An option that selects the registry -/

/-- The selection that a setting makes by itself, if it makes one. -/
def Setting.selection? : Setting → Option Selection
  | .fromVariable => some ⟨none, true⟩
  | .environment name => some ⟨some name, false⟩
  | .help | .debug | .protocol _ | .url _ | .network _ => none

/-- The option that selects by the variable says so, and nothing else. -/
theorem says_fromVariable (verb : Verb) :
    Scan.Says verb.grammar ["--from-node-env"] .fromVariable := by
  intro s hmode
  have hstep : Scan.step commonGrammar s "--from-node-env" =
      some (s.add ⟨[.fromVariable], .free⟩) := by
    rw [Scan.step, hmode]
    rfl
  rw [Scan.run_cons, Scan.step_mono verb.extends_commonGrammar hstep]
  rfl

/-- The option that names an environment says which, and nothing else. -/
theorem says_environment (verb : Verb) (v : String) :
    Scan.Says verb.grammar ["--env", v] (.environment v) := by
  intro s hmode
  have hstep : Scan.step commonGrammar s "--env" = some (s.add ⟨[], .waiting .environment⟩) := by
    rw [Scan.step, hmode]
    rfl
  rw [Scan.run_cons, Scan.step_mono verb.extends_commonGrammar hstep, Option.bind_some, Scan.add,
    List.append_nil]
  rfl

namespace Scan

variable {s t : Scan} {earlier : List Setting} {value? : Setting → Option String}

/-- What an option does not speak of has the same last value with it and without it. -/
theorem last?_insert (h : value? setting = none) (t : Scan) (earlier : List Setting) :
    (t.prepend (earlier ++ [setting])).last? value? = (t.prepend earlier).last? value? := by
  simp only [last?, prepend, List.filterMap_append, List.filterMap_cons, List.filterMap_nil, h,
    List.append_nil]

theorem has_insert {other : Setting} (h : setting ≠ other) (t : Scan) (earlier : List Setting) :
    (t.prepend (earlier ++ [setting])).has other = (t.prepend earlier).has other := by
  simp [has, prepend, h.symm]

/-- A value that was not there before is the last one. -/
theorem last?_insert_of_none {value : String} (h : value? setting = some value)
    (hnone : (t.prepend earlier).last? value? = none) :
    (t.prepend (earlier ++ [setting])).last? value? = some value := by
  simp only [last?, prepend, List.getLast?_eq_none_iff, List.filterMap_append,
    List.append_eq_nil_iff] at hnone ⊢
  rw [hnone.1, hnone.2]
  simp [h]

/-- **Where nothing is selected an option selects what it says.** -/
theorem selection_insert (hselects : setting.selection? = some selection)
    (hnothing : (t.prepend earlier).selection = ⟨none, false⟩) :
    (t.prepend (earlier ++ [setting])).selection = selection := by
  have henvironment : (t.prepend earlier).environment? = none :=
    congrArg Selection.environment hnothing
  have hvariable : (t.prepend earlier).has .fromVariable = false :=
    congrArg Selection.fromVariable hnothing
  cases setting with
  | fromVariable =>
    cases hselects
    have hsame : (t.prepend (earlier ++ [.fromVariable])).environment? = none :=
      (last?_insert rfl t earlier).trans henvironment
    have hset : (t.prepend (earlier ++ [.fromVariable])).has .fromVariable = true := by
      simp [has, prepend]
    rw [selection, hsame, hset]
  | environment name =>
    cases hselects
    have hname : (t.prepend (earlier ++ [.environment name])).environment? = some name :=
      last?_insert_of_none rfl henvironment
    have hother : Setting.environment name ≠ .fromVariable := by rintro ⟨⟩
    have hsame : (t.prepend (earlier ++ [.environment name])).has .fromVariable = false :=
      (has_insert hother t earlier).trans hvariable
    rw [selection, hname, hsame]
  | _ => cases hselects

end Scan

namespace Command

/-- A command on the registry of another selection. -/
def withSelection (selection : Selection) : Command → Command
  | .networks _ => .networks selection
  | .address network contract _ => .address network contract selection
  | .rpc network protocol _ => .rpc network protocol selection
  | .check network url _ => .check network url selection
  | .configOp method value network _ => .configOp method value network selection

/-- Scans that differ in the selection at most describe commands that differ in the selection at
most. -/
theorem ofScan?_congr {s t : Scan} (hoperands : t.operands = s.operands)
    (hprotocol : t.protocolTag? = s.protocolTag?) (hurl : t.url? = s.url?)
    (hnetwork : t.network? = s.network?) (verb : Verb) :
    ofScan? verb t = (ofScan? verb s).map (withSelection t.selection) := by
  unfold ofScan?
  rw [hoperands, hprotocol, hurl, hnetwork]
  split <;> simp only [*, Option.map_some, Option.map_map, Option.map_none] <;> rfl

end Command

/-- Whether an option that selects may stand between the arguments of a command, and these arguments
select nothing themselves. -/
structure LeavesSelection (verb : Verb) (before after : List String) : Prop where
  endsFree : Scan.EndsFree verb.grammar before
  unselected : ∀ s, Scan.ofArguments verb.grammar (before ++ after) = some s →
    s.selection = ⟨none, false⟩

/-- Whether the argument after these, if they make sense, is the name of a command. -/
def PrecedesName (front : List String) : Prop :=
  ∀ s, Scan.run programGrammar {} front = some s → s.operands = [] ∧ s.isComplete = true

namespace Invocation

/-- What is asked for, on the registry of another selection. -/
def withSelection (selection : Selection) : Invocation → Invocation
  | .misused => .misused
  | .help => .help
  | .perform debug command => .perform debug (command.withSelection selection)

theorem ofVerb_insert (hplace : LeavesSelection verb before after)
    (hoption : Scan.Says verb.grammar option setting)
    (hselects : setting.selection? = some selection) (debug : Bool) :
    ofVerb debug verb (before ++ (option ++ after)) =
      (ofVerb debug verb (before ++ after)).withSelection selection := by
  obtain ⟨earlier, rest, hwithout, hwith⟩ := Scan.exists_ofArguments_insert hplace.endsFree after
  rw [ofVerb, ofVerb, hwith option setting hoption]
  cases rest with
  | none =>
    rw [hwithout]
    rfl
  | some t =>
    have hselection := Scan.selection_insert hselects (hplace.unselected _ hwithout)
    -- whatever the setting selects, it is about nothing else
    have hother : setting ≠ .help ∧ ∀ value? : Setting → Option String,
        value? .fromVariable = none → (∀ name, value? (.environment name) = none) →
          value? setting = none := by
      cases setting with
      | fromVariable => exact ⟨by rintro ⟨⟩, fun _ hvariable _ => hvariable⟩
      | environment name => exact ⟨by rintro ⟨⟩, fun _ _ henvironment => henvironment name⟩
      | _ => cases hselects
    have hsame := fun value? hvariable henvironment =>
      Scan.last?_insert (hother.2 value? hvariable henvironment) t earlier
    have hcommand := Command.ofScan?_congr (s := t.prepend earlier)
      (t := t.prepend (earlier ++ [setting])) rfl (hsame _ rfl fun _ => rfl)
      (hsame _ rfl fun _ => rfl) (hsame _ rfl fun _ => rfl) verb
    rw [hwithout]
    simp only [Option.map_some, Scan.has_insert hother.1, hcommand, hselection]
    split
    · rfl
    · cases Command.ofScan? verb (t.prepend earlier) <;> rfl

/-- **An option that selects changes the selection and nothing else.** -/
theorem ofArguments_insert (hfront : PrecedesName front) (hname : Verb.ofName? name = some verb)
    (hplace : LeavesSelection verb before after)
    (hoption : Scan.Says verb.grammar option setting)
    (hselects : setting.selection? = some selection) :
    ofArguments (front ++ name :: (before ++ (option ++ after))) =
      (ofArguments (front ++ name :: (before ++ after))).withSelection selection := by
  cases hrun : Scan.run programGrammar {} front with
  | none =>
    have hmisused : ∀ behind, ofArguments (front ++ behind) = .misused := by
      intro behind
      have hnone : Scan.ofArguments programGrammar (front ++ behind) = none := by
        rw [Scan.ofArguments, Scan.run_append, hrun]
        rfl
      rw [ofArguments, hnone]
    rw [hmisused, hmisused]
    rfl
  | some s =>
    obtain ⟨hoperands, hcomplete⟩ := hfront s hrun
    rw [ofArguments_of_run hrun hoperands hcomplete hname,
      ofArguments_of_run hrun hoperands hcomplete hname, ofVerb_insert hplace hoption hselects]
    split <;> rfl

end Invocation
end CommandLine
end ChainAtlas
