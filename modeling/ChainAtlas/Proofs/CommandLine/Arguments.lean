import ChainAtlas.CommandLine.Command
import Mathlib.Tactic.SplitIfs

/-!
# Command lines with common parts

Two commands are told to do alike by command lines that differ in nothing but the name of the
command.  That such command lines ask for alike commands takes three facts about scans.

* A scan that succeeds goes on in the same way where more options are known
  (`Scan.ofArguments_mono`): each step depends only on the options in one argument, and those that
  are known are found again.
* A scan sets nothing that no option of its grammar sets (`Scan.setsOnly_ofArguments`), so where
  only common options are known nothing is set that belongs to a single command.
* The options of the program end at the name of the command, and everything behind it is left to
  the command (`Invocation.ofArguments_of_run`).
-/

namespace ChainAtlas
namespace CommandLine

/-! ## Knowing more options -/

namespace Grammar

variable {g g' : Grammar} {found : Found} {letter : Char} {rest : List Char}

theorem readLetters_of_none (h : g.effectOfLetter? letter = none) :
    g.readLetters (letter :: rest) = none := by
  rw [readLetters.eq_def]
  simp only [h]

theorem readLetters_of_flag {setting : Setting}
    (h : g.effectOfLetter? letter = some (.flag setting)) :
    g.readLetters (letter :: rest) = (g.readLetters rest).map fun found =>
      { found with settings := setting :: found.settings } := by
  rw [readLetters.eq_def]
  simp only [h]

/-- What follows the letter of an option with a value is the value, unless there is nothing. -/
theorem readLetters_of_valued {setting : String → Setting}
    (h : g.effectOfLetter? letter = some (.valued setting)) :
    g.readLetters (letter :: rest) = Found.ofEffect (.valued setting)
      (if rest = [] then none else some (String.ofList rest)) := by
  rw [readLetters.eq_def]
  simp only [h]
  cases rest <;> rfl

/-- Whether a grammar knows every option of another, to the same effect, and takes operands
alike. -/
structure Extends (g' g : Grammar) : Prop where
  effectOfName? : ∀ name effect, g.effectOfName? name = some effect →
    g'.effectOfName? name = some effect
  effectOfLetter? : ∀ letter effect, g.effectOfLetter? letter = some effect →
    g'.effectOfLetter? letter = some effect
  afterOperands : g'.afterOperands = g.afterOperands

/-- Options may be added behind those that are known. -/
theorem extends_append (forms own : List OptionForm) (afterOperands : Bool) :
    Extends ⟨forms ++ own, afterOperands⟩ ⟨forms, afterOperands⟩ where
  effectOfName? name effect h := by
    obtain ⟨form, hform, heffect⟩ := Option.map_eq_some_iff.1 h
    rw [Grammar.effectOfName?, List.find?_append, hform, Option.some_or, Option.map_some, heffect]
  effectOfLetter? letter effect h := by
    obtain ⟨form, hform, heffect⟩ := Option.map_eq_some_iff.1 h
    rw [Grammar.effectOfLetter?, List.find?_append, hform, Option.some_or, Option.map_some, heffect]
  afterOperands := rfl

theorem readNamed_mono (hg : g'.Extends g) {argument : List Char}
    (h : g.readNamed argument = some found) : g'.readNamed argument = some found := by
  obtain ⟨effect, heffect, hfound⟩ := Option.bind_eq_some_iff.1 h
  exact Option.bind_eq_some_iff.2 ⟨effect, hg.effectOfName? _ _ heffect, hfound⟩

theorem readLetters_mono (hg : g'.Extends g) {letters : List Char}
    (h : g.readLetters letters = some found) : g'.readLetters letters = some found := by
  induction letters generalizing found with
  | nil => exact h
  | cons letter rest ih =>
    cases heffect : g.effectOfLetter? letter with
    | none =>
      rw [readLetters_of_none heffect] at h
      cases h
    | some effect =>
      have heffect' := hg.effectOfLetter? _ _ heffect
      cases effect with
      | flag setting =>
        rw [readLetters_of_flag heffect] at h
        obtain ⟨after, hafter, rfl⟩ := Option.map_eq_some_iff.1 h
        rw [readLetters_of_flag heffect', ih hafter, Option.map_some]
      | valued setting =>
        rw [readLetters_of_valued heffect] at h
        rw [readLetters_of_valued heffect', h]

theorem read_mono (hg : g'.Extends g) {argument : List Char}
    (h : g.read argument = some found) : g'.read argument = some found := by
  unfold read at h ⊢
  split at h
  · exact readNamed_mono hg h
  · exact readLetters_mono hg h

end Grammar

namespace Scan

variable {g g' : Grammar} {s t : Scan} {argument : String} {arguments : List String}

/-- A step is the same where more options are known. -/
theorem step_mono (hg : g'.Extends g) (h : step g s argument = some t) :
    step g' s argument = some t := by
  have hoperand : s.addOperand g' argument = s.addOperand g argument := by
    rw [addOperand, addOperand, hg.afterOperands]
  unfold step at h ⊢
  rw [hoperand]
  cases hmode : s.mode with
  | waiting setting => simpa only [hmode] using h
  | operandsOnly => simpa only [hmode] using h
  | free =>
    simp only [hmode] at h ⊢
    split_ifs at h ⊢
    · exact h
    · obtain ⟨found, hfound, rfl⟩ := Option.map_eq_some_iff.1 h
      rw [Grammar.read_mono hg hfound, Option.map_some]
    · exact h

/-- A run is the same where more options are known. -/
theorem run_mono (hg : g'.Extends g) (h : run g s arguments = some t) :
    run g' s arguments = some t := by
  induction arguments generalizing s with
  | nil => exact h
  | cons argument rest ih =>
    rw [run_cons] at h ⊢
    obtain ⟨next, hstep, hrest⟩ := Option.bind_eq_some_iff.1 h
    exact Option.bind_eq_some_iff.2 ⟨next, step_mono hg hstep, ih hrest⟩

/-- **What is understood is understood alike where more options are known.** -/
theorem ofArguments_mono (hg : g'.Extends g) (h : ofArguments g arguments = some s) :
    ofArguments g' arguments = some s := by
  obtain ⟨hrun, hcomplete⟩ := Option.filter_eq_some_iff.1 h
  exact Option.filter_eq_some_iff.2 ⟨run_mono hg hrun, hcomplete⟩

end Scan

/-! ## What options set -/

section SetsOnly

variable (P : Setting → Prop)

/-- Whether an option sets nothing but settings of a kind, whatever its value is. -/
def Effect.SetsOnly : Effect → Prop
  | .flag setting => P setting
  | .valued setting => ∀ value, P (setting value)

/-- Whether the value that is waited for, if there is one, makes a setting of a kind. -/
def Mode.SetsOnly : Mode → Prop
  | .waiting setting => ∀ value, P (setting value)
  | .free | .operandsOnly => True

/-- Whether the options of a grammar set nothing but settings of a kind. -/
def Grammar.SetsOnly (g : Grammar) : Prop := ∀ form ∈ g.forms, form.effect.SetsOnly P

/-- Whether the options in one argument set nothing but settings of a kind. -/
structure Found.SetsOnly (found : Found) : Prop where
  settings : ∀ setting ∈ found.settings, P setting
  mode : found.mode.SetsOnly P

/-- Whether a scan has set nothing but settings of a kind, and will set no other next. -/
structure Scan.SetsOnly (s : Scan) : Prop where
  settings : ∀ setting ∈ s.settings, P setting
  mode : s.mode.SetsOnly P

variable {P} {g : Grammar} {found : Found}

theorem Found.setsOnly_ofEffect {effect : Effect} (heffect : effect.SetsOnly P)
    {value : Option String} (h : Found.ofEffect effect value = some found) :
    found.SetsOnly P := by
  cases effect with
  | flag setting =>
    cases value with
    | none =>
      cases h
      exact ⟨List.forall_mem_singleton.2 heffect, trivial⟩
    | some value => cases h
  | valued setting =>
    cases value with
    | none =>
      cases h
      exact ⟨List.forall_mem_nil _, heffect⟩
    | some value =>
      cases h
      exact ⟨List.forall_mem_singleton.2 (heffect value), trivial⟩

namespace Grammar

theorem SetsOnly.effectOfName? (hg : g.SetsOnly P) {name : String} {effect : Effect}
    (h : g.effectOfName? name = some effect) : effect.SetsOnly P := by
  obtain ⟨form, hform, rfl⟩ := Option.map_eq_some_iff.1 h
  exact hg form (List.mem_of_find?_eq_some hform)

theorem SetsOnly.effectOfLetter? (hg : g.SetsOnly P) {letter : Char} {effect : Effect}
    (h : g.effectOfLetter? letter = some effect) : effect.SetsOnly P := by
  obtain ⟨form, hform, rfl⟩ := Option.map_eq_some_iff.1 h
  exact hg form (List.mem_of_find?_eq_some hform)

theorem setsOnly_readLetters (hg : g.SetsOnly P) {letters : List Char}
    (h : g.readLetters letters = some found) : found.SetsOnly P := by
  induction letters generalizing found with
  | nil =>
    cases h
    exact ⟨List.forall_mem_nil _, trivial⟩
  | cons letter rest ih =>
    cases heffect : g.effectOfLetter? letter with
    | none =>
      rw [readLetters_of_none heffect] at h
      cases h
    | some effect =>
      have hsets := hg.effectOfLetter? heffect
      cases effect with
      | flag setting =>
        rw [readLetters_of_flag heffect] at h
        obtain ⟨after, hafter, rfl⟩ := Option.map_eq_some_iff.1 h
        exact ⟨List.forall_mem_cons.2 ⟨hsets, (ih hafter).settings⟩, (ih hafter).mode⟩
      | valued setting =>
        rw [readLetters_of_valued heffect] at h
        exact Found.setsOnly_ofEffect hsets h

theorem setsOnly_read (hg : g.SetsOnly P) {argument : List Char}
    (h : g.read argument = some found) : found.SetsOnly P := by
  unfold read at h
  split at h
  · obtain ⟨effect, heffect, hfound⟩ := Option.bind_eq_some_iff.1 h
    exact Found.setsOnly_ofEffect (hg.effectOfName? heffect) hfound
  · exact setsOnly_readLetters hg h

end Grammar

namespace Scan

variable {s t : Scan} {argument : String} {arguments : List String}

theorem SetsOnly.add (hs : s.SetsOnly P) (hfound : found.SetsOnly P) :
    (s.add found).SetsOnly P where
  settings setting hmem := by
    rcases List.mem_append.1 hmem with hold | hnew
    · exact hs.settings setting hold
    · exact hfound.settings setting hnew
  mode := hfound.mode

theorem SetsOnly.addOperand (hs : s.SetsOnly P) (argument : String) :
    (s.addOperand g argument).SetsOnly P where
  settings := hs.settings
  mode := by
    show Mode.SetsOnly P (if g.afterOperands then s.mode else .operandsOnly)
    split
    · exact hs.mode
    · trivial

/-- One argument sets what an option in it sets, or what was waited for. -/
theorem setsOnly_step (hg : g.SetsOnly P) (hs : s.SetsOnly P) (h : step g s argument = some t) :
    t.SetsOnly P := by
  unfold step at h
  cases hmode : s.mode with
  | waiting setting =>
    have hsets : Mode.SetsOnly P (.waiting setting) := hmode ▸ hs.mode
    simp only [hmode] at h
    cases h
    exact hs.add ⟨List.forall_mem_singleton.2 (hsets argument), trivial⟩
  | operandsOnly =>
    simp only [hmode] at h
    cases h
    exact hs.addOperand argument
  | free =>
    simp only [hmode] at h
    split_ifs at h
    · cases h
      exact ⟨hs.settings, trivial⟩
    · obtain ⟨found, hfound, rfl⟩ := Option.map_eq_some_iff.1 h
      exact hs.add (Grammar.setsOnly_read hg hfound)
    · cases h
      exact hs.addOperand argument

theorem setsOnly_run (hg : g.SetsOnly P) (hs : s.SetsOnly P) (h : run g s arguments = some t) :
    t.SetsOnly P := by
  induction arguments generalizing s with
  | nil =>
    cases h
    exact hs
  | cons argument rest ih =>
    rw [run_cons] at h
    obtain ⟨next, hstep, hrest⟩ := Option.bind_eq_some_iff.1 h
    exact ih (setsOnly_step hg hs hstep) hrest

/-- **A command line sets nothing that no option sets.** -/
theorem setsOnly_ofArguments (hg : g.SetsOnly P) (h : ofArguments g arguments = some s) :
    s.SetsOnly P :=
  have hstart : SetsOnly P {} := ⟨List.forall_mem_nil _, trivial⟩
  setsOnly_run hg hstart (Option.filter_eq_some_iff.1 h).1

end Scan
end SetsOnly

/-! ## The name of the command -/

namespace Scan

variable {g : Grammar} {s : Scan} {arguments : List String}

/-- Where only operands are left, every argument is one. -/
theorem run_of_operandsOnly (hmode : s.mode = .operandsOnly) :
    run g s arguments = some { s with operands := s.operands ++ arguments } := by
  induction arguments generalizing s with
  | nil => simp [run]
  | cons argument rest ih =>
    have hstep : step g s argument = some { s with operands := s.operands ++ [argument] } := by
      simp [step, addOperand, hmode]
    have hrest := @ih { s with operands := s.operands ++ [argument] } hmode
    rw [run_cons, hstep, Option.bind_some, hrest, List.append_assoc]
    rfl

end Scan

/-- Whether arguments are options of the program, with which the log is switched on or not, and do not
ask for help. -/
def AreProgramOptions (front : List String) (debug : Bool) : Prop :=
  ∃ s, Scan.ofArguments programGrammar front = some s ∧ s.operands = [] ∧ s.has .help = false ∧
    s.has .debug = debug

variable {front arguments : List String} {debug : Bool} {verb : Verb} {name network : String}
  {selection : Selection}

/-- The name of a command is no option. -/
theorem Verb.not_holdsOptions (h : ofName? name = some verb) :
    name ≠ "--" ∧ Grammar.holdsOptions name.toList = false := by
  obtain ⟨before, after, htable, -⟩ := List.lookup_eq_some_iff.1 h
  have hmem : (name, verb) ∈ before ++ (name, verb) :: after :=
    List.mem_append_right _ List.mem_cons_self
  rw [← htable] at hmem
  simp only [List.mem_cons, List.not_mem_nil, or_false, Prod.mk.injEq] at hmem
  rcases hmem with ⟨rfl, -⟩ | ⟨rfl, -⟩ | ⟨rfl, -⟩ | ⟨rfl, -⟩ | ⟨rfl, -⟩ <;> decide

/-- **Behind the name of a command everything is left to the command.**  Only a request for help in
front of the name is granted before. -/
theorem Invocation.ofArguments_of_run {s : Scan} (hrun : Scan.run programGrammar {} front = some s)
    (hoperands : s.operands = []) (hcomplete : s.isComplete = true)
    (hname : Verb.ofName? name = some verb) (arguments : List String) :
    ofArguments (front ++ name :: arguments) =
      if s.has .help then .help else ofVerb (s.has .debug) verb arguments := by
  obtain ⟨hdashes, hnone⟩ := Verb.not_holdsOptions hname
  have hstep : Scan.step programGrammar s name =
      some { s with operands := [name], mode := .operandsOnly } := by
    cases hmode : s.mode with
    | waiting setting => simp [Scan.isComplete, hmode] at hcomplete
    | operandsOnly => simp [Scan.step, Scan.addOperand, hmode, hoperands, programGrammar]
    | free =>
      simp [Scan.step, Scan.addOperand, hmode, hoperands, hdashes, hnone, programGrammar]
  have hwhole : Scan.ofArguments programGrammar (front ++ name :: arguments) =
      some { s with operands := name :: arguments, mode := .operandsOnly } := by
    rw [Scan.ofArguments, Scan.run_append, hrun, Option.bind_some, Scan.run_cons, hstep,
      Option.bind_some, Scan.run_of_operandsOnly rfl]
    rfl
  rw [ofArguments, hwhole]
  simp only [hname]
  rfl

theorem Invocation.ofArguments_append (hfront : AreProgramOptions front debug)
    (hname : Verb.ofName? name = some verb) (arguments : List String) :
    ofArguments (front ++ name :: arguments) = ofVerb debug verb arguments := by
  obtain ⟨s, hscan, hoperands, hhelp, rfl⟩ := hfront
  obtain ⟨hrun, hcomplete⟩ := Option.filter_eq_some_iff.1 hscan
  rw [ofArguments_of_run hrun hoperands hcomplete hname, hhelp]
  rfl

/-! ## Common arguments -/

/-- The options that every command knows. -/
def commonGrammar : Grammar := ⟨commonForms, true⟩

theorem Verb.extends_commonGrammar (verb : Verb) : verb.grammar.Extends commonGrammar :=
  Grammar.extends_append commonForms verb.ownForms true

/-- Whether a setting is one that every command knows. -/
def Setting.IsCommon : Setting → Prop
  | .help | .fromVariable | .environment _ => True
  | .debug | .protocol _ | .url _ | .network _ => False

theorem setsOnly_commonGrammar : commonGrammar.SetsOnly Setting.IsCommon := by
  intro form hform
  simp only [commonGrammar, commonForms, List.mem_cons, List.not_mem_nil, or_false] at hform
  rcases hform with rfl | rfl | rfl
  · trivial
  · exact fun _ => trivial
  · trivial

/-- Whether arguments that every command understands name a network and nothing else, select a
registry, and do not ask for help. -/
def NameNetwork (arguments : List String) (network : String) (selection : Selection) : Prop :=
  ∃ s, Scan.ofArguments commonGrammar arguments = some s ∧ s.has .help = false ∧
    s.operands = [network] ∧ s.selection = selection

namespace Scan

variable {s : Scan}

/-- Nothing is the last value of a setting that is not there. -/
theorem last?_eq_none {P : Setting → Prop} (hs : s.SetsOnly P) {value? : Setting → Option String}
    (hnone : ∀ setting, P setting → value? setting = none) : s.last? value? = none := by
  have hempty : s.settings.filterMap value? = [] :=
    List.filterMap_eq_nil_iff.2 fun setting hmem => hnone setting (hs.settings setting hmem)
  rw [last?, hempty, List.getLast?_nil]

theorem protocolTag?_eq_none (hs : s.SetsOnly Setting.IsCommon) : s.protocolTag? = none :=
  last?_eq_none hs fun setting h => by cases setting <;> first | rfl | exact h.elim

theorem url?_eq_none (hs : s.SetsOnly Setting.IsCommon) : s.url? = none :=
  last?_eq_none hs fun setting h => by cases setting <;> first | rfl | exact h.elim

end Scan

/-- **Command lines that differ in the name of the command ask for the same network in the same
registry.** -/
theorem Invocation.ofArguments_of_nameNetwork (hfront : AreProgramOptions front debug)
    (harguments : NameNetwork arguments network selection) :
    ofArguments (front ++ "rpc" :: arguments) =
        .perform debug (.rpc network .http selection) ∧
      ofArguments (front ++ "check" :: arguments) =
        .perform debug (.check network none selection) := by
  obtain ⟨s, hscan, hhelp, hoperands, rfl⟩ := harguments
  have hs := Scan.setsOnly_ofArguments setsOnly_commonGrammar hscan
  have hunderstood := fun verb : Verb => Scan.ofArguments_mono verb.extends_commonGrammar hscan
  constructor
  · have hcommand : Command.ofScan? .rpc s = some (.rpc network .http s.selection) := by
      simp [Command.ofScan?, hoperands, Scan.protocolTag?_eq_none hs]
    rw [ofArguments_append hfront rfl, ofVerb, hunderstood]
    simp [hhelp, hcommand]
  · have hcommand : Command.ofScan? .check s = some (.check network none s.selection) := by
      simp [Command.ofScan?, hoperands, Scan.url?_eq_none hs]
    rw [ofArguments_append hfront rfl, ofVerb, hunderstood]
    simp [hhelp, hcommand]

end CommandLine
end ChainAtlas
