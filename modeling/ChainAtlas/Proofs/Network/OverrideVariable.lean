import ChainAtlas.Proofs.Network.Resolution
import ChainAtlas.Text.Ascii
import Mathlib.Data.List.Chain

/-!
# The name of a variable, and back

The variable of a network is named by dividing the name of the network into words and spelling them in
capitals.  Whatever the name is, this gives an identifier (`isVariableChar_of_mem`).  It forgets two
things: the case of the letters, and what stood where an underscore stands.  In camel case neither is
a loss.  A capital always starts a word there, so it always has an underscore before it, and no other
letter has one.  So the name is read back by joining the words again (`nameOf_overrideVariable`), and
networks with different names have different variables.

The reading is by induction on the name.  The character in front of the part that is left decides
whether a word starts there, so the statement carries it along (`exists_divideWords_eq_cons`).
-/

namespace ChainAtlas
namespace Network

/-! ## Characters -/

/-- Whether a character may stand in the name of a variable: a capital, a digit or an underscore. -/
def IsVariableChar (c : Char) : Prop := 'A' ≤ c ∧ c ≤ 'Z' ∨ '0' ≤ c ∧ c ≤ '9' ∨ c = '_'

instance : DecidablePred IsVariableChar := fun c =>
  inferInstanceAs (Decidable ('A' ≤ c ∧ c ≤ 'Z' ∨ '0' ≤ c ∧ c ≤ '9' ∨ c = '_'))

theorem toNat_lt_of_le {c : Char} (last : UInt32) (hlast : last.toNat < 0x80) (h : c.val ≤ last) :
    c.toNat < 0x80 :=
  lt_of_le_of_lt (UInt32.le_iff_toNat_le.1 h) hlast

theorem toNat_lt_of_isAlphanum {c : Char} (h : c.isAlphanum = true) : c.toNat < 0x80 := by
  have hkinds : ((c.isUpper || c.isLower) || c.isDigit) = true := h
  rw [Bool.or_eq_true, Bool.or_eq_true] at hkinds
  rcases hkinds with (hupper | hlower) | hdigit
  · have hrange : c.val ≥ 'A'.val ∧ c.val ≤ 'Z'.val := of_decide_eq_true hupper
    exact toNat_lt_of_le _ (by decide) hrange.2
  · have hrange : (decide (c.val ≥ 'a'.val) && decide (c.val ≤ 'z'.val)) = true := hlower
    exact toNat_lt_of_le _ (by decide) (of_decide_eq_true (Bool.and_eq_true_iff.1 hrange).2)
  · have hrange : (decide (c.val ≥ '0'.val) && decide (c.val ≤ '9'.val)) = true := hdigit
    exact toNat_lt_of_le _ (by decide) (of_decide_eq_true (Bool.and_eq_true_iff.1 hrange).2)

/-- What holds of the letters and digits among the first 128 code points holds of all of them. -/
theorem forall_alphanum {P : Char → Prop}
    (h : ∀ n < 0x80, (Char.ofNat n).isAlphanum = true → P (Char.ofNat n)) {c : Char}
    (hc : c.isAlphanum = true) : P c :=
  Text.forall_ascii (P := fun c => c.isAlphanum = true → P c) h (toNat_lt_of_isAlphanum hc) hc

theorem isVariableChar_variableChar (c : Char) : IsVariableChar (variableChar c) := by
  rw [variableChar]
  split
  · next h => exact forall_alphanum (P := fun c => IsVariableChar c.toUpper) (by decide +kernel) h
  · exact Or.inr (Or.inr rfl)

/-- A character as it comes back in lower case from the name of a variable. -/
def lowered (c : Char) : Char := (variableChar c).toLower

theorem lowered_underscore : lowered '_' = '_' := by decide

/-- A letter or digit comes back as none of the underscores. -/
theorem lowered_ne_underscore {c : Char} (h : c.isAlphanum = true) : lowered c ≠ '_' :=
  forall_alphanum (P := fun c => lowered c ≠ '_') (by decide +kernel) h

/-- A small letter and a digit come back as they are. -/
theorem lowered_of_not_isUpper {c : Char} (h : c.isAlphanum = true) (hc : c.isUpper = false) :
    lowered c = c :=
  forall_alphanum (P := fun c => c.isUpper = false → lowered c = c) (by decide +kernel) h hc

/-- A capital comes back once its case is mended. -/
theorem toUpper_lowered {c : Char} (h : c.isAlphanum = true) (hc : c.isUpper = true) :
    (lowered c).toUpper = c :=
  forall_alphanum (P := fun c => c.isUpper = true → (lowered c).toUpper = c) (by decide +kernel) h hc

/-- A capital starts a word unless it follows another capital. -/
theorem isWordBreak_eq_isUpper {c d : Char} (h : c.isAlphanum = true)
    (happart : (c.isUpper && d.isUpper) = false) : isWordBreak c d = d.isUpper := by
  rw [isWordBreak]
  cases hd : d.isUpper with
  | false => rw [Bool.and_false]
  | true =>
    have hc : c.isUpper = false := by
      rwa [hd, Bool.and_true] at happart
    have hkinds : ((c.isUpper || c.isLower) || c.isDigit) = true := h
    rw [hc, Bool.false_or] at hkinds
    rw [hkinds, Bool.and_true]

/-! ## Joining words -/

/-- A text without its underscores, with the letter after each of them in capitals. -/
def joinWords : (raised : Bool) → List Char → List Char
  | _, [] => []
  | raised, c :: rest =>
    if c = '_' then joinWords true rest
    else (if raised then c.toUpper else c) :: joinWords false rest

theorem joinWords_underscore (raised : Bool) (rest : List Char) :
    joinWords raised ('_' :: rest) = joinWords true rest := rfl

theorem joinWords_cons_of_ne {c : Char} (h : c ≠ '_') (raised : Bool) (rest : List Char) :
    joinWords raised (c :: rest) = (if raised then c.toUpper else c) :: joinWords false rest := by
  rw [joinWords, if_neg h]

theorem joinWords_lowered_capital {c : Char} (h : c.isAlphanum = true) (hc : c.isUpper = true)
    (rest : List Char) : joinWords true (lowered c :: rest) = c :: joinWords false rest := by
  rw [joinWords_cons_of_ne (lowered_ne_underscore h), if_pos rfl, toUpper_lowered h hc]

theorem joinWords_lowered_other {c : Char} (h : c.isAlphanum = true) (hc : c.isUpper = false)
    (rest : List Char) : joinWords false (lowered c :: rest) = c :: joinWords false rest := by
  rw [joinWords_cons_of_ne (lowered_ne_underscore h), lowered_of_not_isUpper h hc]
  rfl

/-- The name that a variable is read back as: without its end, in lower case, its words joined. -/
def nameOf (variableName : String) : String :=
  let stem := variableName.toList.take (variableName.length - overrideSuffix.length)
  String.ofList (joinWords false (stem.map Char.toLower))

/-! ## Camel case -/

/-- Whether a name is in camel case: ASCII letters and digits, with a capital neither at the start nor
after another capital. -/
structure IsCamelCase (name : String) : Prop where
  isAlphanum : ∀ c ∈ name.toList, c.isAlphanum = true
  head_not_isUpper : ∀ c ∈ name.toList.head?, c.isUpper = false
  isChain : name.toList.IsChain fun c d => (c.isUpper && d.isUpper) = false

-- The first two conditions are decided as Booleans, on the characters that are there and no others.
instance : DecidablePred IsCamelCase := fun name =>
  decidable_of_iff
    (name.toList.all Char.isAlphanum = true ∧ name.toList.head?.all (fun c => !c.isUpper) = true ∧
      name.toList.IsChain fun c d => (c.isUpper && d.isUpper) = false) <| by
    rw [List.all_eq_true, Option.all_eq_true]
    simp only [Bool.not_eq_true']
    exact ⟨fun ⟨hchars, hhead, hchain⟩ => ⟨hchars, hhead, hchain⟩,
      fun h => ⟨h.isAlphanum, h.head_not_isUpper, h.isChain⟩⟩

/-- **Divided words are joined again.**  The first character stays, and what is put behind it is
joined to what stood behind it. -/
theorem exists_divideWords_eq_cons {c : Char} {rest : List Char}
    (hchars : ∀ d ∈ c :: rest, d.isAlphanum = true)
    (happart : (c :: rest).IsChain fun c d => (c.isUpper && d.isUpper) = false) :
    ∃ tail, divideWords (c :: rest) = c :: tail ∧ joinWords false (tail.map lowered) = rest := by
  induction rest generalizing c with
  | nil => exact ⟨[], rfl, rfl⟩
  | cons d rest ih =>
    obtain ⟨hc, hrest⟩ := List.forall_mem_cons.1 hchars
    obtain ⟨hcd, hchain⟩ := List.isChain_cons_cons.1 happart
    obtain ⟨tail, htail, hjoined⟩ := ih hrest hchain
    have hd : d.isAlphanum = true := hrest d List.mem_cons_self
    rw [divideWords, isWordBreak_eq_isUpper hc hcd, htail]
    cases hupper : d.isUpper with
    | true =>
      refine ⟨'_' :: d :: tail, rfl, ?_⟩
      rw [List.map_cons, lowered_underscore, joinWords_underscore, List.map_cons,
        joinWords_lowered_capital hd hupper, hjoined]
    | false =>
      refine ⟨d :: tail, rfl, ?_⟩
      rw [List.map_cons, joinWords_lowered_other hd hupper, hjoined]

theorem joinWords_divideWords {name : String} (h : IsCamelCase name) :
    joinWords false ((divideWords name.toList).map lowered) = name.toList := by
  obtain ⟨hchars, hhead, hchain⟩ := h
  cases hname : name.toList with
  | nil => rfl
  | cons c rest =>
    rw [hname] at hchars hhead hchain
    obtain ⟨tail, htail, hjoined⟩ := exists_divideWords_eq_cons hchars hchain
    rw [htail, List.map_cons, joinWords_lowered_other (hchars c List.mem_cons_self) (hhead c rfl),
      hjoined]

/-! ## Variables -/

theorem toList_overrideVariable (name : String) : (overrideVariable name).toList =
    (divideWords name.toList).map variableChar ++ overrideSuffix.toList := by
  rw [overrideVariable, String.toList_append, String.toList_ofList]

theorem isVariableChar_of_mem {name : String} {c : Char} (h : c ∈ (overrideVariable name).toList) :
    IsVariableChar c := by
  rw [toList_overrideVariable, List.mem_append] at h
  rcases h with h | h
  · obtain ⟨d, -, rfl⟩ := List.mem_map.1 h
    exact isVariableChar_variableChar d
  · have hsuffix : overrideSuffix.toList.all (fun c => decide (IsVariableChar c)) = true := by decide
    exact of_decide_eq_true (List.all_eq_true.1 hsuffix c h)

/-- **A name in camel case is read back from its variable.** -/
theorem nameOf_overrideVariable {name : String} (h : IsCamelCase name) :
    nameOf (overrideVariable name) = name := by
  have hstem : (overrideVariable name).toList.take
      ((overrideVariable name).length - overrideSuffix.length) =
        (divideWords name.toList).map variableChar := by
    rw [← String.length_toList, ← String.length_toList, toList_overrideVariable, List.length_append,
      Nat.add_sub_cancel, List.take_left]
  show String.ofList (joinWords false (((overrideVariable name).toList.take
    ((overrideVariable name).length - overrideSuffix.length)).map Char.toLower)) = name
  rw [hstem, List.map_map]
  show String.ofList (joinWords false ((divideWords name.toList).map lowered)) = name
  rw [joinWords_divideWords h, String.ofList_toList]

theorem overrideVariable_ne {name other : String} (hname : IsCamelCase name)
    (hother : IsCamelCase other) (hne : name ≠ other) :
    overrideVariable name ≠ overrideVariable other := by
  intro hsame
  refine hne ?_
  rw [← nameOf_overrideVariable hname, ← nameOf_overrideVariable hother, hsame]

-- A capital at the start, two of them in a row, and another character: each would be lost.
example : overrideVariable "Dev" = overrideVariable "dev" := by decide +kernel
example : overrideVariable "devAB" = overrideVariable "devAb" := by decide +kernel
example : overrideVariable "dev-a" = overrideVariable "devA" := by decide +kernel

/-- **Variables are identifiers, and networks with names in camel case do not share one.**  A name is
read back from its variable, and what the variable of one network holds makes no difference to the URL
of another one. -/
theorem overrideVariable_of_camelCase :
    (∀ name : String, (∀ c ∈ (overrideVariable name).toList, IsVariableChar c) ∧
      ∃ stem, overrideVariable name = stem ++ "_RPC_URL") ∧
    (∀ name, IsCamelCase name → nameOf (overrideVariable name) = name) ∧
    (∀ name other, IsCamelCase name → IsCamelCase other → name ≠ other →
      overrideVariable name ≠ overrideVariable other) ∧
    ∀ n n' : Network, IsCamelCase n.name → IsCamelCase n'.name → n.name ≠ n'.name →
      ∀ (given : Option String) (protocol : Protocol) (env env' : Variables),
        (∀ variableName, variableName ≠ overrideVariable n.name →
          env variableName = env' variableName) →
        n'.resolveUrl given protocol env = n'.resolveUrl given protocol env' := by
  refine ⟨fun name => ⟨fun c hc => isVariableChar_of_mem hc, _, rfl⟩,
    fun name h => nameOf_overrideVariable h, fun name other => overrideVariable_ne, ?_⟩
  intro n n' hn hn' hne given protocol env env' henv
  have hother : overrideVariable n'.name ≠ overrideVariable n.name :=
    (overrideVariable_ne hn hn' hne).symm
  refine resolveUrl_congr_env given protocol ?_
  unfold Variables.value?
  rw [henv _ hother]

/-- Two networks whose names differ in the case of one letter only. -/
theorem overrideVariable_of_optGoerli :
    ∃ n n' : Network, n.name = "optGoerli" ∧ n'.name = "optgoerli" ∧ IsCamelCase n.name ∧
      IsCamelCase n'.name ∧ nameOf (overrideVariable n.name) = n.name ∧
      overrideVariable n.name ≠ overrideVariable n'.name ∧
      (∀ c ∈ (overrideVariable "straße-1").toList, IsVariableChar c) ∧
      n'.resolveUrl none .http (Variables.ofList [(overrideVariable n.name, "http://a")]) =
        n'.resolveUrl none .http fun _ => none := by
  obtain ⟨n, hname⟩ : ∃ n : Network, n.name = "optGoerli" :=
    ⟨⟨"optGoerli", 420, "development", .empty, [], none, none, none, none, [], by decide, by decide⟩,
      rfl⟩
  obtain ⟨n', hname'⟩ : ∃ n' : Network, n'.name = "optgoerli" :=
    ⟨⟨"optgoerli", 420, "development", .empty, [], none, none, none, none, [], by decide, by decide⟩,
      rfl⟩
  have hn : IsCamelCase n.name := hname ▸ by decide +kernel
  have hn' : IsCamelCase n'.name := hname' ▸ by decide +kernel
  have hne : n.name ≠ n'.name := by
    rw [hname, hname']
    decide
  obtain ⟨hchars, hback, hdifferent, hother⟩ := overrideVariable_of_camelCase
  refine ⟨n, n', hname, hname', hn, hn', hback _ hn, hdifferent _ _ hn hn' hne, (hchars _).1, ?_⟩
  refine hother n n' hn hn' hne none .http _ _ fun variableName hvariable => ?_
  have hunset : (variableName == overrideVariable n.name) = false := beq_eq_false_iff_ne.2 hvariable
  show List.lookup variableName [(overrideVariable n.name, "http://a")] = none
  rw [List.lookup_cons, hunset]
  rfl

end Network
end ChainAtlas
