import ChainAtlas.Json.Literal
import ChainAtlas.Proofs.Directory
import ChainAtlas.Proofs.Json.Tokens
import ChainAtlas.Proofs.Numeral.Positional
import Mathlib.Data.List.TakeWhile

/-!
# What all values that are read have in common

The reader makes its values in few ways: a scalar is taken from a token, a finished list or object from
what was read of it so far.  So a property that scalars have, and that lists and objects have if
everything in them has it, is one of all values that are read (`IsInherited.of_read`).  The reader keeps
it for every container that is still open, whatever token comes next (`IsInherited.step`).

Two properties are had in this way.  A JSON value may in principle have an object with two members
under one name; no text spells such a value, since a repeated name gets its last value at its first
place (`hasDistinctNames_of_read`).  And a value may hold a whole number that is too long to be shown;
no text spells one, since a numeral that is too long is refused (`isShowable_of_read`).

Names are told apart by their code points.  Two names that differ in escaped halves of surrogate pairs
only are one name here, as both have U+FFFD for the halves.
-/

namespace ChainAtlas

namespace Json

open Numeral Outcome

/-- Whether a value is a scalar that a token stands for: neither a text nor a container, and no number
that is too long. -/
inductive IsScalar : Json → Prop where
  | null : IsScalar .null
  | bool (b : Bool) : IsScalar (.bool b)
  | int (n : Int) (h : Numeral.isShowable n = true) : IsScalar (.int n)
  | float (x : Binary64) : IsScalar (.float x)

/-- Whether a property is one of all scalars and texts, and of a list or an object whenever it is one
of everything in it.  The members of an object stand under different names. -/
structure IsInherited (P : Json → Prop) : Prop where
  scalar {value : Json} : IsScalar value → P value
  text (s : String) : P (.text s)
  list {items : List Json} : (∀ item ∈ items, P item) → P (.list items)
  object {members : Members} :
    members.names.Nodup → (∀ member ∈ members, P member.2) → P (.object members)

/-! ## Numbers -/

theorem digit_lt_ten {c : Char} (h : ('0' ≤ c && c ≤ '9') = true) : c.toNat - 0x30 < 10 := by
  rw [Bool.and_eq_true, decide_eq_true_eq, decide_eq_true_eq] at h
  have hle : c.toNat ≤ 0x39 := h.2
  omega

/-- The digits of a whole part are digits. -/
theorem digits_of_wholePart? {input whole : List Char} (h : wholePart? input = some whole) :
    ∀ c ∈ whole, ('0' ≤ c && c ≤ '9') = true := by
  rw [wholePart?.eq_def] at h
  split at h
  · cases h
    exact List.forall_mem_singleton.2 rfl
  · split at h
    · cases h
    · cases h
      intro c hc
      have hdigit := List.mem_takeWhile_imp hc
      exact hdigit

/-- A number of digits that may be read may be shown. -/
theorem isShowable_of_digits {digits : List Char} (hdigits : ∀ c ∈ digits, ('0' ≤ c && c ≤ '9') = true)
    (hlength : digits.length ≤ digitLimit) : Numeral.isShowable (digitsValue digits) = true := by
  refine isShowable_natCast_iff.2 ?_
  have hvalues : ∀ d ∈ digits.map (fun c => c.toNat - 0x30), d < 10 := by
    intro d hd
    obtain ⟨c, hc, rfl⟩ := List.mem_map.1 hd
    exact digit_lt_ten (hdigits c hc)
  calc digitsValue digits < 10 ^ (digits.map fun c => c.toNat - 0x30).length := ofDigits_lt_pow hvalues
    _ = 10 ^ digits.length := by rw [List.length_map]
    _ ≤ 10 ^ digitLimit := Nat.pow_le_pow_right (by decide) hlength

/-- The value of a number is a scalar. -/
theorem isScalar_of_value? {n : NumberParts} {value : Json}
    (hdigits : ∀ c ∈ n.whole, ('0' ≤ c && c ≤ '9') = true) (h : n.value? = some value) :
    IsScalar value := by
  rw [NumberParts.value?] at h
  split at h
  · split at h
    · cases h
    · next hlength =>
      have hshown := isShowable_of_digits hdigits (Nat.not_lt.1 hlength)
      cases h
      refine .int _ ?_
      split
      · rw [isShowable_iff, Int.natAbs_neg, ← isShowable_iff]
        exact hshown
      · exact hshown
  · cases h
    exact .float _

theorem digits_of_numberParts? {input : List Char} {n : NumberParts}
    (h : numberParts? input = some n) : ∀ c ∈ n.whole, ('0' ≤ c && c ≤ '9') = true := by
  rw [numberParts?.eq_def, Option.bind_eq_bind, Option.bind_eq_some_iff] at h
  obtain ⟨whole, hwhole, hn⟩ := h
  cases hn
  exact digits_of_wholePart? hwhole

/-! ## Tokens -/

/-- Whether a token that stands for a value stands for a scalar. -/
def Token.IsScalar : Token → Prop
  | .scalar value => Json.IsScalar value
  | _ => True

variable {P : Json → Prop} {stack : List Frame} {value : Json} {state next : State}
  {position : Nat} {token : Token}

theorem isScalar_of_scalarToken {input : List Char} {more : Nat}
    (h : scalarToken input = .ok (token, more)) : token.IsScalar := by
  have hwords : ∀ word ∈ words, IsScalar word.2 := by
    simp only [words, List.forall_mem_cons]
    exact ⟨.null, .bool true, .bool false, .float _, .float _, .float _, List.forall_mem_nil _⟩
  rw [scalarToken] at h
  split at h
  · next hword =>
    cases h
    obtain ⟨word, hfind, hvalue⟩ := Option.map_eq_some_iff.1 hword
    cases hvalue
    exact hwords word (List.mem_of_find?_eq_some hfind)
  · split at h
    · cases h
    · next hparts =>
      split at h
      · cases h
      · next hnumber =>
        cases h
        exact isScalar_of_value? (digits_of_numberParts? hparts) hnumber

theorem isScalar_of_firstToken {c : Char} {rest : List Char} {more : Nat}
    (h : firstToken position (c :: rest) = .ok (token, more)) : token.IsScalar := by
  rcases firstToken_cases c with ⟨mark, hnot, hmark⟩ | rfl | hscalar
  · rw [hmark] at h
    cases h
    cases token with
    | scalar value => exact absurd rfl (hnot value)
    | _ => trivial
  · obtain ⟨_, _, _, _, _, rfl, _⟩ := firstToken_quote_eq_ok_iff.1 h
    trivial
  · rw [hscalar] at h
    exact isScalar_of_scalarToken h

theorem isScalar_of_tokensFrom (position : Nat) (input : List Char) :
    ∀ t ∈ (tokensFrom position input).tokens, t.2.IsScalar := by
  induction position, input using tokensFrom.induct with
  | case1 position =>
    simp [tokensFrom]
  | case2 position c rest hspace ih =>
    rw [tokensFrom_space hspace]
    exact ih
  | case3 position c rest hspace ending hending =>
    simp [tokensFrom, hspace, hending]
  | case4 position c rest hspace token more hfirst ih =>
    rw [tokensFrom, if_neg hspace, hfirst]
    exact List.forall_mem_cons.2 ⟨isScalar_of_firstToken hfirst, ih⟩

/-! ## The invariant of the reader -/

/-- Whether the members that were read so far stand under different names and have a property. -/
def Holds (P : Json → Prop) (members : Members) : Prop :=
  members.names.Nodup ∧ ∀ member ∈ members, P member.2

theorem Holds.nil : Holds P [] := ⟨List.nodup_nil, List.forall_mem_nil _⟩

theorem Holds.put {members : Members} (h : Holds P members) (name : String) (hvalue : P value) :
    Holds P (members.put name value) := by
  refine ⟨Entries.nodup_names_put h.1 name value, fun member hmember => ?_⟩
  rcases Entries.mem_of_mem_put hmember with rfl | hold
  · exact hvalue
  · exact h.2 member hold

/-- Whether what was read of an open container so far has a property. -/
def Frame.Has (P : Json → Prop) : Frame → Prop
  | .list items => ∀ item ∈ items, P item
  | .object members _ => Holds P members

/-- Whether everything that the reader has read so far has a property. -/
def State.Has (P : Json → Prop) : State → Prop
  | .wantValue stack | .wantFirstItem stack | .wantFirstName stack => ∀ frame ∈ stack, frame.Has P
  | .wantName stack members | .wantColon stack members _ | .afterMember stack members =>
    (∀ frame ∈ stack, frame.Has P) ∧ Holds P members
  | .afterItem stack items => (∀ frame ∈ stack, frame.Has P) ∧ ∀ item ∈ items, P item
  | .done value => P value

theorem has_supply (hvalue : P value) (hstack : ∀ frame ∈ stack, frame.Has P) :
    (State.supply value stack).Has P := by
  cases stack with
  | nil => exact hvalue
  | cons frame stack =>
    obtain ⟨hframe, htail⟩ := List.forall_mem_cons.1 hstack
    cases frame with
    | list items => exact ⟨htail, List.forall_mem_cons.2 ⟨hvalue, hframe⟩⟩
    | object members name => exact ⟨htail, Holds.put hframe name hvalue⟩

namespace IsInherited

theorem begin (hP : IsInherited P) (htoken : token.IsScalar) (hstack : ∀ frame ∈ stack, frame.Has P)
    (h : State.begin stack position token = .ok next) : next.Has P := by
  cases token with
  | scalar value =>
    cases h
    exact has_supply (hP.scalar htoken) hstack
  | text s =>
    cases h
    exact has_supply (hP.text s) hstack
  | openList | openObject =>
    cases h
    exact hstack
  | _ => cases h

/-- **One token keeps a property that is inherited.** -/
theorem step (hP : IsInherited P) (hstate : state.Has P) (htoken : token.IsScalar)
    (h : state.step position token = .ok next) : next.Has P := by
  rw [State.step.eq_def] at h
  split at h
  · exact hP.begin htoken hstate h
  · cases h
    exact has_supply (hP.list (List.forall_mem_nil _)) hstate
  · refine hP.begin htoken ?_ h
    exact List.forall_mem_cons.2 ⟨List.forall_mem_nil _, hstate⟩
  · cases h
    exact has_supply (hP.object List.nodup_nil (List.forall_mem_nil _)) hstate
  · cases h
    exact ⟨hstate, Holds.nil⟩
  · cases h
  · cases h
    exact hstate
  · cases h
  · cases h
    exact List.forall_mem_cons.2 ⟨hstate.2, hstate.1⟩
  · cases h
  · cases h
    exact List.forall_mem_cons.2 ⟨hstate.2, hstate.1⟩
  · cases h
    refine has_supply (hP.list fun item hitem => ?_) hstate.1
    exact hstate.2 item (List.mem_reverse.1 hitem)
  · cases h
  · cases h
    exact hstate
  · cases h
    exact has_supply (hP.object hstate.2.1 hstate.2.2) hstate.1
  · cases h
  · cases h

/-- **Any number of tokens keep a property that is inherited.** -/
theorem run (hP : IsInherited P) {ts : List (Nat × Token)} (hstate : state.Has P)
    (hts : ∀ t ∈ ts, t.2.IsScalar) (h : state.run ts = .ok next) : next.Has P := by
  induction ts generalizing state with
  | nil =>
    cases h
    exact hstate
  | cons t ts ih =>
    obtain ⟨ht, hts⟩ := List.forall_mem_cons.1 hts
    rw [State.run, List.foldlM_cons, bind_eq_ok_iff] at h
    obtain ⟨middle, hstep, hrun⟩ := h
    exact ih (hP.step hstate ht hstep) hts hrun

/-- **What is inherited is had by every value that is read.** -/
theorem of_read (hP : IsInherited P) {input : List Char} (h : read input = .ok value) : P value := by
  obtain ⟨-, hrun, -⟩ := read_eq_ok_iff.1 h
  have hstart : (State.wantValue []).Has P := List.forall_mem_nil _
  exact hP.run hstart (isScalar_of_tokensFrom 0 input) hrun

end IsInherited

/-! ## Names -/

/-- Whether the members of every object within a value stand under different names. -/
inductive HasDistinctNames : Json → Prop where
  | null : HasDistinctNames .null
  | bool (b : Bool) : HasDistinctNames (.bool b)
  | int (n : Int) : HasDistinctNames (.int n)
  | float (x : Binary64) : HasDistinctNames (.float x)
  | text (s : String) : HasDistinctNames (.text s)
  | list {items : List Json} (hitems : ∀ item ∈ items, HasDistinctNames item) :
      HasDistinctNames (.list items)
  | object {members : Members} (hnames : members.names.Nodup)
      (hmembers : ∀ member ∈ members, HasDistinctNames member.2) :
      HasDistinctNames (.object members)

theorem isInherited_hasDistinctNames : IsInherited HasDistinctNames where
  scalar h := by
    cases h with
    | null => exact .null
    | bool b => exact .bool b
    | int n h => exact .int n
    | float x => exact .float x
  text := .text
  list := .list
  object := .object

/-- **The names in every object of a JSON text are different.** -/
theorem hasDistinctNames_of_read {input : List Char} (h : read input = .ok value) :
    value.HasDistinctNames := isInherited_hasDistinctNames.of_read h

/-! ## Numbers that are too long -/

theorem areItemsShowable_iff {items : List Json} :
    areItemsShowable items = true ↔ ∀ item ∈ items, item.isShowable = true := by
  induction items with
  | nil => simp [areItemsShowable]
  | cons item rest ih => simp [areItemsShowable, ih]

theorem areMembersShowable_iff {members : Members} :
    areMembersShowable members = true ↔ ∀ member ∈ members, member.2.isShowable = true := by
  induction members with
  | nil => simp [areMembersShowable]
  | cons member rest ih => simp [areMembersShowable, ih]

theorem isInherited_isShowable : IsInherited fun value => value.isShowable = true where
  scalar h := by
    cases h with
    | int n h => rwa [isShowable_int]
    | _ => rw [Json.isShowable]
  text := isShowable_text
  list h := by rwa [Json.isShowable, areItemsShowable_iff]
  object _ h := by rwa [Json.isShowable, areMembersShowable_iff]

/-- **Every value that is read can be shown.** -/
theorem isShowable_of_read {input : List Char} (h : read input = .ok value) :
    value.isShowable = true := isInherited_isShowable.of_read h

end Json
end ChainAtlas
