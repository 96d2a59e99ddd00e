import ChainAtlas.Proofs.Json.Tokens
import Mathlib.Tactic.SplitIfs

/-!
# Numbers that are too long to be read

A text may be refused for two reasons.  Most texts that spell no value have something at a place
where it may not stand, and the complaint names the place.  But a whole number of too many digits is
a reason of its own: it stands where a value is due, nothing is wrong with it but its length, and it
is not a complaint about a place that is reported.

`StopsAtLongNumeral` describes the texts that are refused for this reason, and
`read_eq_longNumeral_iff` says that they are the ones.  What is needed about the cut into tokens is
where it ends (`tokensFrom_ending`): at a place where no token could be made, and for the reason
that was given there.
-/

namespace ChainAtlas
namespace Json

open Numeral Outcome

variable {position digits : ℕ} {input : List Char} {n : NumberParts}

/-! ## Numerals -/

/-- Whether a number is whole and has more digits than are read. -/
def NumberParts.IsTooLong (n : NumberParts) : Prop :=
  n.fraction = [] ∧ n.exponent = none ∧ digitLimit < n.whole.length

/-- A number has no value exactly when it is too long. -/
theorem NumberParts.value?_eq_none_iff : n.value? = none ↔ n.IsTooLong := by
  rw [NumberParts.value?, NumberParts.IsTooLong]
  split_ifs with hwhole hlong <;>
    simp only [Bool.and_eq_true, List.isEmpty_iff, Option.isNone_iff_eq_none] at hwhole <;> tauto

theorem firstToken_ne_longNumeral_of_quote (position digits : ℕ) (rest : List Char) :
    firstToken position ('\x22' :: rest) ≠ .error (.longNumeral digits) := by
  rw [firstToken]
  split <;> simp

/-- If a number is too long for a first token then there is such a number. -/
theorem firstToken_eq_longNumeral {c : Char} {rest : List Char}
    (h : firstToken position (c :: rest) = .error (.longNumeral digits)) :
    ∃ n, numberParts? (c :: rest) = some n ∧ n.IsTooLong ∧ n.whole.length = digits := by
  rcases firstToken_cases c with ⟨mark, -, hmark⟩ | rfl | hscalar
  · rw [hmark] at h
    cases h
  · exact absurd h (firstToken_ne_longNumeral_of_quote _ _ _)
  · rw [hscalar, scalarToken] at h
    split at h
    · cases h
    · split at h
      · cases h
      · rename_i n hn
        split at h
        · rename_i hnone
          cases h
          exact ⟨n, hn, NumberParts.value?_eq_none_iff.1 hnone, rfl⟩
        · cases h

/-- If no first token can be made where a number starts then the number is too long. -/
theorem eq_longNumeral_of_firstToken {c : Char} {rest : List Char} {ending : Ending}
    (h : firstToken position (c :: rest) = .error ending) (hn : numberParts? (c :: rest) = some n) :
    ending = .longNumeral n.whole.length := by
  rcases firstToken_cases c with ⟨mark, -, hmark⟩ | rfl | hscalar
  · rw [hmark] at h
    cases h
  · cases hn
  · rw [hscalar, scalarToken, hn] at h
    split at h
    · cases h
    · simp only at h
      split at h
      · cases h
        rfl
      · cases h

/-! ## Where the tokens end -/

/-- The tokens end with the text, or at a place where there is no first token. -/
theorem tokensFrom_ending (position : ℕ) (input : List Char) :
    ∃ taken, (tokensFrom position input).position = position + taken ∧
      (input.drop taken = [] ∧ (tokensFrom position input).ending = .finish ∨
        ∃ c rest, input.drop taken = c :: rest ∧
          firstToken (position + taken) (c :: rest) =
            .error (tokensFrom position input).ending) := by
  induction position, input using tokensFrom.induct with
  | case1 position =>
    rw [tokensFrom]
    exact ⟨0, rfl, Or.inl ⟨rfl, rfl⟩⟩
  | case2 position c rest hspace ih =>
    rw [tokensFrom_space hspace]
    obtain ⟨taken, hposition, hend⟩ := ih
    have hplace : position + (taken + 1) = position + 1 + taken := by omega
    refine ⟨taken + 1, by omega, ?_⟩
    rw [List.drop_succ_cons, hplace]
    exact hend
  | case3 position c rest hspace ending hfirst =>
    rw [tokensFrom, if_neg hspace, hfirst]
    exact ⟨0, rfl, Or.inr ⟨c, rest, rfl, hfirst⟩⟩
  | case4 position c rest hspace token more hfirst ih =>
    rw [tokensFrom, if_neg hspace, hfirst]
    obtain ⟨taken, hposition, hend⟩ := ih
    have hplace : position + (more + taken + 1) = position + 1 + more + taken := by omega
    refine ⟨more + taken + 1, hposition.trans hplace.symm, ?_⟩
    rw [List.drop_succ_cons, hplace, ← List.drop_drop]
    exact hend

/-! ## Texts that are refused for a number -/

/-- Whether a reader waits for a value. -/
def State.WantsValue : State → Prop
  | .wantValue _ | .wantFirstItem _ => True
  | _ => False

/-- A text whose tokens lead up to a place where a value is due, and at this place there is a whole
number of too many digits. -/
structure StopsAtLongNumeral (input : List Char) (digits : ℕ) : Prop where
  unmarked : ∀ tail, input ≠ '\ufeff' :: tail
  due : ∃ state, State.run (.wantValue []) (tokens input).tokens = .ok state ∧ state.WantsValue
  numeral : ∃ n, numberParts? (input.drop (tokens input).position) = some n ∧ n.IsTooLong ∧
    n.whole.length = digits

/-- The tokens end for a number exactly when there is one at their end. -/
theorem ending_eq_longNumeral_iff : (tokens input).ending = .longNumeral digits ↔
    ∃ n, numberParts? (input.drop (tokens input).position) = some n ∧ n.IsTooLong ∧
      n.whole.length = digits := by
  obtain ⟨taken, hposition, hend⟩ := tokensFrom_ending 0 input
  rw [Nat.zero_add] at hposition
  rw [tokens, hposition]
  rcases hend with ⟨hdrop, hfinish⟩ | ⟨c, rest, hdrop, hfirst⟩
  · rw [hdrop, hfinish]
    refine iff_of_false (by simp) ?_
    rintro ⟨n, hn, -⟩
    cases hn
  · rw [hdrop]
    constructor
    · intro hlong
      rw [hlong] at hfirst
      exact firstToken_eq_longNumeral hfirst
    · rintro ⟨n, hn, -, rfl⟩
      exact eq_longNumeral_of_firstToken hfirst hn

theorem finish_eq_longNumeral_iff {state : State} {ending : Ending} :
    state.finish position ending = .error (.longNumeral digits) ↔
      state.WantsValue ∧ ending = .longNumeral digits := by
  cases state <;> cases ending <;>
    simp [State.finish, State.WantsValue, Ending.insteadOfValue, Ending.insteadOfName]

theorem tokensValue_eq_longNumeral_iff {t : Tokens} : t.value = .error (.longNumeral digits) ↔
    (∃ state, State.run (.wantValue []) t.tokens = .ok state ∧ state.WantsValue) ∧
      t.ending = .longNumeral digits := by
  rw [Tokens.value]
  cases State.run (.wantValue []) t.tokens with
  | error fault => simp
  | ok state => simp [finish_eq_longNumeral_iff]

/-- **A text is refused for the length of a number exactly when a value is due where such a number
stands.** -/
theorem read_eq_longNumeral_iff :
    read input = .error (.longNumeral digits) ↔ StopsAtLongNumeral input digits := by
  have hread : read input = .error (.longNumeral digits) ↔
      parse input = .error (.longNumeral digits) := by
    rw [read]
    cases parse input with
    | ok value => simp [Except.mapError]
    | error refusal => cases refusal <;> simp [Except.mapError, Refusal.locate]
  rw [hread]
  by_cases hmark : ∃ tail, input = '\ufeff' :: tail
  · obtain ⟨tail, rfl⟩ := hmark
    exact iff_of_false (by simp [parse]) fun h => h.unmarked tail rfl
  · have hunmarked : ∀ tail, input ≠ '\ufeff' :: tail := not_exists.1 hmark
    rw [parse.eq_2 _ hunmarked, tokensValue_eq_longNumeral_iff, ending_eq_longNumeral_iff]
    exact ⟨fun h => ⟨hunmarked, h.1, h.2⟩, fun h => ⟨h.due, h.numeral⟩⟩

end Json
end ChainAtlas
