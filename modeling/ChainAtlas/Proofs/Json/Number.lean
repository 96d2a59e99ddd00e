import ChainAtlas.Json.Token
import ChainAtlas.Proofs.Text.LineEnds
import Mathlib.Data.List.TakeWhile
import Mathlib.Tactic.SplitIfs

/-!
# Numbers end where a line ends

A number is read from the front of a text and looks one character past its end to see that it is
over.  A line end is no part of a number, so a number is read alike before and after the line ends
of a text are unified (`numberParts?_unifyLineEnds`), and no carriage return is among the
characters that it takes (`not_mem_take_of_numberParts?`).
-/

namespace ChainAtlas
namespace Json

open Text

variable {input body : List Char}

/-! ## Characters that are taken -/

/-- No carriage return is among the characters that are taken, if none is among the first ones and
none among the others. -/
theorem not_mem_take_add {m n : Nat} (hm : '\r' ∉ input.take m)
    (hn : '\r' ∉ (input.drop m).take n) : '\r' ∉ input.take (m + n) := by
  rw [List.take_add, List.mem_append, not_or]
  exact ⟨hm, hn⟩

/-! ## Digits -/

theorem leadingDigits_unifyLineEnds (input : List Char) :
    leadingDigits (unifyLineEnds input) = leadingDigits input :=
  takeWhile_unifyLineEnds (by decide) (by decide) input

theorem take_length_leadingDigits (input : List Char) :
    input.take (leadingDigits input).length = leadingDigits input :=
  (List.prefix_iff_eq_take.1 (List.takeWhile_prefix _)).symm

theorem not_mem_leadingDigits (input : List Char) : '\r' ∉ leadingDigits input := by
  intro hmem
  have hdigit := List.mem_takeWhile_imp hmem
  revert hdigit
  decide

theorem not_mem_take_leadingDigits (input : List Char) :
    '\r' ∉ input.take (leadingDigits input).length := by
  rw [take_length_leadingDigits]
  exact not_mem_leadingDigits input

/-! ## The three parts of a number -/

theorem wholePart?_unifyLineEnds (input : List Char) :
    wholePart? (unifyLineEnds input) = wholePart? input := by
  refine eq_of_unifyLineEnds (fun _ _ => rfl) (fun c rest hc => ?_) input
  by_cases hzero : c = '0'
  · subst hzero
    rfl
  · have hdigits := leadingDigits_unifyLineEnds (c :: rest)
    rw [unifyLineEnds_cons_of_ne hc] at hdigits
    rw [wholePart?.eq_2 _ (by simp [hzero]), wholePart?.eq_2 _ (by simp [hzero]), hdigits]

theorem not_mem_take_of_wholePart? {whole : List Char} (h : wholePart? input = some whole) :
    '\r' ∉ input.take whole.length := by
  rw [wholePart?.eq_def] at h
  split at h
  · cases h
    rw [List.length_singleton, List.take_succ_cons, List.take_zero]
    decide
  · split at h
    · cases h
    · cases h
      exact not_mem_take_leadingDigits input

theorem fractionPart_unifyLineEnds (input : List Char) :
    fractionPart (unifyLineEnds input) = fractionPart input := by
  refine eq_of_unifyLineEnds (fun _ _ => rfl) (fun c rest hc => ?_) input
  by_cases hpoint : c = '.'
  · subst hpoint
    exact leadingDigits_unifyLineEnds rest
  · rw [fractionPart.eq_2 _ (by simp [hpoint]), fractionPart.eq_2 _ (by simp [hpoint])]

/-- How many characters a fraction takes with its point. -/
def pointedLength (input : List Char) : Nat :=
  if (fractionPart input).isEmpty then 0 else (fractionPart input).length + 1

theorem not_mem_take_pointedLength (input : List Char) :
    '\r' ∉ input.take (pointedLength input) := by
  rw [pointedLength]
  split_ifs with hempty
  · simp
  · rw [fractionPart.eq_def] at hempty ⊢
    split at hempty
    · rw [List.take_succ_cons, List.mem_cons, not_or]
      exact ⟨by decide, not_mem_take_leadingDigits _⟩
    · exact absurd rfl hempty

/-- The sign and the digits of an exponent after its mark, and how many characters the sign takes.
-/
def signedDigits : List Char → Bool × List Char × Nat
  | '-' :: rest => (true, leadingDigits rest, 1)
  | '+' :: rest => (false, leadingDigits rest, 1)
  | rest => (false, leadingDigits rest, 0)

theorem exponentPart?_cons (mark : Char) (after : List Char) :
    exponentPart? (mark :: after) =
      if mark == 'e' || mark == 'E' then
        if (signedDigits after).2.1.isEmpty then none
        else some (((signedDigits after).1, (signedDigits after).2.1),
          1 + (signedDigits after).2.2 + (signedDigits after).2.1.length)
      else none := rfl

theorem signedDigits_unifyLineEnds (input : List Char) :
    signedDigits (unifyLineEnds input) = signedDigits input := by
  have hdigits := leadingDigits_unifyLineEnds
  refine eq_of_unifyLineEnds (fun _ _ => rfl) (fun c rest hc => ?_) input
  by_cases hminus : c = '-'
  · subst hminus
    simp only [signedDigits, hdigits]
  by_cases hplus : c = '+'
  · subst hplus
    simp only [signedDigits, hdigits]
  · have hcons := hdigits (c :: rest)
    rw [unifyLineEnds_cons_of_ne hc] at hcons
    rw [signedDigits.eq_3 _ (by simp [hminus]) (by simp [hplus]),
      signedDigits.eq_3 _ (by simp [hminus]) (by simp [hplus]), hcons]

theorem not_mem_take_signedDigits (input : List Char) :
    '\r' ∉ input.take ((signedDigits input).2.2 + (signedDigits input).2.1.length) := by
  rw [signedDigits.eq_def]
  split
  · refine not_mem_take_add ?_ (not_mem_take_leadingDigits _)
    rw [List.take_succ_cons, List.take_zero]
    decide
  · refine not_mem_take_add ?_ (not_mem_take_leadingDigits _)
    rw [List.take_succ_cons, List.take_zero]
    decide
  · rw [Nat.zero_add]
    exact not_mem_take_leadingDigits _

theorem exponentPart?_unifyLineEnds (input : List Char) :
    exponentPart? (unifyLineEnds input) = exponentPart? input := by
  refine eq_of_unifyLineEnds (fun _ _ => rfl) (fun mark after hmark => ?_) input
  rw [exponentPart?_cons, exponentPart?_cons, signedDigits_unifyLineEnds]

theorem not_mem_take_of_exponentPart? {exponent : Bool × List Char} {taken : Nat}
    (h : exponentPart? input = some (exponent, taken)) : '\r' ∉ input.take taken := by
  cases input with
  | nil => simp
  | cons mark after =>
    rw [exponentPart?_cons] at h
    split_ifs at h with hmark
    cases h
    have hne : mark ≠ '\r' := by
      rintro rfl
      exact absurd hmark (by decide)
    rw [Nat.add_assoc, Nat.add_comm 1, List.take_succ_cons, List.mem_cons, not_or]
    exact ⟨Ne.symm hne, not_mem_take_signedDigits after⟩

/-! ## Whole numbers -/

/-- The parts of a number after its sign. -/
def partsAfterSign (negative : Bool) (body : List Char) : Option NumberParts :=
  (wholePart? body).map fun whole =>
    let fraction := fractionPart (body.drop whole.length)
    let pointed := pointedLength (body.drop whole.length)
    let exponent := exponentPart? ((body.drop whole.length).drop pointed)
    { negative, whole, fraction
      exponent := exponent.map Prod.fst
      taken := (if negative then 1 else 0) + whole.length + pointed
        + (match exponent with | some (_, taken) => taken | none => 0) }

theorem numberParts?_minus (body : List Char) :
    numberParts? ('-' :: body) = partsAfterSign true body := by
  rw [numberParts?, partsAfterSign]
  cases wholePart? body <;> rfl

theorem numberParts?_of_ne (h : ∀ body, input ≠ '-' :: body) :
    numberParts? input = partsAfterSign false input := by
  rw [numberParts?, partsAfterSign]
  · cases wholePart? input <;> rfl
  · exact h

theorem partsAfterSign_unifyLineEnds (negative : Bool) (body : List Char) :
    partsAfterSign negative (unifyLineEnds body) = partsAfterSign negative body := by
  rw [partsAfterSign, partsAfterSign, wholePart?_unifyLineEnds]
  cases hwhole : wholePart? body with
  | none => rfl
  | some whole =>
    have hrest := unifyLineEnds_drop (not_mem_take_of_wholePart? hwhole)
    have hpointed := unifyLineEnds_drop (not_mem_take_pointedLength (body.drop whole.length))
    have hlength : pointedLength (unifyLineEnds (body.drop whole.length)) =
        pointedLength (body.drop whole.length) := by
      rw [pointedLength, fractionPart_unifyLineEnds, pointedLength]
    simp only [Option.map_some, hrest, fractionPart_unifyLineEnds, hlength, hpointed,
      exponentPart?_unifyLineEnds]

/-- **A number is read alike before and after line ends are unified.** -/
theorem numberParts?_unifyLineEnds (input : List Char) :
    numberParts? (unifyLineEnds input) = numberParts? input := by
  refine eq_of_unifyLineEnds (fun _ _ => rfl) (fun c rest hc => ?_) input
  by_cases hminus : c = '-'
  · subst hminus
    rw [numberParts?_minus, numberParts?_minus, partsAfterSign_unifyLineEnds]
  · have hcons := partsAfterSign_unifyLineEnds false (c :: rest)
    rw [unifyLineEnds_cons_of_ne hc] at hcons
    rw [numberParts?_of_ne (by simp [hminus]), numberParts?_of_ne (by simp [hminus]), hcons]

theorem exists_taken_of_partsAfterSign {negative : Bool} {n : NumberParts}
    (h : partsAfterSign negative body = some n) :
    ∃ taken, n.taken = (if negative then 1 else 0) + taken ∧ '\r' ∉ body.take taken := by
  rw [partsAfterSign] at h
  obtain ⟨whole, hwhole, rfl⟩ := Option.map_eq_some_iff.1 h
  have hpointed := not_mem_take_add (not_mem_take_of_wholePart? hwhole)
    (not_mem_take_pointedLength (body.drop whole.length))
  simp only
  cases hexponent : exponentPart? ((body.drop whole.length).drop
    (pointedLength (body.drop whole.length))) with
  | none => exact ⟨_, by simp only [Nat.add_assoc, Nat.add_zero], hpointed⟩
  | some e =>
    have hend := not_mem_take_of_exponentPart? hexponent
    rw [List.drop_drop] at hend
    exact ⟨_, by simp only [Nat.add_assoc], not_mem_take_add hpointed hend⟩

/-- **No carriage return is among the characters of a number.** -/
theorem not_mem_take_of_numberParts? {n : NumberParts} (h : numberParts? input = some n) :
    '\r' ∉ input.take n.taken := by
  by_cases hminus : ∃ body, input = '-' :: body
  · obtain ⟨body, rfl⟩ := hminus
    rw [numberParts?_minus] at h
    obtain ⟨taken, htaken, hbody⟩ := exists_taken_of_partsAfterSign h
    rw [htaken, if_pos rfl, Nat.add_comm, List.take_succ_cons, List.mem_cons, not_or]
    exact ⟨by decide, hbody⟩
  · rw [numberParts?_of_ne (not_exists.1 hminus)] at h
    obtain ⟨taken, htaken, hbody⟩ := exists_taken_of_partsAfterSign h
    rw [htaken, if_neg Bool.false_ne_true, Nat.zero_add]
    exact hbody

end Json
end ChainAtlas
