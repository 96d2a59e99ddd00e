import ChainAtlas.Numeral.Hexadecimal
import ChainAtlas.Proofs.Numeral.Positional
import ChainAtlas.Proofs.Outcome

/-!
# Spellings to the base sixteen

A number has many spellings to the base sixteen.  Its digits may be written with letters of either
case, there may be zeros in front of them, and a marker may stand before it all.  `Spells` relates a
text to the number whose digits these are, the digits being those of `Nat.digits`, and says nothing
of how a text is read.

* `spells_of_digits`: any digits at all, with a marker or without, are a spelling of the number that
  they denote by the places they stand at.
* `read?_of_spells`: a spelling is read as the number that it spells, however long it is.
* `Spells.unique`: a text spells one number at most.
-/

namespace ChainAtlas
namespace Numeral

namespace Hexadecimal

open Outcome Text

variable {c : Char} {d n : ℕ} {text marker : List Char} {ds : List ℕ}

/-! ## Digits -/

/-- Whether a character stands for a value below sixteen: a digit, or a letter of either case. -/
def IsDigitOf (c : Char) (d : ℕ) : Prop :=
  d < 16 ∧ (c = d.digitChar ∨ c = d.digitChar.toUpper)

instance : Decidable (IsDigitOf c d) := inferInstanceAs (Decidable (_ ∧ _))

/-- **Every value has its digits, and they have no other value.** -/
theorem digit?_eq_some_iff : digit? c = some d ↔ IsDigitOf c d := by
  constructor
  · intro h
    have hascii : c.toNat < 0x80 := toNat_lt_of_isDigit (by rw [isDigit, h]; rfl)
    have hall : ∀ n < 0x80, ∀ d < 16, digit? (Char.ofNat n) = some d →
        IsDigitOf (Char.ofNat n) d := by decide +kernel
    exact forall_ascii (P := fun c => ∀ d < 16, digit? c = some d → IsDigitOf c d) hall hascii d
      (digit?_lt h) h
  · have hall : ∀ d < 16, digit? d.digitChar = some d ∧ digit? d.digitChar.toUpper = some d := by
      decide
    rintro ⟨hd, rfl | rfl⟩
    · exact (hall d hd).1
    · exact (hall d hd).2

theorem isDigit_of_isDigitOf (h : IsDigitOf c d) : isDigit c = true := by
  rw [isDigit, digit?_eq_some_iff.2 h]
  rfl

/-- The digits, spelled out. -/
theorem isDigit_iff :
    isDigit c = true ↔ '0' ≤ c ∧ c ≤ '9' ∨ 'a' ≤ c ∧ c ≤ 'f' ∨ 'A' ≤ c ∧ c ≤ 'F' := by
  rw [isDigit, digit?]
  split_ifs with hten hsmall hcapital
  · simp [hten]
  · simp [hsmall]
  · simp [hcapital]
  · simp [hten, hsmall, hcapital]

/-- The digit of a value in lower case is the one that numbers are spelled with. -/
theorem IsDigitOf.toLower (h : IsDigitOf c d) : c.toLower = d.digitChar := by
  have hall : ∀ d < 16, d.digitChar.toLower = d.digitChar ∧
      d.digitChar.toUpper.toLower = d.digitChar := by decide
  obtain ⟨hd, rfl | rfl⟩ := h
  · exact (hall d hd).1
  · exact (hall d hd).2

/-- What is no digit does not stand among digits. -/
theorem IsDigitOf.ne (h : IsDigitOf c d) (mark : Char) (hmark : isDigit mark = false) :
    c ≠ mark := by
  rintro rfl
  rw [isDigit_of_isDigitOf h] at hmark
  cases hmark

theorem isDigitOf_zero : IsDigitOf '0' 0 := by decide

/-- Digits that are written out are read one by one. -/
theorem digits?_of_forall₂ (h : List.Forall₂ IsDigitOf text ds) (hne : ds ≠ []) :
    digits? text = some ds := by
  induction h with
  | nil => exact absurd rfl hne
  | @cons c d rest ds hc hrest ih =>
    cases hrest with
    | nil => rw [digits?.eq_2, digit?_eq_some_iff.2 hc]; rfl
    | cons hnext htail =>
      have hmark := hnext.ne '_' (by decide)
      rw [digits?.eq_4 _ _ (by simp) (by simp [hmark]), digit?_eq_some_iff.2 hc,
        ih (List.cons_ne_nil _ _)]
      rfl

theorem filterMap_digit? (h : List.Forall₂ IsDigitOf text ds) : text.filterMap digit? = ds := by
  induction h with
  | nil => rfl
  | cons hc _ ih => rw [List.filterMap_cons_some (digit?_eq_some_iff.2 hc), ih]

theorem map_toLower_of_forall₂ (h : List.Forall₂ IsDigitOf text ds) :
    text.map Char.toLower = ds.map Nat.digitChar := by
  induction h with
  | nil => rfl
  | cons hc _ ih => rw [List.map_cons, List.map_cons, hc.toLower, ih]

/-! ## Spellings -/

/-- What may stand in front of the digits. -/
inductive IsMarker : List Char → Prop where
  | absent : IsMarker []
  | small : IsMarker ['0', 'x']
  | capital : IsMarker ['0', 'X']

/-- Whether a text spells a number: it is made of the digits of the number, with zeros in front of
them and a marker in front of these.  There is at least one digit or zero. -/
inductive Spells : List Char → ℕ → Prop where
  | intro {marker digits : List Char} {zeros n : ℕ} (hmarker : IsMarker marker)
      (hdigits : List.Forall₂ IsDigitOf digits (Nat.digits 16 n).reverse)
      (hne : List.replicate zeros '0' ++ digits ≠ []) :
      Spells (marker ++ (List.replicate zeros '0' ++ digits)) n

theorem forall₂_replicate_zero (zeros : ℕ) :
    List.Forall₂ IsDigitOf (List.replicate zeros '0') (List.replicate zeros 0) := by
  induction zeros with
  | zero => exact .nil
  | succ zeros ih => exact .cons isDigitOf_zero ih

/-- A marker is dropped, and nothing else is. -/
theorem dropMarker_append (hmarker : IsMarker marker) (hdigits : List.Forall₂ IsDigitOf text ds) :
    dropMarker (marker ++ text) = text := by
  have hmark : ∀ rest, text ≠ '_' :: rest := by
    rintro rest rfl
    cases hdigits with
    | cons hc _ => exact hc.ne '_' (by decide) rfl
  cases hmarker with
  | absent =>
    -- a zero may come first, and then a digit comes second, which is no letter of a marker
    cases hdigits with
    | nil => rfl
    | cons _ hrest =>
      cases hrest with
      | nil => exact dropMarker.eq_5 _ (by simp) (by simp) (by simp) (by simp)
      | cons hsecond _ =>
        have hsmall := hsecond.ne 'x' (by decide)
        have hcapital := hsecond.ne 'X' (by decide)
        exact dropMarker.eq_5 _ (by simp [hsmall]) (by simp [hcapital]) (by simp [hsmall])
          (by simp [hcapital])
  | small => exact dropMarker.eq_3 _ hmark
  | capital => exact dropMarker.eq_4 _ hmark

/-- A text without spaces at its ends is trimmed to itself. -/
theorem dropWhile_isSpace_eq_self (h : ∀ c ∈ text, isSpace c = false) :
    text.dropWhile isSpace = text := by
  cases text with
  | nil => rfl
  | cons c rest => simp [h c List.mem_cons_self]

/-- Whether a character may stand in a spelling: a digit, or the letter of a marker. -/
def isNumeralChar (c : Char) : Bool := isDigit c || c == 'x' || c == 'X'

/-- What may stand in a spelling is in ASCII, and neither a space nor a sign. -/
theorem of_isNumeralChar (h : isNumeralChar c = true) :
    c.toNat < 0x80 ∧ isSpace c = false ∧ c ≠ '-' ∧ c ≠ '+' := by
  have hascii : c.toNat < 0x80 := by
    simp only [isNumeralChar, Bool.or_eq_true, beq_iff_eq] at h
    rcases h with (hdigit | rfl) | rfl
    · exact toNat_lt_of_isDigit hdigit
    · decide
    · decide
  have hall : ∀ n < 0x80, isNumeralChar (Char.ofNat n) = true →
      isSpace (Char.ofNat n) = false ∧ Char.ofNat n ≠ '-' ∧ Char.ofNat n ≠ '+' := by
    decide +kernel
  exact ⟨hascii, forall_ascii (P := fun c => isNumeralChar c = true →
    isSpace c = false ∧ c ≠ '-' ∧ c ≠ '+') hall hascii h⟩

/-- Where there are neither spaces nor a sign, a text is read as a numeral without a sign. -/
theorem read?_of_isNumeralChar (h : ∀ c ∈ text, isNumeralChar c = true) :
    read? text = (magnitude? text).map Int.ofNat := by
  have hspace : ∀ c ∈ text, isSpace c = false := fun c hc => (of_isNumeralChar (h c hc)).2.1
  have hreverse : ∀ c ∈ text.reverse, isSpace c = false := fun c hc =>
    hspace c (List.mem_reverse.1 hc)
  have hminus : ∀ rest, text ≠ '-' :: rest := by
    rintro rest rfl
    exact (of_isNumeralChar (h _ List.mem_cons_self)).2.2.1 rfl
  have hplus : ∀ rest, text ≠ '+' :: rest := by
    rintro rest rfl
    exact (of_isNumeralChar (h _ List.mem_cons_self)).2.2.2 rfl
  rw [read?, asciiForm?_of_ascii fun c hc => (of_isNumeralChar (h c hc)).1]
  simp only [bind, Option.bind_some]
  rw [dropWhile_isSpace_eq_self hspace, dropWhile_isSpace_eq_self hreverse, List.reverse_reverse,
    signed?.eq_3 _ hminus hplus]

/-- Digits with a marker in front are read as the number that they denote. -/
theorem read?_of_digits (hmarker : IsMarker marker) (hdigits : List.Forall₂ IsDigitOf text ds)
    (hne : ds ≠ []) : read? (marker ++ text) = some ((ofDigits 16 ds : ℕ) : ℤ) := by
  have hplain : ∀ c ∈ marker ++ text, isNumeralChar c = true := by
    have hmark : marker.all isNumeralChar = true := by cases hmarker <;> rfl
    intro c hc
    rcases List.mem_append.1 hc with hc | hc
    · exact List.all_eq_true.1 hmark c hc
    · obtain ⟨d, hd⟩ := exists_forall₂_iff.1 ⟨ds, hdigits⟩ c hc
      simp [isNumeralChar, isDigit_of_isDigitOf hd]
  rw [read?_of_isNumeralChar hplain, magnitude?, dropMarker_append hmarker hdigits,
    digits?_of_forall₂ hdigits hne]
  rfl

/-- **A spelling is read as the number that it spells.** -/
theorem read?_of_spells (h : Spells text n) : read? text = some (n : ℤ) := by
  obtain ⟨hmarker, hdigits, hne⟩ := h
  rename_i marker digits zeros
  have hall : List.Forall₂ IsDigitOf (List.replicate zeros '0' ++ digits)
      (List.replicate zeros 0 ++ (Nat.digits 16 n).reverse) :=
    List.rel_append (forall₂_replicate_zero zeros) hdigits
  have hvalues : List.replicate zeros 0 ++ (Nat.digits 16 n).reverse ≠ [] := by
    rw [← List.length_pos_iff, ← hall.length_eq]
    exact List.length_pos_iff.2 hne
  have hnumber : ofDigits 16 (List.replicate zeros 0 ++ (Nat.digits 16 n).reverse) = n := by
    rw [ofDigits_zeros_append, ofDigits_eq_ofDigits_reverse, List.reverse_reverse,
      Nat.ofDigits_digits]
  rw [read?_of_digits hmarker hall hvalues, hnumber]

/-- A text spells one number at most. -/
theorem Spells.unique {m : ℕ} (hm : Spells text m) (hn : Spells text n) : m = n := by
  have hsame := (read?_of_spells hm).symm.trans (read?_of_spells hn)
  exact_mod_cast Option.some.inj hsame

/-- The digits of a number, written with small letters. -/
theorem forall₂_digitChar (n : ℕ) :
    List.Forall₂ IsDigitOf ((Nat.digits 16 n).reverse.map Nat.digitChar)
      (Nat.digits 16 n).reverse := by
  rw [List.forall₂_map_left_iff, List.forall₂_same]
  intro d hd
  exact ⟨Nat.digits_lt_base (by decide) (List.mem_reverse.1 hd), Or.inl rfl⟩

/-- **Every number has spellings**, with any marker and any number of zeros in front. -/
theorem spells_digits (hmarker : IsMarker marker) (zeros n : ℕ) :
    Spells (marker ++ (List.replicate (zeros + 1) '0' ++
      (Nat.digits 16 n).reverse.map Nat.digitChar)) n :=
  .intro hmarker (forall₂_digitChar n) (by simp [List.replicate_succ])

/-- Digits are those of the number that they denote, behind some zeros. -/
theorem exists_zeros_append (hdigits : List.Forall₂ IsDigitOf text ds) :
    ∃ zeros digits, text = List.replicate zeros '0' ++ digits ∧
      List.Forall₂ IsDigitOf digits (Nat.digits 16 (ofDigits 16 ds)).reverse := by
  induction hdigits with
  | nil => exact ⟨0, [], rfl, by simp⟩
  | @cons c d rest ds hc hrest ih =>
    by_cases hd : d = 0
    · -- one zero more
      obtain ⟨zeros, digits, rfl, hdigits⟩ := ih
      subst hd
      have hzero : c = '0' := by
        obtain ⟨-, rfl | rfl⟩ := hc <;> rfl
      exact ⟨zeros + 1, digits, by rw [hzero]; rfl, by rwa [ofDigits_zero_cons]⟩
    · -- the first digit is none, so these are the digits
      have hall : List.Forall₂ IsDigitOf (c :: rest) (d :: ds) := .cons hc hrest
      have hlt : ∀ x ∈ (d :: ds).reverse, x < 16 := by
        intro x hx
        obtain ⟨y, hy⟩ := exists_forall₂_iff.1 ⟨c :: rest, hall.flip⟩ x (List.mem_reverse.1 hx)
        exact hy.1
      have hdigits : Nat.digits 16 (ofDigits 16 (d :: ds)) = (d :: ds).reverse := by
        rw [ofDigits_eq_ofDigits_reverse]
        exact Nat.digits_ofDigits 16 (by decide) _ hlt (by simpa using hd)
      exact ⟨0, c :: rest, rfl, by rwa [hdigits, List.reverse_reverse]⟩

/-- **Any digits are a spelling** of the number that they denote, with a marker or without. -/
theorem spells_of_digits (hmarker : IsMarker marker) (hdigits : List.Forall₂ IsDigitOf text ds)
    (hne : ds ≠ []) : Spells (marker ++ text) (ofDigits 16 ds) := by
  obtain ⟨zeros, digits, rfl, hown⟩ := exists_zeros_append hdigits
  refine .intro hmarker hown ?_
  rw [← List.length_pos_iff, hdigits.length_eq]
  exact List.length_pos_iff.2 hne

end Hexadecimal
end Numeral
end ChainAtlas
