import ChainAtlas.Proofs.Decimal.Value
import Mathlib.Data.Option.Basic
import Mathlib.Tactic.FieldSimp
import Mathlib.Tactic.Ring

/-!
# How decimal numbers are spelled

One number has many spellings.  It may have a sign, zeros in front and at its end, a point anywhere
among its digits or none at all, and an exponent that moves the point; blanks may stand around it,
underscores anywhere in it, and its digits may be those of any script.  Here all of this is written
down as a grammar, with the number that each spelling denotes by the meaning of positional notation,
and the reader is shown to accept this grammar and nothing else.

* `Spelling` is what a spelling says, and `Spelling.value` the number that it denotes.
* `Spelling.IsWritten` relates what is said to the text that says it.
* `read?_eq_number_iff`: a text is read as a number exactly when it is a spelling, and the number is
  the one that is spelled, as long as its exponents are within the bounds of what is representable.

`Denotes` leaves the spelling aside and relates a text to its number.  Two texts are spellings of
the same number when both denote it.
-/

namespace ChainAtlas
namespace Numeral

/-! ## Digits -/

theorem isDigit_of_digit?_eq_some {c : Char} {n : ℕ} (h : digit? c = some n) :
    '0' ≤ c ∧ c ≤ '9' := by
  rw [digit?] at h
  split_ifs at h with hc
  exact hc

theorem digits?_cons (c : Char) (text : List Char) :
    digits? (c :: text) = (digit? c).bind fun d => (digits? text).map (d :: ·) := by
  rw [digits?, List.mapM_cons]
  cases digit? c with
  | none => rfl
  | some d => cases h : List.mapM digit? text <;> simp [digits?, h]

/-- A list of digits is as long as its text, and nothing but digits is in it. -/
theorem of_digits?_eq_some {text : List Char} {ds : List ℕ} (h : digits? text = some ds) :
    ds.length = text.length ∧ ∀ c ∈ text, '0' ≤ c ∧ c ≤ '9' := by
  induction text generalizing ds with
  | nil =>
    cases h
    exact ⟨rfl, nofun⟩
  | cons c text ih =>
    rw [digits?_cons, Option.bind_eq_some_iff] at h
    obtain ⟨d, hd, htext⟩ := h
    obtain ⟨ds', hds', rfl⟩ := Option.map_eq_some_iff.1 htext
    obtain ⟨hlength, hall⟩ := ih hds'
    exact ⟨congrArg (· + 1) hlength,
      List.forall_mem_cons.2 ⟨isDigit_of_digit?_eq_some hd, hall⟩⟩

/-- What a text of digits lacks, it lacks for not being a digit. -/
theorem ne_of_digits?_eq_some {text : List Char} {ds : List ℕ} (h : digits? text = some ds)
    {c mark : Char} (hc : c ∈ text) (hmark : ¬ ('0' ≤ mark ∧ mark ≤ '9')) : c ≠ mark := by
  rintro rfl
  exact hmark ((of_digits?_eq_some h).2 c hc)

namespace Decimal

open Text

/-! ## The grammar -/

/-- What a spelling says: a sign, the digits before and after the point, and the power of ten that
the number is multiplied with. -/
structure Spelling where
  negative : Bool
  whole : List ℕ
  fraction : List ℕ
  exponent : ℤ

/-- The sign of a number.  None is the same as a plus. -/
inductive IsSign : List Char → Bool → Prop where
  | absent : IsSign [] false
  | plus : IsSign ['+'] false
  | minus : IsSign ['-'] true

/-- The digits after the point, with the point in front.  Both may be absent. -/
inductive IsFraction : List Char → List ℕ → Prop where
  | absent : IsFraction [] []
  | point {text : List Char} {ds : List ℕ} (hdigits : digits? text = some ds) :
      IsFraction ('.' :: text) ds

/-- A whole number with its sign. -/
inductive IsInteger : List Char → ℤ → Prop where
  | signed {sign text : List Char} {negative : Bool} {ds : List ℕ} (hsign : IsSign sign negative)
      (hdigits : digits? text = some ds) (hne : ds ≠ []) :
      IsInteger (sign ++ text) (if negative then -(ofDigits 10 ds : ℤ) else ofDigits 10 ds)

/-- The exponent, with its mark in front.  It may be absent. -/
inductive IsExponent : List Char → ℤ → Prop where
  | absent : IsExponent [] 0
  | marked {mark : Char} {text : List Char} {exponent : ℤ} (hmark : isExponentMark mark = true)
      (hexponent : IsInteger text exponent) : IsExponent (mark :: text) exponent

namespace Spelling

/-- The number that is spelled: the digits before the point count ones, those after it fractions of
one. -/
def value (s : Spelling) : ℚ :=
  (if s.negative then -1 else 1) *
    ((ofDigits 10 s.whole : ℚ) + (ofDigits 10 s.fraction : ℚ) / 10 ^ s.fraction.length) *
      10 ^ s.exponent

/-- The spelled number as a coefficient and an exponent. -/
def decimal (s : Spelling) : Decimal := ofParts s.negative s.whole s.fraction s.exponent

/-- A text that says what a spelling says apart from the sign.  There is at least one digit. -/
def IsBody (s : Spelling) (text : List Char) : Prop :=
  ∃ whole fraction exponent, text = whole ++ (fraction ++ exponent) ∧
    digits? whole = some s.whole ∧ IsFraction fraction s.fraction ∧
      IsExponent exponent s.exponent ∧ s.whole ++ s.fraction ≠ []

/-- A text in ASCII that says what a spelling says. -/
def IsWritten (s : Spelling) (text : List Char) : Prop :=
  ∃ sign body, text = sign ++ body ∧ IsSign sign s.negative ∧ s.IsBody body

/-- The coefficient and the exponent denote what is spelled. -/
theorem value_decimal (s : Spelling) : s.decimal.value = s.value := by
  have hten : (10 : ℚ) ≠ 0 := by norm_num
  have hmagnitude : s.decimal.magnitude =
      ((ofDigits 10 s.whole : ℚ) + (ofDigits 10 s.fraction : ℚ) / 10 ^ s.fraction.length) *
        10 ^ s.exponent := by
    rw [decimal, magnitude, ofParts, ofDigits_append, zpow_sub₀ hten, zpow_natCast]
    push_cast
    field_simp
  rw [Decimal.value, hmagnitude, value]
  have hsign : s.decimal.negative = s.negative := rfl
  rw [hsign]
  split_ifs <;> ring

end Spelling

/-! ## Reading the parts -/

variable {text : List Char} {d : Decimal} {negative : Bool}

/-- An integer without a sign is read as its digits say. -/
theorem exponent?_of_digits {ds : List ℕ} (hdigits : digits? text = some ds) (hne : ds ≠ []) :
    exponent? text = some (ofDigits 10 ds : ℤ) := by
  have hlength := (of_digits?_eq_some hdigits).1
  cases text with
  | nil => exact absurd (List.length_eq_zero_iff.1 hlength) hne
  | cons c rest =>
    have hminus : c ≠ '-' := ne_of_digits?_eq_some hdigits List.mem_cons_self (by decide)
    have hplus : c ≠ '+' := ne_of_digits?_eq_some hdigits List.mem_cons_self (by decide)
    rw [exponent?.eq_3 _ (by simp [hminus]) (by simp [hplus]), hdigits]
    rfl

/-- The exponent of a number is read exactly as an integer with a sign. -/
theorem exponent?_eq_some_iff {exponent : ℤ} :
    exponent? text = some exponent ↔ IsInteger text exponent := by
  have hread : ∀ (rest : List Char) (f : List ℕ → ℤ),
      (if rest.isEmpty then none else (digits? rest).map f) = some exponent →
        ∃ ds, digits? rest = some ds ∧ ds ≠ [] ∧ f ds = exponent := by
    intro rest f h
    split_ifs at h with hempty
    obtain ⟨ds, hds, hf⟩ := Option.map_eq_some_iff.1 h
    refine ⟨ds, hds, ?_, hf⟩
    rintro rfl
    exact hempty (List.isEmpty_iff.2 (List.length_eq_zero_iff.1 (of_digits?_eq_some hds).1.symm))
  constructor
  · intro h
    rw [exponent?.eq_def] at h
    split at h
    · obtain ⟨ds, hds, hne, rfl⟩ := hread _ _ h
      exact .signed .minus hds hne
    · obtain ⟨ds, hds, hne, rfl⟩ := hread _ _ h
      exact .signed .plus hds hne
    · obtain ⟨ds, hds, hne, rfl⟩ := hread _ _ h
      exact .signed .absent hds hne
  · rintro ⟨hsign, hdigits, hne⟩
    rename_i sign digits _ ds
    have hnonempty : digits.isEmpty = false := by
      cases digits with
      | nil => exact absurd (List.length_eq_zero_iff.1 (of_digits?_eq_some hdigits).1) hne
      | cons c rest => rfl
    cases hsign with
    | absent => exact exponent?_of_digits hdigits hne
    | plus => simp [exponent?, hnonempty, hdigits]
    | minus => simp [exponent?, hnonempty, hdigits]

/-- What is left of a list starts with an item that is not dropped. -/
theorem head_of_dropWhile {α : Type} {p : α → Bool} {l rest : List α} {a : α}
    (h : l.dropWhile p = a :: rest) : p a = false := by
  have hhead := List.head?_dropWhile_not p l
  rw [h] at hhead
  exact hhead

/-- There is no mark of an exponent among digits. -/
theorem isExponentMark_of_digits {ds : List ℕ} (hdigits : digits? text = some ds) :
    ∀ c ∈ text, isExponentMark c = false := by
  intro c hc
  have hsmall : c ≠ 'e' := ne_of_digits?_eq_some hdigits hc (by decide)
  have hcapital : c ≠ 'E' := ne_of_digits?_eq_some hdigits hc (by decide)
  simp [isExponentMark, hsmall, hcapital]

namespace IsFraction

variable {fraction : List ℕ}

theorem isExponentMark (h : IsFraction text fraction) :
    ∀ c ∈ text, Decimal.isExponentMark c = false := by
  cases h with
  | absent => nofun
  | point hdigits => exact List.forall_mem_cons.2 ⟨rfl, isExponentMark_of_digits hdigits⟩

/-- The fraction is what is cut off at the point. -/
theorem span_append (h : IsFraction text fraction) {whole : List Char}
    (hwhole : ∀ c ∈ whole, c ≠ '.') :
    (whole ++ text).takeWhile (· != '.') = whole ∧
      digits? (((whole ++ text).dropWhile (· != '.')).drop 1) = some fraction := by
  have hinside : ∀ c ∈ whole, (c != '.') = true := fun c hc => by simpa using hwhole c hc
  rw [List.takeWhile_append_of_pos hinside, List.dropWhile_append_of_pos hinside]
  cases h with
  | absent => exact ⟨List.append_nil whole, rfl⟩
  | point hdigits => exact ⟨by simp, by simpa using hdigits⟩

/-- What is cut off at the point is a fraction. -/
theorem of_dropWhile {mantissa : List Char}
    (h : digits? ((mantissa.dropWhile (· != '.')).drop 1) = some fraction) :
    IsFraction (mantissa.dropWhile (· != '.')) fraction := by
  cases hrest : mantissa.dropWhile (· != '.') with
  | nil =>
    rw [hrest] at h
    cases h
    exact .absent
  | cons c rest =>
    have hc : c = '.' := by simpa using head_of_dropWhile hrest
    rw [hrest] at h
    rw [hc]
    exact .point h

end IsFraction

/-- The exponent that a text ends with, if it ends with one. -/
def readExponent? : List Char → Option ℤ
  | [] => some 0
  | _ :: tail => exponent? tail

namespace IsExponent

variable {exponent : ℤ}

/-- The exponent is what is cut off at its mark. -/
theorem span_append (h : IsExponent text exponent) {mantissa : List Char}
    (hmantissa : ∀ c ∈ mantissa, Decimal.isExponentMark c = false) :
    (mantissa ++ text).takeWhile (!Decimal.isExponentMark ·) = mantissa ∧
      readExponent? ((mantissa ++ text).dropWhile (!Decimal.isExponentMark ·)) =
        some exponent := by
  have hinside : ∀ c ∈ mantissa, (!Decimal.isExponentMark c) = true := fun c hc => by
    simpa using hmantissa c hc
  rw [List.takeWhile_append_of_pos hinside, List.dropWhile_append_of_pos hinside]
  cases h with
  | absent => exact ⟨List.append_nil mantissa, rfl⟩
  | marked hmark hexponent =>
    exact ⟨by simp [hmark], by simpa [hmark, readExponent?] using exponent?_eq_some_iff.2 hexponent⟩

/-- What is cut off at the mark of an exponent is one. -/
theorem of_dropWhile {input : List Char}
    (h : readExponent? (input.dropWhile (!Decimal.isExponentMark ·)) = some exponent) :
    IsExponent (input.dropWhile (!Decimal.isExponentMark ·)) exponent := by
  cases hrest : input.dropWhile (!Decimal.isExponentMark ·) with
  | nil =>
    rw [hrest] at h
    cases h
    exact .absent
  | cons c rest =>
    have hc : Decimal.isExponentMark c = true := by simpa using head_of_dropWhile hrest
    rw [hrest] at h
    exact .marked hc (exponent?_eq_some_iff.1 h)

end IsExponent

/-! ## Reading the whole -/

/-- The parts that a number is read from. -/
theorem finite?_eq_some_iff_parts : finite? negative text = some d ↔
    ∃ exponent whole fraction,
      readExponent? (text.dropWhile (!isExponentMark ·)) = some exponent ∧
      digits? ((text.takeWhile (!isExponentMark ·)).takeWhile (· != '.')) = some whole ∧
      digits? (((text.takeWhile (!isExponentMark ·)).dropWhile (· != '.')).drop 1) =
        some fraction ∧
      whole ++ fraction ≠ [] ∧
        (ofParts negative whole fraction exponent).isRepresentable = true ∧
          ofParts negative whole fraction exponent = d := by
  have hfinite : finite? negative text =
      (readExponent? (text.dropWhile (!isExponentMark ·))).bind fun exponent =>
        (digits? ((text.takeWhile (!isExponentMark ·)).takeWhile (· != '.'))).bind fun whole =>
          (digits? (((text.takeWhile (!isExponentMark ·)).dropWhile (· != '.')).drop 1)).bind
            fun fraction =>
              (guard (!(whole ++ fraction).isEmpty) : Option Unit).bind fun _ =>
                (guard (ofParts negative whole fraction exponent).isRepresentable :
                  Option Unit).bind fun _ => some (ofParts negative whole fraction exponent) := by
    rw [finite?]
    cases text.dropWhile (!isExponentMark ·) <;> rfl
  rw [hfinite]
  simp only [Option.bind_eq_some_iff, Option.guard_eq_some', exists_const, exists_and_left,
    Option.some_inj, Bool.not_eq_true', List.isEmpty_eq_false_iff]

/-- A text without a sign is read as a number exactly when it is the body of a spelling. -/
theorem finite?_eq_some_iff : finite? negative text = some d ↔
    ∃ s : Spelling, s.negative = negative ∧ s.IsBody text ∧ s.decimal = d ∧
      d.isRepresentable = true := by
  rw [finite?_eq_some_iff_parts]
  constructor
  · rintro ⟨exponent, whole, fraction, hexponent, hwhole, hfraction, hne, hrep, rfl⟩
    refine ⟨⟨negative, whole, fraction, exponent⟩, rfl, ?_, rfl, hrep⟩
    refine ⟨_, _, _, ?_, hwhole, .of_dropWhile hfraction, .of_dropWhile hexponent, hne⟩
    rw [← List.append_assoc, List.takeWhile_append_dropWhile, List.takeWhile_append_dropWhile]
  · rintro ⟨⟨_, whole, fraction, exponent⟩, rfl, hbody, rfl, hrep⟩
    obtain ⟨wholeText, fractionText, exponentText, rfl, hwhole, hfraction, hexponent, hne⟩ := hbody
    have hmantissa : ∀ c ∈ wholeText ++ fractionText, isExponentMark c = false :=
      List.forall_mem_append.2 ⟨isExponentMark_of_digits hwhole, hfraction.isExponentMark⟩
    have hpoint : ∀ c ∈ wholeText, c ≠ '.' := fun c hc =>
      ne_of_digits?_eq_some hwhole hc (by decide)
    obtain ⟨htake, hread⟩ := hexponent.span_append hmantissa
    obtain ⟨htakeWhole, hdrop⟩ := hfraction.span_append hpoint
    rw [← List.append_assoc, htake, htakeWhole]
    exact ⟨exponent, whole, fraction, hread, hwhole, hdrop, hne, hrep, rfl⟩

/-! ## Signs and words -/

namespace Spelling

variable {s : Spelling}

/-- The body of a spelling opens with a digit or with the point. -/
theorem IsBody.exists_cons (h : s.IsBody text) :
    ∃ c rest, text = c :: rest ∧ ('0' ≤ c ∧ c ≤ '9' ∨ c = '.') := by
  obtain ⟨whole, fraction, exponent, rfl, hwhole, hfraction, -, hne⟩ := h
  cases whole with
  | cons c whole =>
    exact ⟨c, _, rfl, Or.inl ((of_digits?_eq_some hwhole).2 c List.mem_cons_self)⟩
  | nil =>
    have hempty : s.whole = [] := List.length_eq_zero_iff.1 (of_digits?_eq_some hwhole).1
    rw [hempty] at hne
    generalize s.fraction = ds at hfraction hne
    cases hfraction with
    | absent => exact absurd rfl hne
    | point => exact ⟨'.', _, rfl, Or.inr rfl⟩

/-- So it opens neither with a sign nor with the first letter of a word. -/
theorem IsBody.head_notMem (h : s.IsBody text) :
    ∃ c rest, text = c :: rest ∧ c ∉ ['+', '-'] ∧ c.toLower ∉ ['i', 'n', 's'] := by
  have hall : ∀ n < 0x3A, 0x2E ≤ n →
      Char.ofNat n ∉ ['+', '-'] ∧ (Char.ofNat n).toLower ∉ ['i', 'n', 's'] := by decide
  obtain ⟨c, rest, rfl, ⟨hlow, hhigh⟩ | rfl⟩ := h.exists_cons
  · have hlow : 0x30 ≤ c.toNat := hlow
    have hhigh : c.toNat ≤ 0x39 := hhigh
    have hc := hall c.toNat (by omega) (by omega)
    rw [Char.ofNat_toNat] at hc
    exact ⟨c, rest, rfl, hc⟩
  · exact ⟨'.', rest, rfl, by decide⟩

end Spelling

/-- The words leave no number unread. -/
theorem unsigned?_eq_number_iff :
    unsigned? negative text = some (.number d) ↔ finite? negative text = some d := by
  constructor
  · intro h
    rw [unsigned?] at h
    split_ifs at h
    · cases h
    · split at h
      · simp at h
      · simp at h
      · simpa using h
  · intro h
    obtain ⟨s, -, hbody, -⟩ := finite?_eq_some_iff.1 h
    obtain ⟨c, rest, rfl, -, hlower⟩ := hbody.head_notMem
    simp only [List.mem_cons, List.not_mem_nil, or_false, not_or] at hlower
    simp [unsigned?, h, hlower]

/-- An ASCII text is read as a number exactly when it is a spelling. -/
theorem signed?_eq_number_iff : signed? text = some (.number d) ↔
    ∃ s : Spelling, s.IsWritten text ∧ s.decimal = d ∧ d.isRepresentable = true := by
  constructor
  · intro h
    rw [signed?.eq_def] at h
    split at h <;> obtain ⟨s, hs, hbody, hd⟩ := finite?_eq_some_iff.1 (unsigned?_eq_number_iff.1 h)
    · exact ⟨s, ⟨['-'], _, rfl, hs ▸ .minus, hbody⟩, hd⟩
    · exact ⟨s, ⟨['+'], _, rfl, hs ▸ .plus, hbody⟩, hd⟩
    · exact ⟨s, ⟨[], _, rfl, hs ▸ .absent, hbody⟩, hd⟩
  · rintro ⟨⟨negative, whole, fraction, exponent⟩, ⟨sign, body, rfl, hsign, hbody⟩, hd⟩
    have hread : unsigned? negative body = some (.number d) :=
      unsigned?_eq_number_iff.2 (finite?_eq_some_iff.2 ⟨_, rfl, hbody, hd⟩)
    cases hsign with
    | absent =>
      obtain ⟨c, rest, rfl, hmark, -⟩ := hbody.head_notMem
      simp only [List.mem_cons, List.not_mem_nil, or_false, not_or] at hmark
      exact (signed?.eq_3 _ (by simp [hmark]) (by simp [hmark])).trans hread
    | plus => exact hread
    | minus => exact hread

/-- **Spellings are what is read.**  A text is read as a number exactly when its ASCII form, without
the blanks around it and the underscores in it, is a spelling whose exponents are within bounds; and
the number has the sign, the digits and the exponent that are spelled. -/
theorem read?_eq_number_iff : read? text = some (.number d) ↔
    ∃ ascii s, asciiForm? ((trimBlanks text).filter (· != '_')) = some ascii ∧
      Spelling.IsWritten s ascii ∧ s.decimal = d ∧ d.isRepresentable = true := by
  rw [read?]
  simp only [bind, Option.bind_eq_some_iff, signed?_eq_number_iff, exists_and_left]

/-! ## The number that a text denotes -/

/-- Whether a text is a spelling of a number: blanks may stand around it, underscores in it, and its
digits may be those of any script.  Its exponents have to be within bounds. -/
def Denotes (text : List Char) (number : ℚ) : Prop :=
  ∃ ascii s, asciiForm? ((trimBlanks text).filter (· != '_')) = some ascii ∧
    Spelling.IsWritten s ascii ∧ s.decimal.isRepresentable = true ∧ s.value = number

/-- A text denotes the number that is read from it, and none if nothing is. -/
theorem denotes_iff {number : ℚ} : Denotes text number ↔
    ∃ d, read? text = some (.number d) ∧ d.value = number := by
  constructor
  · rintro ⟨ascii, s, hascii, hwritten, hrep, rfl⟩
    exact ⟨s.decimal, read?_eq_number_iff.2 ⟨ascii, s, hascii, hwritten, rfl, hrep⟩,
      s.value_decimal⟩
  · rintro ⟨d, hread, rfl⟩
    obtain ⟨ascii, s, hascii, hwritten, rfl, hrep⟩ := read?_eq_number_iff.1 hread
    exact ⟨ascii, s, hascii, hwritten, hrep, s.value_decimal.symm⟩

end Decimal
end Numeral
end ChainAtlas
