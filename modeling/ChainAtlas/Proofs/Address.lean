import ChainAtlas.Address
import ChainAtlas.Proofs.Numeral.Hexadecimal
import ChainAtlas.Proofs.Text.LowerCase
import Mathlib

/-!
# Addresses are the numbers below `2 ^ 160`, up to the case of their letters

An address is a marker and forty hexadecimal digits, so it spells a number (`spells_toNat`), and
every number that has no more than forty digits is spelled by one (`exists_text_eq_spelling`).  A
number has one spelling in small letters (`spelling`), and an address in lower case is that spelling
of its own number (`text_lower`).  Everything about the comparison of addresses follows: two of them
are the same account when they are the same in lower case, that is when they spell the same number.

An address is also compared with texts that are none.  No character of an address is the small form
of a character outside of ASCII, so the texts that an address agrees with are those that differ from
it in the case of some letters and in nothing else (`sameAs_iff`).
-/

namespace ChainAtlas
namespace Address

open Numeral.Hexadecimal Text
open Numeral hiding digit? digits?

variable {a b : Address} {text : String} {n : ℕ}

/-! ## The form of an address -/

/-- Whether a text is `0x` and forty hexadecimal digits, spelled out. -/
def IsSpelled (text : String) : Prop :=
  ∃ digits : List Char, text.toList = '0' :: 'x' :: digits ∧ digits.length = 40 ∧
    ∀ c ∈ digits, '0' ≤ c ∧ c ≤ '9' ∨ 'a' ≤ c ∧ c ≤ 'f' ∨ 'A' ≤ c ∧ c ≤ 'F'

theorem isWellFormed_iff_isSpelled : isWellFormed text.toList = true ↔ IsSpelled text := by
  rw [isWellFormed.eq_def, IsSpelled]
  split
  · next digits htext =>
    simp only [htext, List.cons.injEq, true_and, Bool.and_eq_true, beq_iff_eq, List.all_eq_true,
      isDigit_iff, exists_eq_left']
  · next hno =>
    simp only [Bool.false_eq_true, false_iff]
    rintro ⟨digits, htext, -⟩
    exact hno digits htext

theorem isSpelled (a : Address) : IsSpelled a.text := isWellFormed_iff_isSpelled.1 a.wellFormed

/-- **The texts of the right form are the addresses.** -/
theorem exists_ofText_iff : (∃ a, ofText text = .ok a) ↔ IsSpelled text := by
  simp only [ofText_eq_ok_iff, ← isWellFormed_iff_isSpelled]
  constructor
  · rintro ⟨a, rfl⟩
    exact a.wellFormed
  · intro h
    exact ⟨⟨text, h⟩, rfl⟩

/-- An address is its text. -/
theorem text_inj : a.text = b.text ↔ a = b := by
  constructor
  · intro h
    cases a
    cases b
    cases h
    rfl
  · rintro rfl
    rfl

/-! ## The number of an address -/

theorem toNat_eq_ofDigits {digits : List Char} {ds : List ℕ}
    (htext : a.text.toList = '0' :: 'x' :: digits) (h : List.Forall₂ IsDigitOf digits ds) :
    a.toNat = ofDigits 16 ds := by
  rw [toNat, htext, List.drop_succ_cons, List.drop_succ_cons, List.drop_zero, filterMap_digit? h]

/-- The digits of an address, with their values. -/
theorem exists_digits (a : Address) :
    ∃ digits ds, a.text.toList = '0' :: 'x' :: digits ∧ List.Forall₂ IsDigitOf digits ds ∧
      ds.length = 40 ∧ a.toNat = ofDigits 16 ds := by
  obtain ⟨digits, htext, hlength, hdigits⟩ := a.isSpelled
  have hvalues : ∀ c ∈ digits, ∃ d, IsDigitOf c d := by
    intro c hc
    obtain ⟨d, hd⟩ := Option.isSome_iff_exists.1 (isDigit_iff.2 (hdigits c hc))
    exact ⟨d, digit?_eq_some_iff.1 hd⟩
  obtain ⟨ds, hds⟩ := Outcome.exists_forall₂_iff.2 hvalues
  exact ⟨digits, ds, htext, hds, hds.length_eq.symm.trans hlength, toNat_eq_ofDigits htext hds⟩

/-- **An address spells its number.** -/
theorem spells_toNat (a : Address) : Spells a.text.toList a.toNat := by
  obtain ⟨digits, ds, htext, hds, hlength, hnumber⟩ := a.exists_digits
  rw [htext, hnumber]
  refine spells_of_digits .small hds ?_
  rintro rfl
  cases hlength

/-- **The number of an address is below `2 ^ 160`.** -/
theorem toNat_lt (a : Address) : a.toNat < 2 ^ 160 := by
  obtain ⟨digits, ds, -, hds, hlength, hnumber⟩ := a.exists_digits
  have hlt : ∀ d ∈ ds, d < 16 := by
    intro d hd
    obtain ⟨c, hc⟩ := Outcome.exists_forall₂_iff.1 ⟨digits, hds.flip⟩ d hd
    exact hc.1
  calc a.toNat = ofDigits 16 ds := hnumber
    _ < 16 ^ ds.length := ofDigits_lt_pow hlt
    _ = 2 ^ 160 := by rw [hlength]; norm_num

/-! ## The spelling of a number -/

/-- The digits of a number in small letters, with zeros in front of them up to forty. -/
def paddedDigits (n : ℕ) : List Char :=
  List.replicate (40 - (Nat.digits 16 n).length) '0' ++
    (Nat.digits 16 n).reverse.map Nat.digitChar

/-- The spelling of a number as an address in small letters. -/
def spelling (n : ℕ) : String := String.ofList ('0' :: 'x' :: paddedDigits n)

theorem forall₂_paddedDigits (n : ℕ) :
    List.Forall₂ IsDigitOf (paddedDigits n)
      (List.replicate (40 - (Nat.digits 16 n).length) 0 ++ (Nat.digits 16 n).reverse) :=
  List.rel_append (forall₂_replicate_zero _) (forall₂_digitChar n)

theorem length_paddedDigits (h : n < 2 ^ 160) : (paddedDigits n).length = 40 := by
  have hle : (Nat.digits 16 n).length ≤ 40 :=
    (Nat.digits_length_le_iff (by decide) n).2 (lt_of_lt_of_eq h (by norm_num))
  rw [paddedDigits, List.length_append, List.length_replicate, List.length_map,
    List.length_reverse]
  omega

/-- **Every number below `2 ^ 160` has an address.** -/
theorem exists_text_eq_spelling (h : n < 2 ^ 160) :
    ∃ a : Address, a.text = spelling n ∧ a.toNat = n := by
  have htext : (spelling n).toList = '0' :: 'x' :: paddedDigits n := String.toList_ofList
  have hdigits : ∀ c ∈ paddedDigits n, isDigit c = true := by
    intro c hc
    obtain ⟨d, hd⟩ := Outcome.exists_forall₂_iff.1 ⟨_, forall₂_paddedDigits n⟩ c hc
    exact isDigit_of_isDigitOf hd
  have hform : isWellFormed (spelling n).toList = true := by
    rw [isWellFormed_iff_isSpelled]
    exact ⟨_, htext, length_paddedDigits h, fun c hc => isDigit_iff.1 (hdigits c hc)⟩
  have hnumber := toNat_eq_ofDigits (a := ⟨spelling n, hform⟩) htext (forall₂_paddedDigits n)
  rw [ofDigits_zeros_append, ofDigits_eq_ofDigits_reverse, List.reverse_reverse,
    Nat.ofDigits_digits] at hnumber
  exact ⟨⟨spelling n, hform⟩, rfl, hnumber⟩

/-! ## Letter case -/

theorem toList_lower (a : Address) : a.lower.text.toList = a.text.toList.map Char.toLower := by
  rw [lower, String.toList_ofList, lowerCase_of_ascii (toNat_lt_of_isWellFormed a.wellFormed)]

/-- **In lower case an address is the spelling of its number.** -/
theorem text_lower (a : Address) : a.lower.text = spelling a.toNat := by
  obtain ⟨digits, ds, htext, hds, hlength, hnumber⟩ := a.exists_digits
  obtain ⟨zeros, own, hzeros, hown⟩ := exists_zeros_append hds
  have hcount : zeros = 40 - (Nat.digits 16 a.toNat).length := by
    have hdigits := congrArg List.length hzeros
    rw [hds.length_eq, hlength, List.length_append, List.length_replicate, hown.length_eq,
      List.length_reverse, ← hnumber] at hdigits
    omega
  have hpadded : digits.map Char.toLower = paddedDigits a.toNat := by
    rw [hzeros, List.map_append, List.map_replicate, map_toLower_of_forall₂ hown, ← hnumber,
      paddedDigits, hcount]
    rfl
  rw [← String.toList_inj, toList_lower, htext, List.map_cons, List.map_cons, hpadded, spelling,
    String.toList_ofList]
  rfl

/-- An address keeps its number in lower case. -/
theorem toNat_lower (a : Address) : a.lower.toNat = a.toNat := by
  obtain ⟨same, htext, hnumber⟩ := exists_text_eq_spelling a.toNat_lt
  have heq : same = a.lower := text_inj.1 (htext.trans a.text_lower.symm)
  rw [← heq, hnumber]

/-- **Addresses are the same in lower case exactly when they have the same number.** -/
theorem lower_eq_lower_iff : a.lower = b.lower ↔ a.toNat = b.toNat := by
  constructor
  · intro h
    rw [← a.toNat_lower, h, b.toNat_lower]
  · intro h
    rw [← text_inj, text_lower, text_lower, h]

theorem lower_lower (a : Address) : a.lower.lower = a.lower :=
  lower_eq_lower_iff.2 a.toNat_lower

/-- Putting a text in lower case makes an address of the text of an address. -/
theorem ofText_lowerCase (a : Address) :
    ofText (String.ofList (lowerCase a.text.toList)) = .ok a.lower :=
  ofText_eq_ok_iff.2 rfl

theorem sameAs_text_iff : a.sameAs b.text = true ↔ a.lower = b.lower := by
  rw [sameAs, beq_iff_eq, ← text_inj, lower, lower, String.ofList_inj]

/-- No letter of an address is the one that is the small form of another character. -/
theorem of_mem_text {c : Char} (hc : c ∈ a.text.toList) : c.toNat < 0x80 ∧ c.toLower ≠ 'k' := by
  refine ⟨toNat_lt_of_isWellFormed a.wellFormed c hc, ?_⟩
  obtain ⟨digits, htext, -, hdigits⟩ := a.isSpelled
  rw [htext] at hc
  rcases List.mem_cons.1 hc with rfl | hc
  · decide
  · rcases List.mem_cons.1 hc with rfl | hc
    · decide
    · intro hk
      have hdigit := isDigit_toLower (isDigit_iff.2 (hdigits c hc))
      rw [hk] at hdigit
      cases hdigit

/-- **An address agrees with the texts that differ from it in the case of letters only.** -/
theorem sameAs_iff : a.sameAs text = true ↔
    text.toList.map Char.toLower = a.text.toList.map Char.toLower := by
  rw [sameAs, beq_iff_eq, lowerCase_eq_lowerCase_iff fun c hc => of_mem_text hc, eq_comm]

/-- **Addresses are the numbers below `2 ^ 160`, up to the case of their letters.**  The texts of
the right form are the addresses, each of them spells a number below `2 ^ 160`, and every such
number is spelled by one.  Lower case leads from an address to the one spelling of its number in
small letters, so two addresses agree, from either side, exactly when they have the same number,
while they are equal only where their texts are.  Of all texts an address agrees with those that
differ from it at most in the case of ASCII letters. -/
theorem numbers_up_to_case :
    (∀ text, (∃ a, ofText text = .ok a) ↔ IsSpelled text) ∧
    (∀ text a, ofText text = .ok a → Spells text.toList a.toNat ∧ a.toNat < 2 ^ 160) ∧
    (∀ n, n < 2 ^ 160 → ∃ a, ofText (spelling n) = .ok a ∧ a.toNat = n) ∧
    (∀ a : Address, ofText (String.ofList (lowerCase a.text.toList)) = .ok a.lower ∧
      a.lower.lower = a.lower ∧ a.lower.text = spelling a.toNat) ∧
    (∀ a b : Address, List.TFAE [a.sameAs b.text = true, a.lower = b.lower,
      b.sameAs a.text = true, a.toNat = b.toNat]) ∧
    (∀ a b : Address, (a == b) = true ↔ a.text = b.text) ∧
    ∀ (a : Address) (text : String), a.sameAs text = true ↔
      text.toList.map Char.toLower = a.text.toList.map Char.toLower := by
  refine ⟨fun text => exists_ofText_iff, fun text a h => ?_, fun n h => ?_, fun a => ?_,
    fun a b => ?_, fun a b => beq_iff_eq.trans text_inj.symm, fun a text => sameAs_iff⟩
  · rw [← ofText_eq_ok_iff.1 h]
    exact ⟨a.spells_toNat, a.toNat_lt⟩
  · obtain ⟨a, htext, hnumber⟩ := exists_text_eq_spelling h
    exact ⟨a, ofText_eq_ok_iff.2 htext, hnumber⟩
  · exact ⟨a.ofText_lowerCase, a.lower_lower, a.text_lower⟩
  · tfae_have 1 ↔ 2 := sameAs_text_iff
    tfae_have 2 ↔ 4 := lower_eq_lower_iff
    tfae_have 3 ↔ 2 := sameAs_text_iff.trans eq_comm
    tfae_finish

/-- An address with letters of both cases, the same one in capitals, and the last address of all. -/
theorem numbers_of_two_cases :
    ∃ a b : Address, ofText "0x256eb8a51f382650B2A1e946b8811953640ee47D" = .ok a ∧
      a.toNat < 2 ^ 160 ∧ ofText "0x256EB8A51F382650B2A1E946B8811953640EE47D" = .ok b ∧
      a.sameAs b.text = true ∧ a.toNat = b.toNat ∧ (a == b) = false ∧
    2 ^ 160 - 1 < 2 ^ 160 ∧
      ∃ c : Address, ofText (spelling (2 ^ 160 - 1)) = .ok c ∧ c.toNat = 2 ^ 160 - 1 := by
  obtain ⟨haccepted, hnumber, hspelling, -, htfae, hequal, -⟩ := numbers_up_to_case
  have hspelled : ∀ text ∈ ["0x256eb8a51f382650B2A1e946b8811953640ee47D",
      "0x256EB8A51F382650B2A1E946B8811953640EE47D"], IsSpelled text := by
    intro text htext
    rw [← isWellFormed_iff_isSpelled]
    revert text
    decide +kernel
  obtain ⟨a, ha⟩ := (haccepted _).2 (hspelled _ (List.mem_cons_self))
  obtain ⟨b, hb⟩ := (haccepted _).2 (hspelled _ (List.mem_cons_of_mem _ List.mem_cons_self))
  have hsame : a.sameAs b.text = true := by
    rw [sameAs, ofText_eq_ok_iff.1 ha, ofText_eq_ok_iff.1 hb]
    decide +kernel
  have hdifferent : (a == b) = false := by
    rw [Bool.eq_false_iff, ne_eq, hequal, ofText_eq_ok_iff.1 ha, ofText_eq_ok_iff.1 hb]
    decide
  have hlast : 2 ^ 160 - 1 < 2 ^ 160 := by norm_num
  exact ⟨a, b, ha, (hnumber _ a ha).2, hb, hsame, ((htfae a b).out 0 3).1 hsame, hdifferent, hlast,
    hspelling _ hlast⟩

end Address
end ChainAtlas
