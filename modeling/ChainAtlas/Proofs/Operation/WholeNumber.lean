import ChainAtlas.Proofs.Decimal.Spelling
import ChainAtlas.Proofs.Operation.Encoding

/-!
# Parameters that count

Some parameters count seconds or reviewers.  What is typed for one of them is taken for the number
that it denotes, and this number has to be whole.  Whether it is does not show in the text: `900.000`
and `90000e-2` denote nine hundred and `9e-1` denotes no whole number, however many digits stand
where.  The test goes by the number, and `argumentOf_integer_eq_number_iff` says that it is exact.

Unlike an amount of tokens, a count is never scaled, so it makes no difference how large it is.
-/

namespace ChainAtlas
namespace Operation

open Numeral Outcome

variable {method raw : String} {n : ℕ}

/-- **A count is what a text denotes.** -/
theorem argumentOf_integer_eq_number_iff :
    argumentOf method raw .integer = .ok (.number n) ↔ Decimal.Denotes raw.toList n := by
  rw [argumentOf_integer_eq_ok_iff, Decimal.denotes_iff]
  refine exists_congr fun d => ?_
  rw [amountOf_eq_ok_iff, and_assoc]
  refine and_congr_right fun _ => ?_
  constructor
  · rintro ⟨hvalue, found, hwhole, hfound⟩
    cases hfound
    exact ((wholeNumber_eq_ok_iff hvalue).1 hwhole).symm
  · intro hd
    have hvalue : 0 ≤ d.value := hd ▸ Nat.cast_nonneg n
    exact ⟨hvalue, n, (wholeNumber_eq_ok_iff hvalue).2 hd.symm, rfl⟩

/-- **Counts are taken exactly as they are, and nothing but whole numbers are counts.**  A value for
a parameter that holds a whole number is encoded as the number that the text denotes, in whatever
spelling and of whatever size; every text that denotes no whole number from zero on is refused as a
value. -/
theorem encode_integer_iff_denotes (op : Operation) (hset : op.isSetter = true)
    (hkind : op.parameter.kind = .integer) (raw : String) :
    (∀ n : ℕ, op.encode (some raw) = .ok (some (.number n)) ↔ Decimal.Denotes raw.toList n) ∧
    ((∀ n : ℕ, ¬ Decimal.Denotes raw.toList n) →
      ∃ fault, op.encode (some raw) = .error fault ∧ fault.kind = .value) := by
  have hargument : ∀ argument, op.encode (some raw) = .ok (some argument) ↔
      argumentOf op.method raw .integer = .ok argument := by
    intro argument
    simp only [encode_eq_some_iff, hset, hkind, true_and, Option.some.injEq, exists_eq_left']
  refine ⟨fun n => (hargument _).trans argumentOf_integer_eq_number_iff, fun hnone => ?_⟩
  cases hresult : op.encode (some raw) with
  | error fault =>
    rcases kind_of_encode hresult with ⟨-, -, haddress⟩ | hvalue
    · rw [hkind] at haddress
      cases haddress
    · exact ⟨fault, rfl, hvalue⟩
  | ok encoded =>
    cases encoded with
    | none =>
      obtain ⟨hread, -⟩ := encode_eq_none_iff.1 hresult
      rw [hset] at hread
      cases hread
    | some argument =>
      have hread := (hargument argument).1 hresult
      cases argument with
      | account a =>
        obtain ⟨⟨⟩, -⟩ := argumentOf_eq_account_iff.1 hread
      | number n => exact absurd (argumentOf_integer_eq_number_iff.1 hread) (hnone n)

/-- Nine hundred seconds in exponent form, a negative zero, a number of seconds that would be above
the threshold of amounts, and a fraction. -/
theorem encode_seconds :
    (⟨.maxQueueSeconds, true⟩ : Operation).encode (some " 9_0000e-2") = .ok (some (.number 900)) ∧
      (⟨.maxQueueSeconds, true⟩ : Operation).encode (some "-0.00") = .ok (some (.number 0)) ∧
      (⟨.maxQueueSeconds, true⟩ : Operation).encode (some "2E+10") =
        .ok (some (.number 20000000000)) ∧
      ∃ fault, (⟨.maxQueueSeconds, true⟩ : Operation).encode (some "9e-1") = .error fault ∧
        fault.kind = .value := by
  have hcount := encode_integer_iff_denotes ⟨.maxQueueSeconds, true⟩ rfl rfl
  have hpower : Decimal.Denotes " 9_0000e-2".toList (900 : ℕ) :=
    Decimal.denotes_iff.2
      ⟨⟨false, 90000, -2⟩, by decide, by norm_num [Decimal.value, Decimal.magnitude]⟩
  have hzero : Decimal.Denotes "-0.00".toList (0 : ℕ) :=
    Decimal.denotes_iff.2 ⟨⟨true, 0, -2⟩, by decide, by norm_num [Decimal.value, Decimal.magnitude]⟩
  have hlarge : Decimal.Denotes "2E+10".toList (20000000000 : ℕ) :=
    Decimal.denotes_iff.2 ⟨⟨false, 2, 10⟩, by decide, by norm_num [Decimal.value, Decimal.magnitude]⟩
  refine ⟨((hcount _).1 _).2 hpower, ((hcount _).1 _).2 hzero, ((hcount _).1 _).2 hlarge,
    (hcount _).2 fun n hn => ?_⟩
  have hread : Decimal.read? "9e-1".toList = some (.number ⟨false, 9, -1⟩) := by decide
  obtain ⟨d, hd, hvalue⟩ := Decimal.denotes_iff.1 hn
  rw [hread] at hd
  cases hd
  have hnine : (10 * n : ℚ) = 9 := by
    rw [← hvalue]
    norm_num [Decimal.value, Decimal.magnitude]
  have hnine' : 10 * n = 9 := by exact_mod_cast hnine
  omega

end Operation
end ChainAtlas
