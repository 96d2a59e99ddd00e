import ChainAtlas.Proofs.Decimal.Scaling
import ChainAtlas.Proofs.Decimal.Spelling
import ChainAtlas.Proofs.Operation.Encoding

/-!
# Amounts of tokens are encoded exactly, down to the end of the exponents

An amount of tokens below ten thousand million is typed as a number of tokens and sent as a number
of smallest units, of which one token has `10 ^ 18`.  Encoding is meant never to round: an amount
that is no whole number of units has to be refused.

That holds for every amount but a few.  The scaled number is made at the precision of its own
digits, so no digit is ever lost at the front; but its exponent is bounded, and where the scaled
number is at most half of the smallest unit that the bound leaves, it becomes zero --- and zero is
a whole number.  `encode_exact_unless_lost` says that these numbers, and no others, are encoded as
something that they are not.

The two steps below it are `tokenNumber_eq_ok_iff` for the scaling and `encode_tokenAmount` for the
way from a typed text to it.

An amount that is a whole number of units is none of the lost ones, and how it is spelled makes no
difference: `encode_of_denotes` says that every spelling of it is encoded, and as the same number.
-/

namespace ChainAtlas
namespace Operation

open Numeral

/-- The number of smallest units that an amount is worth: a small amount counts tokens, a large one
counts units already. -/
def unitsOf (amount : ℚ) : ℚ := if amount < 10 ^ 10 then amount * 10 ^ 18 else amount

variable {method raw : String} {d : Decimal}

/-- The one threshold of amounts, as a comparison of numbers. -/
theorem isBelowPow_scaledFrom_iff (h : 0 ≤ d.value) :
    d.isBelowPow scaledFrom = true ↔ d.value < 10 ^ 10 := by
  rw [Decimal.isBelowPow_iff, Decimal.value_eq_magnitude h]
  exact Iff.rfl

/-- A lost amount is a small one, and no whole number of units. -/
theorem lost_amount (hvalue : 0 ≤ d.value) (h : d.IsLostByScaling tokenPlaces) :
    d.value < 10 ^ 10 ∧ ∀ n : ℕ, (n : ℚ) ≠ unitsOf d.value := by
  have hunits : d.value * 10 ^ 18 < 1 := by
    rw [Decimal.value_eq_magnitude hvalue]
    exact Decimal.magnitude_mul_pow_lt_one (Decimal.lt_of_isLostByScaling h)
  have hpos : 0 < d.value * 10 ^ 18 := by
    rw [Decimal.value_eq_magnitude hvalue]
    exact mul_pos h.1 (by positivity)
  have hsmall : d.value < 10 ^ 10 := by linarith
  refine ⟨hsmall, fun n hn => ?_⟩
  rw [unitsOf, if_pos hsmall] at hn
  rw [← hn] at hunits hpos
  have hzero : n < 1 := by exact_mod_cast hunits
  have hone : 0 < n := by exact_mod_cast hpos
  omega

/-- What a typed amount is encoded as. -/
theorem tokenNumber_eq_ok_iff (hvalue : 0 ≤ d.value) (n : ℕ) :
    tokenNumber method raw d = .ok n ↔
      d.IsLostByScaling tokenPlaces ∧ n = 0 ∨
        ¬ d.IsLostByScaling tokenPlaces ∧ (n : ℚ) = unitsOf d.value := by
  rw [tokenNumber, unitsOf]
  by_cases hsmall : d.value < 10 ^ 10
  · rw [if_pos ((isBelowPow_scaledFrom_iff hvalue).2 hsmall), if_pos hsmall,
      Decimal.value_eq_magnitude hvalue]
    exact (toNat_or_error_eq_ok_iff _ _ n).trans (Decimal.natCast_eq_magnitude_scale_iff n)
  · have hkept : ¬ d.IsLostByScaling tokenPlaces := fun h => hsmall (lost_amount hvalue h).1
    rw [if_neg (mt (isBelowPow_scaledFrom_iff hvalue).1 hsmall), if_neg hsmall,
      wholeNumber_eq_ok_iff hvalue]
    simp [hkept]

/-- Encoding a text that spells an amount is encoding the amount. -/
theorem encode_tokenAmount {op : Operation} (hset : op.isSetter = true)
    (hkind : op.parameter.kind = .tokenAmount)
    (hread : Decimal.read? raw.toList = some (.number d)) (hvalue : 0 ≤ d.value) :
    op.encode (some raw) =
      (tokenNumber op.method raw d).map fun n => some (Argument.number n) := by
  have hamount : amountOf op.method raw = .ok d := amountOf_eq_ok_iff.2 ⟨hread, hvalue⟩
  rw [encode_of_text hset (ne_empty_of_amountOf hamount), hkind]
  simp only [argumentOf, hamount, bind, Except.bind]
  cases tokenNumber op.method raw d <;> rfl

/-- **Amounts of tokens are encoded exactly unless they are lost.**  A lost amount is encoded as
zero, although it is no whole number of units; every other amount is encoded as the number of units
that it is worth, and refused as a value if that is no whole number. -/
theorem encode_exact_unless_lost (op : Operation) (raw : String) (d : Decimal)
    (hset : op.isSetter = true) (hkind : op.parameter.kind = .tokenAmount)
    (hread : Decimal.read? raw.toList = some (.number d)) (hvalue : 0 ≤ d.value) :
    (∀ n : ℕ, op.encode (some raw) = .ok (some (.number n)) ↔
      d.IsLostByScaling 18 ∧ n = 0 ∨
        ¬ d.IsLostByScaling 18 ∧ (n : ℚ) = unitsOf d.value) ∧
    (d.IsLostByScaling 18 → d.value < 10 ^ 10 ∧ ∀ n : ℕ, (n : ℚ) ≠ unitsOf d.value) ∧
    (¬ d.IsLostByScaling 18 → (∀ n : ℕ, (n : ℚ) ≠ unitsOf d.value) →
      ∃ fault, op.encode (some raw) = .error fault ∧ fault.kind = .value) := by
  have hencode := encode_tokenAmount hset hkind hread hvalue
  have hok : ∀ n : ℕ, op.encode (some raw) = .ok (some (.number n)) ↔
      tokenNumber op.method raw d = .ok n := by
    intro n
    rw [hencode]
    cases tokenNumber op.method raw d <;> simp [Except.map]
  refine ⟨fun n => (hok n).trans (tokenNumber_eq_ok_iff hvalue n), lost_amount hvalue,
    fun hkept hfraction => ?_⟩
  cases hnumber : tokenNumber op.method raw d with
  | ok n =>
    rcases (tokenNumber_eq_ok_iff hvalue n).1 hnumber with hlost | hexact
    · exact absurd hlost.1 hkept
    · exact absurd hexact.2 (hfraction n)
  | error fault =>
    rw [hnumber] at hencode
    exact ⟨fault, hencode, kind_of_tokenNumber_eq_error hnumber⟩

/-- A tenth of a token in a spelling with a zero too many. -/
theorem encode_tenth_of_token :
    (⟨.slashingFraction, true⟩ : Operation).encode (some "0.10") =
      .ok (some (.number (10 ^ 17))) := by
  have hvalue : Decimal.value ⟨false, 10, -2⟩ = 1 / 10 := by
    norm_num [Decimal.value, Decimal.magnitude]
  have hkept : ¬ Decimal.IsLostByScaling ⟨false, 10, -2⟩ 18 := fun h =>
    absurd (Decimal.lt_of_isLostByScaling h) (by decide)
  have h := encode_exact_unless_lost ⟨.slashingFraction, true⟩ "0.10" ⟨false, 10, -2⟩ rfl rfl
    (by decide) (by rw [hvalue]; norm_num)
  exact (h.1 _).2 (Or.inr ⟨hkept, by rw [hvalue]; norm_num [unitsOf]⟩)

/-- One unit of the place `10 ^ (-1000018)` is encoded as nothing at all, so encoding rounds. -/
theorem encode_rounds :
    ¬ ∀ (op : Operation) (raw : String) (d : Decimal) (n : ℕ), op.isSetter = true →
      op.parameter.kind = .tokenAmount → Decimal.read? raw.toList = some (.number d) →
      0 ≤ d.value → op.encode (some raw) = .ok (some (.number n)) →
      (n : ℚ) = unitsOf d.value := by
  intro h
  have hpos : 0 < Decimal.value ⟨false, 1, -1000018⟩ :=
    Decimal.magnitude_pos_iff.2 (by decide)
  have hlost : Decimal.IsLostByScaling ⟨false, 1, -1000018⟩ 18 :=
    (Decimal.isLostByScaling_iff_of_lt (by decide)).2 (by decide)
  have hzero := h ⟨.slashingFraction, true⟩ "1e-1000018" ⟨false, 1, -1000018⟩ 0 rfl rfl
    (by decide) hpos.le rfl
  exact (lost_amount hpos.le hlost).2 0 hzero

/-! ## Spellings of one amount -/

/-- A whole number of units is not lost, so it is encoded as what it is. -/
theorem tokenNumber_of_eq_unitsOf (hvalue : 0 ≤ d.value) {n : ℕ} (h : (n : ℚ) = unitsOf d.value) :
    tokenNumber method raw d = .ok n := by
  have hkept : ¬ d.IsLostByScaling tokenPlaces := fun hlost => (lost_amount hvalue hlost).2 n h
  exact (tokenNumber_eq_ok_iff hvalue n).2 (Or.inr ⟨hkept, h⟩)

/-- An amount that is large enough to count units and no whole number of them is refused. -/
theorem tokenNumber_of_fraction (hlarge : 10 ^ 10 ≤ d.value) (h : ∀ n : ℕ, (n : ℚ) ≠ d.value) :
    ∃ fault, tokenNumber method raw d = .error fault ∧ fault.kind = .value := by
  have hvalue : 0 ≤ d.value := le_trans (by norm_num) hlarge
  cases hnumber : tokenNumber method raw d with
  | error fault => exact ⟨fault, rfl, kind_of_tokenNumber_eq_error hnumber⟩
  | ok n =>
    rcases (tokenNumber_eq_ok_iff hvalue n).1 hnumber with ⟨hlost, -⟩ | ⟨-, hunits⟩
    · exact absurd (lost_amount hvalue hlost).1 (not_lt.2 hlarge)
    · rw [unitsOf, if_neg (not_lt.2 hlarge)] at hunits
      exact absurd hunits (h n)

/-- **No amount that can be sent is refused, however it is spelled.**  An amount that is a whole
number of units is encoded as this number whatever text denotes it, so any two of its spellings are
encoded alike; and no spelling of a large amount with a fraction of a unit is encoded. -/
theorem encode_of_denotes (op : Operation) (hset : op.isSetter = true)
    (hkind : op.parameter.kind = .tokenAmount) (amount : ℚ) (hamount : 0 ≤ amount) :
    (∀ n : ℕ, (n : ℚ) = unitsOf amount → ∀ raw : String, Decimal.Denotes raw.toList amount →
      op.encode (some raw) = .ok (some (.number n))) ∧
    (10 ^ 10 ≤ amount → (∀ n : ℕ, (n : ℚ) ≠ amount) →
      ∀ raw : String, Decimal.Denotes raw.toList amount →
        ∃ fault, op.encode (some raw) = .error fault ∧ fault.kind = .value) ∧
    ((∃ n : ℕ, (n : ℚ) = unitsOf amount) → ∀ raw raw' : String,
      Decimal.Denotes raw.toList amount → Decimal.Denotes raw'.toList amount →
        op.encode (some raw) = op.encode (some raw')) := by
  have hexact : ∀ n : ℕ, (n : ℚ) = unitsOf amount → ∀ raw : String,
      Decimal.Denotes raw.toList amount →
        op.encode (some raw) = .ok (some (.number n)) := by
    intro n hn raw hraw
    obtain ⟨d, hread, rfl⟩ := Decimal.denotes_iff.1 hraw
    rw [encode_tokenAmount hset hkind hread hamount, tokenNumber_of_eq_unitsOf hamount hn]
    rfl
  refine ⟨hexact, ?_, ?_⟩
  · intro hlarge hfraction raw hraw
    obtain ⟨d, hread, rfl⟩ := Decimal.denotes_iff.1 hraw
    obtain ⟨fault, hfault, hvalue⟩ : ∃ fault, tokenNumber op.method raw d = .error fault ∧
        fault.kind = .value := tokenNumber_of_fraction hlarge hfraction
    rw [encode_tokenAmount hset hkind hread hamount, hfault]
    exact ⟨fault, rfl, hvalue⟩
  · rintro ⟨n, hn⟩ raw raw' hraw hraw'
    rw [hexact n hn raw hraw, hexact n hn raw' hraw']

/-- One half of a token in plain and in exponent form, and a large amount with a fraction. -/
theorem encode_half_of_token :
    (⟨.slashingFraction, true⟩ : Operation).encode (some "+0_0.50") =
        .ok (some (.number (5 * 10 ^ 17))) ∧
      (⟨.slashingFraction, true⟩ : Operation).encode (some "+0_0.50") =
        (⟨.slashingFraction, true⟩ : Operation).encode (some " 5E-1") ∧
      ∃ fault, (⟨.slashingFraction, true⟩ : Operation).encode (some "10000000000.5") =
        .error fault ∧ fault.kind = .value := by
  have hhalf := encode_of_denotes ⟨.slashingFraction, true⟩ rfl rfl (1 / 2) (by norm_num)
  have hlarge := encode_of_denotes ⟨.slashingFraction, true⟩ rfl rfl (20000000001 / 2) (by norm_num)
  have hunits : ((5 * 10 ^ 17 : ℕ) : ℚ) = unitsOf (1 / 2) := by norm_num [unitsOf]
  have hplain : Decimal.Denotes "+0_0.50".toList (1 / 2) :=
    Decimal.denotes_iff.2
      ⟨⟨false, 50, -2⟩, by decide, by norm_num [Decimal.value, Decimal.magnitude]⟩
  have hpower : Decimal.Denotes " 5E-1".toList (1 / 2) :=
    Decimal.denotes_iff.2
      ⟨⟨false, 5, -1⟩, by decide, by norm_num [Decimal.value, Decimal.magnitude]⟩
  have hfraction : Decimal.Denotes "10000000000.5".toList (20000000001 / 2) :=
    Decimal.denotes_iff.2
      ⟨⟨false, 100000000005, -1⟩, by decide, by norm_num [Decimal.value, Decimal.magnitude]⟩
  refine ⟨hhalf.1 _ hunits _ hplain, hhalf.2.2 ⟨_, hunits⟩ _ _ hplain hpower,
    hlarge.2.1 (by norm_num) (fun n hn => ?_) _ hfraction⟩
  have hodd : 2 * n = 20000000001 := by
    have h : (2 * n : ℚ) = 20000000001 := by rw [hn]; norm_num
    exact_mod_cast h
  omega

end Operation
end ChainAtlas
