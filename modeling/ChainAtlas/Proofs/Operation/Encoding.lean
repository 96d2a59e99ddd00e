import ChainAtlas.Operation
import ChainAtlas.Proofs.Decimal.Value
import ChainAtlas.Proofs.Outcome
import Mathlib.Data.Option.Basic

/-!
# What encoding a value comes to

A value goes through the same gates whatever it is for.  A read takes none and a write needs one
that is not empty; what is left is a text for a parameter that can be written, and the kind of the
parameter decides how the text is read (`encode_cases`).  A text for an address is the address
itself.  A text for a number has to spell one that is not below zero (`amountOf_eq_ok_iff`), and this
number is then scaled or not, and has to be whole in the end.

The faults come out of the same account: a text for an address may be a malformed one, and every
other fault is one of the value (`kind_of_encode`).
-/

namespace ChainAtlas
namespace Operation

open Numeral Outcome

variable {op : Operation} {value : Option String} {method raw : String} {d : Decimal} {n : ℕ}
  {fault : Fault} {kind : ValueKind} {argument : Argument}

/-! ## Gates -/

/-- A text for a parameter that is written is read as the kind of the parameter says. -/
theorem encode_of_text (hset : op.isSetter = true) (hraw : raw ≠ "") :
    op.encode (some raw) = (argumentOf op.method raw op.parameter.kind).map some := by
  have hfilter : (some raw).filter (fun raw => decide (raw ≠ "")) = some raw :=
    Option.filter_some_pos (decide_eq_true hraw)
  rw [encode, if_pos hset, hfilter]

/-- **What encoding does.**  A read without a value has no argument.  A read with a value and a write
without one are refused.  A write with a text goes on with the text. -/
theorem encode_cases (op : Operation) (value : Option String) :
    (op.isSetter = false ∧ value = none ∧ op.encode value = .ok none) ∨
    (∃ fault, fault.kind = .value ∧ op.encode value = .error fault ∧
      (op.isSetter = false → value ≠ none)) ∨
    ∃ raw, op.isSetter = true ∧ value = some raw ∧
      op.encode value = (argumentOf op.method raw op.parameter.kind).map some := by
  cases hset : op.isSetter with
  | false =>
    cases value with
    | none => exact Or.inl ⟨rfl, rfl, by rw [encode, hset]; rfl⟩
    | some raw =>
      exact Or.inr (Or.inl ⟨.needlessValue op.method, rfl, by rw [encode, hset]; rfl, nofun⟩)
  | true =>
    have hmissing : value.filter (fun raw => raw ≠ "") = none →
        op.encode value = .error (.missingValue op.method) := by
      intro hnone
      unfold encode
      rw [if_pos hset, hnone]
    cases value with
    | none => exact Or.inr (Or.inl ⟨_, rfl, hmissing rfl, nofun⟩)
    | some raw =>
      by_cases hraw : raw = ""
      · exact Or.inr (Or.inl ⟨_, rfl, hmissing (by simp [hraw]), nofun⟩)
      · exact Or.inr (Or.inr ⟨raw, rfl, rfl, encode_of_text hset hraw⟩)

/-! ## Numbers -/

/-- A text is an amount when it spells a number that is not below zero. -/
theorem amountOf_eq_ok_iff : amountOf method raw = .ok d ↔
    Decimal.read? raw.toList = some (.number d) ∧ 0 ≤ d.value := by
  rw [amountOf]
  split
  · next hread => simp [hread]
  · next found hread =>
    rw [hread]
    cases hbelow : found.isBelowZero with
    | true =>
      have hnegative := Decimal.isBelowZero_iff.1 hbelow
      simp only [if_true, reduceCtorEq, Option.some.injEq, Decimal.Reading.number.injEq, false_iff]
      rintro ⟨rfl, hvalue⟩
      exact not_lt.2 hvalue hnegative
    | false =>
      have hvalue : 0 ≤ found.value := by
        rw [← not_lt, ← Decimal.isBelowZero_iff, hbelow]
        exact Bool.false_ne_true
      simp only [Bool.false_eq_true, if_false, Except.ok.injEq, Option.some.injEq,
        Decimal.Reading.number.injEq]
      exact ⟨fun h => ⟨h, h ▸ hvalue⟩, fun h => h.1⟩
  · next reading hword hread =>
    rw [hread]
    simp only [reduceCtorEq, Option.some.injEq, false_iff]
    rintro ⟨rfl, -⟩
    exact hword d rfl

/-- Nothing is spelled by the empty text. -/
theorem ne_empty_of_amountOf (h : amountOf method raw = .ok d) : raw ≠ "" := by
  rintro rfl
  have hempty : Decimal.read? "".toList = none := by decide
  rw [amountOf, hempty] at h
  cases h

/-- A number that has to be whole is accepted exactly as the whole number that it is, whatever is
said of the others. -/
theorem toNat_or_error_eq_ok_iff (d : Decimal) (fault : Fault) (n : ℕ) :
    (if d.isWhole then .ok d.toNat else .error fault : Except Fault ℕ) = .ok n ↔
      (n : ℚ) = d.magnitude := by
  rw [← Decimal.isWhole_and_toNat_eq_iff]
  cases d.isWhole <;> simp

theorem wholeNumber_eq_ok_iff (hvalue : 0 ≤ d.value) :
    wholeNumber method raw d = .ok n ↔ (n : ℚ) = d.value := by
  rw [wholeNumber, toNat_or_error_eq_ok_iff, Decimal.value_eq_magnitude hvalue]

/-! ## Arguments -/

/-- An address is had from its own text, and for a parameter that holds an address. -/
theorem argumentOf_eq_account_iff {a : Address} :
    argumentOf method raw kind = .ok (.account a) ↔ kind = .address ∧ a.text = raw := by
  cases kind with
  | address =>
    rw [argumentOf, map_eq_ok_iff]
    simp only [mapError_eq_ok_iff, Address.ofText_eq_ok_iff, Argument.account.injEq, true_and,
      exists_eq_right]
  | integer =>
    simp only [argumentOf, bind_eq_ok_iff, reduceCtorEq, false_and, iff_false]
    rintro ⟨d, -, n, -, ⟨⟩⟩
  | tokenAmount =>
    simp only [argumentOf, bind_eq_ok_iff, reduceCtorEq, false_and, iff_false]
    rintro ⟨d, -, n, -, ⟨⟩⟩

/-- **A number is had from a text that spells one**, and for a parameter that holds a number. -/
theorem argumentOf_eq_number (h : argumentOf method raw kind = .ok (.number n)) :
    (kind = .integer ∨ kind = .tokenAmount) ∧ ∃ d, amountOf method raw = .ok d := by
  cases kind with
  | address =>
    obtain ⟨a, -, ⟨⟩⟩ := map_eq_ok_iff.1 h
  | integer =>
    obtain ⟨d, hd, -⟩ := bind_eq_ok_iff.1 h
    exact ⟨Or.inl rfl, d, hd⟩
  | tokenAmount =>
    obtain ⟨d, hd, -⟩ := bind_eq_ok_iff.1 h
    exact ⟨Or.inr rfl, d, hd⟩

theorem argumentOf_integer_eq_ok_iff : argumentOf method raw .integer = .ok argument ↔
    ∃ d, amountOf method raw = .ok d ∧
      ∃ n, wholeNumber method raw d = .ok n ∧ .number n = argument := by
  simp only [argumentOf, bind_eq_ok_iff, pure, Except.pure, Except.ok.injEq]

/-- No argument is had from the empty text. -/
theorem ne_empty_of_argumentOf (h : argumentOf method raw kind = .ok argument) : raw ≠ "" := by
  cases argument with
  | account a =>
    obtain ⟨-, rfl⟩ := argumentOf_eq_account_iff.1 h
    intro hempty
    have hlength := Address.length_of_isWellFormed a.wellFormed
    rw [hempty] at hlength
    exact absurd hlength (by decide)
  | number n =>
    obtain ⟨-, d, hd⟩ := argumentOf_eq_number h
    exact ne_empty_of_amountOf hd

theorem encode_eq_none_iff : op.encode value = .ok none ↔ op.isSetter = false ∧ value = none := by
  rcases encode_cases op value with ⟨hread, hvalue, hnone⟩ | ⟨fault, -, hrefused, hgate⟩ |
    ⟨raw, hset, -, htext⟩
  · exact iff_of_true hnone ⟨hread, hvalue⟩
  · refine iff_of_false (by rw [hrefused]; nofun) ?_
    rintro ⟨hread, rfl⟩
    exact hgate hread rfl
  · refine iff_of_false (fun h => ?_) (by rw [hset]; nofun)
    rw [htext] at h
    obtain ⟨argument, -, ⟨⟩⟩ := map_eq_ok_iff.1 h

/-- **An argument is what the text of a write is read as.** -/
theorem encode_eq_some_iff : op.encode value = .ok (some argument) ↔
    op.isSetter = true ∧ ∃ raw, value = some raw ∧
      argumentOf op.method raw op.parameter.kind = .ok argument := by
  constructor
  · intro h
    rcases encode_cases op value with ⟨-, -, hnone⟩ | ⟨fault, -, hrefused, -⟩ |
      ⟨raw, hset, hvalue, htext⟩
    · rw [hnone] at h
      cases h
    · rw [hrefused] at h
      cases h
    · rw [htext] at h
      obtain ⟨found, hfound, ⟨⟩⟩ := map_eq_ok_iff.1 h
      exact ⟨hset, raw, hvalue, hfound⟩
  · rintro ⟨hset, raw, rfl, hargument⟩
    rw [encode_of_text hset (ne_empty_of_argumentOf hargument), hargument]
    rfl

/-! ## Faults -/

/-- A text that is no amount is refused as a value. -/
theorem kind_of_amountOf (h : amountOf method raw = .error fault) : fault.kind = .value := by
  rw [amountOf] at h
  split at h
  · cases h
    rfl
  · split at h <;> cases h
    rfl
  · cases h
    rfl

theorem kind_of_wholeNumber (h : wholeNumber method raw d = .error fault) : fault.kind = .value := by
  rw [wholeNumber] at h
  split at h <;> cases h
  rfl

/-- An amount that is not encoded is refused as a value. -/
theorem kind_of_tokenNumber_eq_error (h : tokenNumber method raw d = .error fault) :
    fault.kind = .value := by
  rw [tokenNumber] at h
  split at h
  · dsimp only at h
    split at h <;> cases h
    rfl
  · exact kind_of_wholeNumber h

/-- A text is refused as an address for a parameter that holds one, and as a value for any other. -/
theorem kind_of_argumentOf (h : argumentOf method raw kind = .error fault) :
    fault.kind = .malformedAddress ∧ kind = .address ∨ fault.kind = .value := by
  have hnumber : ∀ {read : Decimal → Except Fault ℕ}, (∀ d, FaultsIn (·.kind = .value) (read d)) →
      FaultsIn (·.kind = .value)
        (amountOf method raw >>= fun d => read d >>= fun n => pure (Argument.number n)) :=
    fun hread => .bind (fun _ => kind_of_amountOf) fun d => .bind (hread d) fun n => .ok _
  cases kind with
  | address =>
    obtain ⟨bad, -, rfl⟩ := mapError_eq_error_iff.1 (map_eq_error_iff.1 h)
    exact Or.inl ⟨rfl, rfl⟩
  | integer => exact Or.inr (hnumber (fun _ _ => kind_of_wholeNumber) fault h)
  | tokenAmount => exact Or.inr (hnumber (fun _ _ => kind_of_tokenNumber_eq_error) fault h)

/-- **Encoding is refused for a malformed address or for a value.** -/
theorem kind_of_encode (h : op.encode value = .error fault) :
    fault.kind = .malformedAddress ∧ op.isSetter = true ∧ op.parameter.kind = .address ∨
      fault.kind = .value := by
  rcases encode_cases op value with ⟨-, -, hread⟩ | ⟨found, hkind, hrefused, -⟩ |
    ⟨raw, hset, -, htext⟩
  · rw [hread] at h
    cases h
  · rw [hrefused] at h
    cases h
    exact Or.inr hkind
  · rw [htext, map_eq_error_iff] at h
    exact (kind_of_argumentOf h).imp_left fun ⟨hkind, haddress⟩ => ⟨hkind, hset, haddress⟩

end Operation
end ChainAtlas
