import ChainAtlas.Proofs.Decimal.Signals
import ChainAtlas.Proofs.Decimal.Spelling
import ChainAtlas.Proofs.Operation.Encoding
import ChainAtlas.Proofs.Operation.Method

/-!
# What a call can come to

A call names a method and may give a value, and both may be any text.  It comes to no argument, to an
address, to a number, or to a fault, and which of these is possible is decided by the method: reads
have no argument, and a write has one of the sort that its parameter holds (`call_well_typed`).

That nothing else can happen is also a statement about the arithmetic in between.  Encoding a number
compares it, scales it, rounds it and cuts it off, and operations on numbers can be stopped by what a
text spells.  `callInSteps` is the same call made of operations that can be stopped, in the order in
which they are due, with one handler around the reading of the text.  It comes to the same as the call
(`callInSteps_eq`), so no signal ever gets out.  Two guards see to that: what is no finite number goes
no further than `isFinite`, and what is scaled is below `10 ^ 10`.
-/

namespace ChainAtlas
namespace Operation

open Numeral Outcome
open Numeral.Decimal (Reading Signal)

variable {op : Operation} {value : Option String} {method raw : String} {d : Decimal} {n : ℕ}
  {fault : Fault} {argument : Argument} {address : Address}

/-- What a method is called with: the operation of the method encodes the value. -/
def call (method : String) (value : Option String) : Except Fault (Option Argument) := do
  (← ofMethod method).encode value

/-! ## One step after another -/

/-- Why a call made in steps has no result. -/
inductive Stop where
  /-- An operation on numbers was stopped, and nothing handled that. -/
  | signal (signal : Signal)
  | fault (cause : Fault)

/-- The number that a text spells.  A text that spells nothing is a fault, and what is no finite
number is not compared. -/
def amountInSteps (method raw : String) : Except Stop Reading :=
  match Reading.ofText raw.toList with
  | .error _ => .error (.fault (.notNumeric method raw))
  | .ok amount =>
    if amount.isFinite then do
      if ← (amount.isLess 0).mapError .signal then .error (.fault (.notPositive method raw))
      else return amount
    else .error (.fault (.notPositive method raw))

/-- A number that has to be whole. -/
def wholeInSteps (method raw : String) (amount : Reading) : Except Stop ℕ := do
  if ← amount.isFraction.mapError .signal then .error (.fault (.notWhole method raw))
  else amount.toNat.mapError .signal

/-- An amount of tokens.  A scaled number is asked twice whether it is whole. -/
def tokensInSteps (method raw : String) (amount : Reading) : Except Stop ℕ := do
  if ← (amount.isLess (10 ^ 10)).mapError .signal then
    let scaled ← (amount.scale tokenPlaces).mapError .signal
    if ← scaled.isFraction.mapError .signal then
      .error (.fault (.tooManyPlaces method raw tokenPlaces))
    else wholeInSteps method raw scaled
  else wholeInSteps method raw amount

/-- The argument that a text spells for a parameter of some kind. -/
def argumentInSteps (method raw : String) : ValueKind → Except Stop Argument
  | .address => ((Address.ofText raw).mapError fun bad => .fault (.badAddress bad)).map .account
  | .integer => do return .number (← wholeInSteps method raw (← amountInSteps method raw))
  | .tokenAmount => do return .number (← tokensInSteps method raw (← amountInSteps method raw))

/-- The argument of an operation. -/
def encodeInSteps (op : Operation) (value : Option String) : Except Stop (Option Argument) :=
  if op.isSetter then
    match value.filter fun raw => raw ≠ "" with
    | none => .error (.fault (.missingValue op.method))
    | some raw => (argumentInSteps op.method raw op.parameter.kind).map some
  else match value with
    | none => .ok none
    | some _ => .error (.fault (.needlessValue op.method))

/-- A call, made of operations that can be stopped. -/
def callInSteps (method : String) (value : Option String) : Except Stop (Option Argument) := do
  (← (ofMethod method).mapError .fault).encodeInSteps value

/-- Only a finite number is ever compared. -/
theorem amountInSteps_eq :
    amountInSteps method raw = ((amountOf method raw).map Reading.number).mapError .fault := by
  rw [amountInSteps, amountOf, Reading.ofText]
  cases hread : Decimal.read? raw.toList with
  | none => rfl
  | some reading =>
    cases reading with
    | infinity => rfl
    | notANumber => rfl
    | number d =>
      have hless : decide (d.value < 0) = d.isBelowZero := by
        rw [Bool.eq_iff_iff, decide_eq_true_eq, Decimal.isBelowZero_iff]
      dsimp only
      rw [Reading.isFinite, Reading.isLess_number, hless]
      cases d.isBelowZero <;> rfl

theorem wholeInSteps_number :
    wholeInSteps method raw (.number d) = (wholeNumber method raw d).mapError .fault := by
  rw [wholeInSteps, wholeNumber, Reading.isFraction_number, Reading.toNat_number]
  cases d.isWhole <;> rfl

/-- What is below `10 ^ 10` can be scaled. -/
theorem scale_of_isBelowPow (hbelow : d.isBelowPow scaledFrom = true) :
    (Reading.number d).scale tokenPlaces = .ok (.number (d.scale tokenPlaces)) := by
  refine Decimal.Reading.scale_number (by decide) fun hne => ?_
  rw [Decimal.isBelowPow, Bool.or_eq_true, beq_iff_eq, decide_eq_true_eq] at hbelow
  have hfirst := hbelow.resolve_left hne
  simp only [scaledFrom, tokenPlaces, Decimal.greatestScaledExponent] at hfirst ⊢
  omega

/-- Only a number below `10 ^ 10` is ever scaled. -/
theorem tokensInSteps_number (hvalue : 0 ≤ d.value) :
    tokensInSteps method raw (.number d) = (tokenNumber method raw d).mapError .fault := by
  have hless : decide (d.value < 10 ^ 10) = d.isBelowPow scaledFrom := by
    rw [Bool.eq_iff_iff, decide_eq_true_eq, Decimal.isBelowPow_iff, Decimal.value_eq_magnitude hvalue]
    exact Iff.rfl
  rw [tokensInSteps, tokenNumber, Reading.isLess_number, hless]
  cases hbelow : d.isBelowPow scaledFrom with
  | true =>
    rw [scale_of_isBelowPow hbelow]
    show (if (!(d.scale tokenPlaces).isWhole) = true then _ else
      wholeInSteps method raw (.number (d.scale tokenPlaces))) = _
    rw [wholeInSteps_number, wholeNumber]
    dsimp only
    cases (d.scale tokenPlaces).isWhole <;> rfl
  | false => exact wholeInSteps_number

theorem argumentInSteps_eq (kind : ValueKind) :
    argumentInSteps method raw kind = (argumentOf method raw kind).mapError .fault := by
  -- both kinds of numbers go on from an amount, in one way or another
  have hnumber : ∀ {inSteps : Reading → Except Stop ℕ} {read : Decimal → Except Fault ℕ},
      (∀ d, amountOf method raw = .ok d → inSteps (.number d) = (read d).mapError .fault) →
        (amountInSteps method raw >>= fun amount => inSteps amount >>= fun n =>
            pure (Argument.number n)) =
          (amountOf method raw >>= fun d => read d >>= fun n =>
            pure (Argument.number n)).mapError .fault := by
    intro inSteps read hsame
    rw [amountInSteps_eq]
    cases hamount : amountOf method raw with
    | error fault => rfl
    | ok d =>
      show (inSteps (.number d) >>= _) = (read d >>= _).mapError _
      rw [hsame d hamount]
      exact mapError_bind_pure _ _
  cases kind with
  | address =>
    rw [argumentInSteps, argumentOf]
    cases Address.ofText raw <;> rfl
  | integer => exact hnumber fun d _ => wholeInSteps_number
  | tokenAmount => exact hnumber fun d hd => tokensInSteps_number (amountOf_eq_ok_iff.1 hd).2

theorem encodeInSteps_eq (op : Operation) (value : Option String) :
    op.encodeInSteps value = (op.encode value).mapError .fault := by
  unfold encodeInSteps encode
  split
  · cases value.filter fun raw => raw ≠ "" with
    | none => rfl
    | some raw =>
      dsimp only
      rw [argumentInSteps_eq]
      cases argumentOf op.method raw op.parameter.kind <;> rfl
  · cases value <;> rfl

/-- **No signal gets out of a call.** -/
theorem callInSteps_eq (method : String) (value : Option String) :
    callInSteps method value = (call method value).mapError .fault := by
  rw [callInSteps, call]
  cases ofMethod method with
  | error fault => rfl
  | ok op => exact encodeInSteps_eq op value

/-! ## What a call can come to -/

/-- Parameters that hold addresses can all be written. -/
theorem settable_of_kind_eq_address {p : Parameter} (h : p.kind = .address) : p.settable = true := by
  revert h
  cases p <;> decide

/-- A call has an argument when its method is offered and the argument is that of its operation. -/
theorem call_eq_ok_iff {encoded : Option Argument} : call method value = .ok encoded ↔
    ∃ op : Operation, (op.method = method ∧ op.IsOffered) ∧ op.encode value = .ok encoded := by
  simp only [call, bind_eq_ok_iff, ofMethod_eq_ok_iff]

theorem call_eq_none_iff :
    call method value = .ok none ↔ value = none ∧ ∃ p : Parameter, p.getter = method := by
  simp only [call_eq_ok_iff, encode_eq_none_iff]
  constructor
  · rintro ⟨⟨p, _⟩, ⟨rfl, -⟩, rfl, rfl⟩
    exact ⟨rfl, p, rfl⟩
  · rintro ⟨rfl, p, rfl⟩
    exact ⟨⟨p, false⟩, ⟨rfl, Or.inl rfl⟩, rfl, rfl⟩

theorem call_eq_account_iff : call method value = .ok (some (.account address)) ↔
    value = some address.text ∧ ∃ p : Parameter, p.setter = method ∧ p.kind = .address := by
  simp only [call_eq_ok_iff, encode_eq_some_iff, argumentOf_eq_account_iff]
  constructor
  · rintro ⟨⟨p, _⟩, ⟨rfl, -⟩, rfl, raw, rfl, hkind, rfl⟩
    exact ⟨rfl, p, rfl, hkind⟩
  · rintro ⟨rfl, p, rfl, hkind⟩
    have hoffered : IsOffered ⟨p, true⟩ := Or.inr (settable_of_kind_eq_address hkind)
    exact ⟨⟨p, true⟩, ⟨rfl, hoffered⟩, rfl, _, rfl, hkind, rfl⟩

/-- A number comes of a text that denotes one, and of a write of a parameter that holds one. -/
theorem call_eq_number (h : call method value = .ok (some (.number n))) :
    (∃ p : Parameter, p.setter = method ∧ (p.kind = .integer ∨ p.kind = .tokenAmount)) ∧
      ∃ raw v, value = some raw ∧ Decimal.Denotes raw.toList v ∧ 0 ≤ v := by
  obtain ⟨⟨p, writes⟩, ⟨rfl, -⟩, hencode⟩ := call_eq_ok_iff.1 h
  obtain ⟨hset, raw, hvalue, hargument⟩ := encode_eq_some_iff.1 hencode
  obtain ⟨hkind, d, hamount⟩ := argumentOf_eq_number hargument
  obtain ⟨hread, hpositive⟩ := amountOf_eq_ok_iff.1 hamount
  cases hset
  exact ⟨⟨p, rfl, hkind⟩, raw, d.value, hvalue, Decimal.denotes_iff.2 ⟨d, hread, rfl⟩, hpositive⟩

/-- The faults of a call are those of the method, of an address and of a value. -/
theorem kind_of_call (h : call method value = .error fault) :
    fault.kind = .unknownOperation ∧ (∀ op : Operation, op.IsOffered → op.method ≠ method) ∨
      fault.kind = .malformedAddress ∧ (∃ p : Parameter, p.setter = method ∧ p.kind = .address) ∨
        fault.kind = .value := by
  rcases bind_eq_error_iff.1 h with hmethod | ⟨⟨p, writes⟩, hmethod, hencode⟩
  · refine Or.inl ⟨kind_of_ofMethod hmethod, fun op hoffered hop => ?_⟩
    rw [ofMethod_eq_ok_iff.2 ⟨hop, hoffered⟩] at hmethod
    cases hmethod
  · obtain ⟨rfl, -⟩ := ofMethod_eq_ok_iff.1 hmethod
    rcases kind_of_encode hencode with ⟨hmalformed, hset, haddress⟩ | hvalue
    · cases hset
      exact Or.inr (Or.inl ⟨hmalformed, p, rfl, haddress⟩)
    · exact Or.inr (Or.inr hvalue)

/-- **A call comes to what its method allows, or to a fault that is declared, and to nothing else.**
It comes to no argument exactly where a parameter is read and no value is given; to an address exactly
where the value is the text of this address and a parameter that holds addresses is written; and to a
number only where a parameter that holds numbers is written and the value denotes a number that is not
below zero.  All other calls are refused: for a method that is not offered, for a malformed address
where the parameter holds addresses, or for the value.  No operation on numbers ever stops a call. -/
theorem call_well_typed (method : String) (value : Option String) :
    (call method value = .ok none ↔ value = none ∧ ∃ p : Parameter, p.getter = method) ∧
    (∀ address, call method value = .ok (some (.account address)) ↔
      value = some address.text ∧ ∃ p : Parameter, p.setter = method ∧ p.kind = .address) ∧
    (∀ n, call method value = .ok (some (.number n)) →
      (∃ p : Parameter, p.setter = method ∧ (p.kind = .integer ∨ p.kind = .tokenAmount)) ∧
        ∃ raw v, value = some raw ∧ Decimal.Denotes raw.toList v ∧ 0 ≤ v) ∧
    (∀ fault, call method value = .error fault →
      fault.kind = .unknownOperation ∧ (∀ op : Operation, op.IsOffered → op.method ≠ method) ∨
        fault.kind = .malformedAddress ∧ (∃ p : Parameter, p.setter = method ∧ p.kind = .address) ∨
          fault.kind = .value) ∧
    callInSteps method value = (call method value).mapError .fault ∧
    ∀ signal, callInSteps method value ≠ .error (.signal signal) := by
  refine ⟨call_eq_none_iff, fun _ => call_eq_account_iff, fun _ => call_eq_number,
    fun _ => kind_of_call, callInSteps_eq method value, fun signal hsignal => ?_⟩
  rw [callInSteps_eq] at hsignal
  obtain ⟨fault, -, ⟨⟩⟩ := mapError_eq_error_iff.1 hsignal

/-- A read, a fraction of a token, and two values that no operation on numbers would take: the
word for what is no number and stops whoever compares it, and a number whose exponent leaves no room
for scaling. -/
theorem call_with_odd_values :
    call "slashingFraction" none = .ok none ∧
      (∃ v, Decimal.Denotes "0.5".toList v ∧ 0 ≤ v) ∧
      (∃ fault, call "setFlagStakeWei" (some "-sNaN123") = .error fault ∧ fault.kind = .value) ∧
      (∀ signal, callInSteps "setFlagStakeWei" (some "-sNaN123") ≠ .error (.signal signal)) ∧
      ∀ signal, callInSteps "setFlagStakeWei" (some "1e-999999999999999999") ≠
        .error (.signal signal) := by
  obtain ⟨hread, -⟩ := call_well_typed "slashingFraction" none
  obtain ⟨-, -, hnumber, -⟩ := call_well_typed "setSlashingFraction" (some "0.5")
  obtain ⟨-, -, -, hfault, -, hword⟩ := call_well_typed "setFlagStakeWei" (some "-sNaN123")
  obtain ⟨-, -, -, -, -, hsmall⟩ := call_well_typed "setFlagStakeWei" (some "1e-999999999999999999")
  have hhalf : call "setSlashingFraction" (some "0.5") =
      .ok (some (.number 500000000000000000)) := by rfl
  have hrefused : call "setFlagStakeWei" (some "-sNaN123") =
      .error (.notPositive "setFlagStakeWei" "-sNaN123") := by rfl
  refine ⟨hread.2 ⟨rfl, .slashingFraction, rfl⟩, ?_, ⟨_, hrefused, ?_⟩, hword, hsmall⟩
  · obtain ⟨-, raw, v, ⟨⟩, hdenotes, hpositive⟩ := hnumber _ hhalf
    exact ⟨v, hdenotes, hpositive⟩
  · rcases hfault _ hrefused with ⟨⟨⟩, -⟩ | ⟨⟨⟩, -⟩ | hvalue
    exact hvalue

end Operation
end ChainAtlas
