import ChainAtlas.Operation
import Mathlib

/-!
# Operations and the names of their methods

An operation is found by the name of its method.  No two operations have the same method
(`Operation.method_injective`), and three facts about names carry that: parameters have different
names; all of these begin with a small letter, so they stay different when they are capitalized; and
none begins with the word that is put in front of a capitalized one.

So a name leaves no choice.  `Operation.ofMethod` looks for a parameter to read first and for one to
write afterwards.  A scan that goes through the parameters once, in any order, and asks each of them
for both of its methods finds the same (`Operation.scan_eq_ofMethod`).
-/

namespace ChainAtlas

/-! ## The names of methods -/

namespace Parameter

variable {name : Parameter → String} {method : String} {p : Parameter} {x y : List Char}

/-- Parameters have different names. -/
theorem getter_injective : Function.Injective getter := by
  have hnodup : (all.map getter).Nodup := by decide +kernel
  intro p q h
  exact List.inj_on_of_nodup_map hnodup (mem_all p) (mem_all q) h

/-- The name of a parameter begins with a small letter. -/
theorem exists_getter_eq_cons (p : Parameter) :
    ∃ c rest, p.getter.toList = c :: rest ∧ c.isLower = true := by
  cases p <;> exact ⟨_, _, rfl, rfl⟩

theorem not_prefix_getter (p : Parameter) : ¬ "set".toList <+: p.getter.toList := by
  cases p <;> decide +kernel

/-- A text that begins with a small letter can be had back from the capitalized one. -/
theorem capitalize_inj {c d : Char} (hc : c.isLower = true) (hd : d.isLower = true)
    (h : capitalize (c :: x) = capitalize (d :: y)) : c :: x = d :: y := by
  have hback : ∀ {e : Char}, e.isLower = true → e.toUpper.toLower = e := fun {e} he => by
    rw [Char.toLower_toUpper_eq_toLower,
      Char.toLower_eq_of_not_isUpper (Char.not_isUpper_of_isLower he)]
  obtain ⟨hhead, rfl⟩ := List.cons.inj h
  rw [← hback hc, hhead, hback hd]

theorem toList_setter (p : Parameter) :
    p.setter.toList = "set".toList ++ capitalize p.getter.toList := by
  rw [setter, String.toList_append]
  exact congrArg ("set".toList ++ ·) String.toList_ofList

/-- **Parameters are written by different methods.** -/
theorem setter_injective : Function.Injective setter := by
  intro p q h
  obtain ⟨c, x, hp, hc⟩ := exists_getter_eq_cons p
  obtain ⟨d, y, hq, hd⟩ := exists_getter_eq_cons q
  have hset := congrArg String.toList h
  rw [toList_setter, toList_setter, hp, hq] at hset
  have hname := capitalize_inj hc hd (List.append_cancel_left hset)
  rw [← hp, ← hq] at hname
  exact getter_injective (String.toList_inj.1 hname)

/-- **No method both reads a parameter and writes one.** -/
theorem getter_ne_setter (p q : Parameter) : p.getter ≠ q.setter := by
  intro h
  have hset := toList_setter q
  rw [← h] at hset
  exact not_prefix_getter p ⟨_, hset.symm⟩

/-- Where parameters have different names, the first one of a name is the one of that name. -/
theorem find?_all_eq_some_iff (hname : Function.Injective name) :
    all.find? (fun q => name q = method) = some p ↔ name p = method := by
  constructor
  · intro h
    simpa using List.find?_some h
  · rintro rfl
    cases hfound : all.find? (fun q => name q = name p) with
    | none => simpa using List.find?_eq_none.1 hfound p (mem_all p)
    | some q =>
      have hq : name q = name p := by simpa using List.find?_some hfound
      rw [hname hq]

theorem find?_all_eq_none_iff :
    all.find? (fun q => name q = method) = none ↔ ∀ q, name q ≠ method := by
  simp [List.find?_eq_none, mem_all]

end Parameter

/-! ## The operation of a method -/

namespace Operation

open Parameter

variable {method : String} {op : Operation} {p : Parameter} {ps : List Parameter} {fault : Fault}

/-- Whether an operation is offered: it reads a parameter, or it writes one that can be written. -/
def IsOffered (op : Operation) : Prop := op.isSetter = false ∨ op.parameter.settable = true

/-- **No two operations have the same method.** -/
theorem method_injective : Function.Injective Operation.method := by
  rintro ⟨p, _ | _⟩ ⟨q, _ | _⟩ h
  · exact congrArg (Operation.mk · false) (getter_injective h)
  · exact absurd h (getter_ne_setter p q)
  · exact absurd h.symm (getter_ne_setter q p)
  · exact congrArg (Operation.mk · true) (setter_injective h)

/-- An operation that is offered is found by its method. -/
theorem ofMethod_of_isOffered (h : op.IsOffered) : ofMethod op.method = .ok op := by
  obtain ⟨p, _ | _⟩ := op
  · have hread := (find?_all_eq_some_iff getter_injective).2 (rfl : p.getter = p.getter)
    simp only [ofMethod, Operation.method, Bool.false_eq_true, if_false, hread]
  · have hread := find?_all_eq_none_iff.2 fun q => getter_ne_setter q p
    have hwrite := (find?_all_eq_some_iff setter_injective).2 (rfl : p.setter = p.setter)
    have hsettable : p.settable = true := h.resolve_left (by simp)
    simp only [ofMethod, Operation.method, if_true, hread, hwrite, hsettable]

/-- What would write a parameter that cannot be written is refused under the name of the
parameter. -/
theorem ofMethod_setter_of_not_settable (h : p.settable = false) :
    ofMethod p.setter = .error (.readOnly p.getter) := by
  have hread := find?_all_eq_none_iff.2 fun q => getter_ne_setter q p
  have hwrite := (find?_all_eq_some_iff setter_injective).2 (rfl : p.setter = p.setter)
  simp only [ofMethod, hread, hwrite, h, Bool.false_eq_true, if_false]

/-- What is no method is refused under its own name. -/
theorem ofMethod_of_no_method (h : ∀ op : Operation, op.method ≠ method) :
    ofMethod method = .error (.unknownMethod method) := by
  have hread := find?_all_eq_none_iff.2 fun q => h ⟨q, false⟩
  have hwrite := find?_all_eq_none_iff.2 fun q => h ⟨q, true⟩
  simp only [Operation.method, Bool.false_eq_true, if_false, if_true] at hread hwrite
  simp only [ofMethod, hread, hwrite]

/-- **A name is the method of an operation that is offered, or of a write that is not, or of
nothing.** -/
theorem method_trichotomy (method : String) :
    (∃ op : Operation, op.method = method ∧ op.IsOffered) ∨
      (∃ p : Parameter, p.setter = method ∧ p.settable = false) ∨
        ∀ op : Operation, op.method ≠ method := by
  by_cases hmethod : ∃ op : Operation, op.method = method
  · obtain ⟨⟨p, writes⟩, rfl⟩ := hmethod
    by_cases hoffered : IsOffered ⟨p, writes⟩
    · exact Or.inl ⟨_, rfl, hoffered⟩
    · obtain ⟨hwrites, hsettable⟩ : writes = true ∧ p.settable = false := by
        simpa [IsOffered] using hoffered
      subst hwrites
      exact Or.inr (Or.inl ⟨p, rfl, hsettable⟩)
  · exact Or.inr (Or.inr (not_exists.1 hmethod))

theorem ofMethod_eq_ok_iff : ofMethod method = .ok op ↔ op.method = method ∧ op.IsOffered := by
  constructor
  · intro h
    rcases method_trichotomy method with ⟨found, rfl, hoffered⟩ | ⟨p, rfl, hsettable⟩ | hno
    · rw [ofMethod_of_isOffered hoffered] at h
      cases h
      exact ⟨rfl, hoffered⟩
    · rw [ofMethod_setter_of_not_settable hsettable] at h
      cases h
    · rw [ofMethod_of_no_method hno] at h
      cases h
  · rintro ⟨rfl, hoffered⟩
    exact ofMethod_of_isOffered hoffered

/-- A name is refused as that of a write that is not offered, or as no method at all. -/
theorem ofMethod_eq_error_iff :
    ofMethod method = .error fault ↔
      (∃ p : Parameter, p.setter = method ∧ p.settable = false ∧ fault = .readOnly p.getter) ∨
        (∀ op : Operation, op.method ≠ method) ∧ fault = .unknownMethod method := by
  constructor
  · intro h
    rcases method_trichotomy method with ⟨found, rfl, hoffered⟩ | ⟨p, rfl, hsettable⟩ | hno
    · rw [ofMethod_of_isOffered hoffered] at h
      cases h
    · rw [ofMethod_setter_of_not_settable hsettable] at h
      cases h
      exact Or.inl ⟨p, rfl, hsettable, rfl⟩
    · rw [ofMethod_of_no_method hno] at h
      cases h
      exact Or.inr ⟨hno, rfl⟩
  · rintro (⟨p, rfl, hsettable, rfl⟩ | ⟨hno, rfl⟩)
    · exact ofMethod_setter_of_not_settable hsettable
    · exact ofMethod_of_no_method hno

theorem kind_of_ofMethod (h : ofMethod method = .error fault) : fault.kind = .unknownOperation := by
  rcases ofMethod_eq_error_iff.1 h with ⟨p, -, -, rfl⟩ | ⟨-, rfl⟩
  · rfl
  · rfl

/-! ## Scans -/

/-- What a scan of parameters finds: the first parameter with a method of the name decides, also
where it cannot be written. -/
def scan (method : String) : List Parameter → Except Fault Operation
  | [] => .error (.unknownMethod method)
  | p :: rest =>
    if method = p.getter then .ok { parameter := p }
    else if method = p.setter then
      if p.settable then .ok { parameter := p, isSetter := true } else .error (.readOnly p.getter)
    else scan method rest

/-- A scan finds what a name stands for, if it comes to the parameter that the name is about. -/
theorem scan_eq_of_covers (h : ∀ op : Operation, op.method = method → op.parameter ∈ ps) :
    scan method ps = ofMethod method := by
  induction ps with
  | nil =>
    have hno : ∀ op : Operation, op.method ≠ method := fun op hop => by simpa using h op hop
    rw [scan, ofMethod_of_no_method hno]
  | cons p rest ih =>
    rw [scan]
    split_ifs with hread hwrite hsettable
    · have hoffered : IsOffered ⟨p, false⟩ := Or.inl rfl
      subst hread
      exact (ofMethod_of_isOffered hoffered).symm
    · have hoffered : IsOffered ⟨p, true⟩ := Or.inr hsettable
      subst hwrite
      exact (ofMethod_of_isOffered hoffered).symm
    · subst hwrite
      exact (ofMethod_setter_of_not_settable (by simpa using hsettable)).symm
    · -- the name is about another parameter, which is in the rest
      refine ih fun op hop => ?_
      rcases List.mem_cons.1 (h op hop) with hp | hrest
      · obtain ⟨q, _ | _⟩ := op
        · exact absurd (hop.symm.trans (congrArg getter hp)) hread
        · exact absurd (hop.symm.trans (congrArg setter hp)) hwrite
      · exact hrest

/-- **The order of a scan never decides what it finds**, as long as it leaves no parameter out. -/
theorem scan_eq_ofMethod (h : ∀ p, p ∈ ps) : scan method ps = ofMethod method :=
  scan_eq_of_covers fun op _ => h op.parameter

/-- **Names and operations correspond one to one.**  A name stands for an operation exactly when it
is the method of that operation and the operation is offered, and at most one has it as its method.
Every other name is refused as an unknown operation: as one that is only for reading exactly when it
would write a parameter that cannot be written, and else as no method at all.  So no name is both
for reading and for writing, and the order in which parameters are looked at makes no difference. -/
theorem ofMethod_one_to_one (method : String) :
    (∀ op, ofMethod method = .ok op ↔ op.method = method ∧ op.IsOffered) ∧
    (∀ op op' : Operation, op.method = method → op'.method = method → op = op') ∧
    (∀ fault, ofMethod method = .error fault → fault.kind = .unknownOperation) ∧
    (∀ name, ofMethod method = .error (.readOnly name) ↔
      ∃ p : Parameter, p.setter = method ∧ p.settable = false ∧ p.getter = name) ∧
    (ofMethod method = .error (.unknownMethod method) ↔ ∀ op : Operation, op.method ≠ method) ∧
    (∀ p q : Parameter, ¬ (p.getter = method ∧ q.setter = method)) ∧
    ∀ ps, (∀ p, p ∈ ps) → scan method ps = ofMethod method := by
  refine ⟨fun op => ofMethod_eq_ok_iff, fun op op' hop hop' => ?_, fun fault => kind_of_ofMethod,
    fun name => ?_, ?_, fun p q h => ?_, fun ps => scan_eq_ofMethod⟩
  · exact method_injective (hop.trans hop'.symm)
  · simp only [ofMethod_eq_error_iff, Fault.readOnly.injEq, reduceCtorEq, and_false, or_false,
      eq_comm (a := name)]
  · simp only [ofMethod_eq_error_iff, reduceCtorEq, and_false, exists_false, false_or, and_true]
  · exact getter_ne_setter p q (h.1.trans h.2.symm)

/-- The fraction that is slashed can be written; the minimum stake cannot, from whichever side one
comes to it. -/
theorem ofMethod_of_two_setters :
    (Operation.method ⟨.slashingFraction, true⟩ = "setSlashingFraction" ∧
      IsOffered ⟨.slashingFraction, true⟩ ∧
        ofMethod "setSlashingFraction" = .ok ⟨.slashingFraction, true⟩) ∧
    (∀ p, p ∈ Parameter.all.reverse) ∧
      scan "setMinimumStakeWei" Parameter.all.reverse = .error (.readOnly "minimumStakeWei") := by
  have hmethod : Operation.method ⟨.slashingFraction, true⟩ = "setSlashingFraction" := rfl
  have hoffered : IsOffered ⟨.slashingFraction, true⟩ := Or.inr rfl
  have hall : ∀ p, p ∈ Parameter.all.reverse := fun p => List.mem_reverse.2 (mem_all p)
  obtain ⟨hok, -⟩ := ofMethod_one_to_one "setSlashingFraction"
  obtain ⟨-, -, -, hreadOnly, -, -, hscan⟩ := ofMethod_one_to_one "setMinimumStakeWei"
  refine ⟨⟨hmethod, hoffered, (hok _).2 ⟨hmethod, hoffered⟩⟩, hall, ?_⟩
  rw [hscan _ hall]
  exact (hreadOnly _).2 ⟨.minimumStakeWei, rfl, rfl, rfl⟩

end Operation
end ChainAtlas
