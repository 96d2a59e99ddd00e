import Mathlib.Data.List.Forall2

/-!
# Outcomes of steps that may fail

Everything that reads a document is a chain of steps each of which has a value or a fault.  A chain
has a value when all of its steps do, and its fault is that of the first step that has one.  The
lemmas here say so for two steps after one another and for a step taken on every item of a list,
once for values (`bind_eq_ok_iff`, `mapM_eq_ok_iff`) and once for faults (`bind_eq_error_iff`,
`mapM_eq_error_iff`), so that no later proof has to open a chain by hand.
-/

namespace ChainAtlas
namespace Outcome

variable {ε ε' α β : Type}

theorem bind_eq_ok_iff {x : Except ε α} {f : α → Except ε β} {b : β} :
    x >>= f = .ok b ↔ ∃ a, x = .ok a ∧ f a = .ok b := by
  cases x <;> simp [bind, Except.bind]

theorem bind_eq_error_iff {x : Except ε α} {f : α → Except ε β} {e : ε} :
    x >>= f = .error e ↔ x = .error e ∨ ∃ a, x = .ok a ∧ f a = .error e := by
  cases x <;> simp [bind, Except.bind]

theorem pure_eq_error_iff {a : α} {e : ε} : (pure a : Except ε α) = .error e ↔ False := by
  simp [pure, Except.pure]

/-- A last step that cannot fail makes no difference to whether there is a value. -/
theorem exists_bind_pure_eq_ok_iff {x : Except ε α} {f : α → β} :
    (∃ b, (x >>= fun a => pure (f a)) = .ok b) ↔ ∃ a, x = .ok a := by
  cases x <;> simp [bind, Except.bind, pure, Except.pure]

/-- A value that is put under a name. -/
theorem bind_pure_pair_eq_ok_iff {κ : Type} {x : Except ε α} {key : κ} {held : κ × α} :
    (x >>= fun a => pure (key, a)) = .ok held ↔ held.1 = key ∧ x = .ok held.2 := by
  rw [bind_eq_ok_iff]
  constructor
  · rintro ⟨a, ha, hheld⟩
    cases hheld
    exact ⟨rfl, ha⟩
  · rintro ⟨hkey, ha⟩
    exact ⟨held.2, ha, congrArg Except.ok (Prod.ext hkey.symm rfl)⟩

theorem map_eq_ok_iff {x : Except ε α} {f : α → β} {b : β} :
    x.map f = .ok b ↔ ∃ a, x = .ok a ∧ f a = b := by
  cases x <;> simp [Except.map]

theorem map_eq_error_iff {x : Except ε α} {f : α → β} {e : ε} :
    x.map f = .error e ↔ x = .error e := by
  cases x <;> simp [Except.map]

theorem mapError_eq_ok_iff {x : Except ε α} {f : ε → ε'} {a : α} :
    x.mapError f = .ok a ↔ x = .ok a := by
  cases x <;> simp [Except.mapError]

theorem mapError_eq_error_iff {x : Except ε α} {f : ε → ε'} {e : ε'} :
    x.mapError f = .error e ↔ ∃ e', x = .error e' ∧ f e' = e := by
  cases x <;> simp [Except.mapError]

/-- Faults may be renamed before a last step that cannot fail or after it. -/
theorem mapError_bind_pure {x : Except ε α} (g : ε → ε') (f : α → β) :
    (x.mapError g >>= fun a => pure (f a)) = (x >>= fun a => pure (f a)).mapError g := by
  cases x <;> rfl

/-- Faults may be renamed at each item or at the end. -/
theorem mapM_mapError (g : ε → ε') (f : α → Except ε β) (xs : List α) :
    xs.mapM (fun x => (f x).mapError g) = (xs.mapM f).mapError g := by
  induction xs with
  | nil => rfl
  | cons x xs ih =>
    rw [List.mapM_cons, List.mapM_cons, ih]
    cases f x with
    | error e => rfl
    | ok y => cases xs.mapM f <;> rfl

/-- A step on an optional value is left out where there is none. -/
theorem optionMapM_eq_ok_iff {f : α → Except ε β} {o : Option α} {r : Option β} :
    o.mapM f = .ok r ↔
      o = none ∧ r = none ∨ ∃ a b, o = some a ∧ f a = .ok b ∧ r = some b := by
  cases o with
  | none => simp [pure, Except.pure, eq_comm]
  | some a => cases h : f a <;> simp [h, eq_comm]

theorem optionMapM_eq_error_iff {f : α → Except ε β} {o : Option α} {e : ε} :
    o.mapM f = .error e ↔ ∃ a, o = some a ∧ f a = .error e := by
  cases o with
  | none => simp [pure, Except.pure]
  | some a => cases h : f a <;> simp [h]

/-- A step on every item has a value when it has one for each item, in the same order. -/
theorem mapM_eq_ok_iff {f : α → Except ε β} {xs : List α} {ys : List β} :
    xs.mapM f = .ok ys ↔ List.Forall₂ (fun x y => f x = .ok y) xs ys := by
  induction xs generalizing ys with
  | nil => simp [pure, Except.pure, eq_comm]
  | cons x xs ih =>
    rw [List.mapM_cons, bind_eq_ok_iff, List.forall₂_cons_left_iff]
    refine exists_congr fun y => ?_
    rw [bind_eq_ok_iff]
    constructor
    · rintro ⟨hy, ys', hys, hcons⟩
      exact ⟨ys', hy, ih.1 hys, (Except.ok.inj hcons).symm⟩
    · rintro ⟨ys', hy, hys, rfl⟩
      exact ⟨hy, ys', ih.2 hys, rfl⟩

/-- Items can be related one by one to some list when each of them can be related to something. -/
theorem exists_forall₂_iff {R : α → β → Prop} {xs : List α} :
    (∃ ys, List.Forall₂ R xs ys) ↔ ∀ x ∈ xs, ∃ y, R x y := by
  induction xs with
  | nil => simp
  | cons x xs ih =>
    rw [List.forall_mem_cons, ← ih]
    constructor
    · rintro ⟨_, _ | ⟨hy, hys⟩⟩
      exact ⟨⟨_, hy⟩, _, hys⟩
    · rintro ⟨⟨y, hy⟩, ys, hys⟩
      exact ⟨y :: ys, .cons hy hys⟩

/-- The fault of a step on every item is that of the first item with a fault. -/
theorem mapM_eq_error_iff {f : α → Except ε β} {xs : List α} {e : ε} :
    xs.mapM f = .error e ↔ ∃ before x after, xs = before ++ x :: after ∧
      (∀ y ∈ before, ∃ z, f y = .ok z) ∧ f x = .error e := by
  induction xs with
  | nil => simp [pure, Except.pure]
  | cons x xs ih =>
    rw [List.mapM_cons, bind_eq_error_iff]
    constructor
    · rintro (hx | ⟨y, hy, htail⟩)
      · exact ⟨[], x, xs, rfl, by simp, hx⟩
      · rcases bind_eq_error_iff.1 htail with herror | ⟨ys, -, hpure⟩
        · obtain ⟨before, z, after, rfl, hbefore, hz⟩ := ih.1 herror
          refine ⟨x :: before, z, after, rfl, ?_, hz⟩
          rintro w (_ | ⟨_, hw⟩)
          · exact ⟨y, hy⟩
          · exact hbefore w hw
        · cases hpure
    · rintro ⟨before, z, after, hsplit, hbefore, hz⟩
      cases before with
      | nil =>
        obtain ⟨rfl, rfl⟩ := List.cons.inj hsplit
        exact Or.inl hz
      | cons w before =>
        obtain ⟨rfl, rfl⟩ := List.cons.inj hsplit
        obtain ⟨y, hy⟩ := hbefore x List.mem_cons_self
        refine Or.inr ⟨y, hy, bind_eq_error_iff.2 (Or.inl (ih.2 ?_))⟩
        exact ⟨before, z, after, rfl, fun v hv => hbefore v (List.mem_cons_of_mem _ hv), hz⟩

/-- Two outcomes with the same values have faults together. -/
theorem exists_eq_error_iff {x : Except ε α} {y : Except ε' α}
    (h : ∀ a, x = .ok a ↔ y = .ok a) : (∃ e, x = .error e) ↔ ∃ e, y = .error e := by
  cases x with
  | ok a =>
    rw [(h a).1 rfl]
    simp
  | error e =>
    cases y with
    | ok a => cases (h a).2 rfl
    | error e' => exact ⟨fun _ => ⟨e', rfl⟩, fun _ => ⟨e, rfl⟩⟩

/-- Whether two outcomes are alike: related values, or on both sides a fault of a certain sort. -/
inductive Alike (R : α → β → Prop) (P : ε → Prop) : Except ε α → Except ε β → Prop where
  | ok {a : α} {b : β} (h : R a b) : Alike R P (.ok a) (.ok b)
  | error {e e' : ε} (h : P e) (h' : P e') : Alike R P (.error e) (.error e')

/-! ## Families of faults -/

/-- Whether every fault of a step is of a certain sort.  A chain of steps inherits it from its
steps. -/
def FaultsIn (P : ε → Prop) (x : Except ε α) : Prop := ∀ e, x = .error e → P e

variable {P Q : ε → Prop}

theorem FaultsIn.ok (a : α) : FaultsIn P (.ok a : Except ε α) := by
  rintro e ⟨⟩

theorem FaultsIn.error {e : ε} (h : P e) : FaultsIn P (.error e : Except ε α) := by
  rintro _ ⟨⟩
  exact h

theorem FaultsIn.mono {x : Except ε α} (h : FaultsIn P x) (hPQ : ∀ e, P e → Q e) :
    FaultsIn Q x := fun e he => hPQ e (h e he)

theorem FaultsIn.bind {x : Except ε α} {f : α → Except ε β} (hx : FaultsIn P x)
    (hf : ∀ a, FaultsIn P (f a)) : FaultsIn P (x >>= f) := by
  intro e he
  rcases bind_eq_error_iff.1 he with herror | ⟨a, -, herror⟩
  · exact hx e herror
  · exact hf a e herror

theorem FaultsIn.map {x : Except ε α} (hx : FaultsIn P x) (f : α → β) : FaultsIn P (x.map f) :=
  fun e he => hx e (map_eq_error_iff.1 he)

theorem FaultsIn.optionMapM {f : α → Except ε β} (hf : ∀ a, FaultsIn P (f a)) (o : Option α) :
    FaultsIn P (o.mapM f) := by
  intro e he
  obtain ⟨a, -, herror⟩ := optionMapM_eq_error_iff.1 he
  exact hf a e herror

theorem FaultsIn.mapM {f : α → Except ε β} (hf : ∀ a, FaultsIn P (f a)) (xs : List α) :
    FaultsIn P (xs.mapM f) := by
  intro e he
  obtain ⟨_, x, _, -, -, herror⟩ := mapM_eq_error_iff.1 he
  exact hf x e herror

/-- A fault of another sort is not one of the step. -/
theorem FaultsIn.ne_error {x : Except ε α} (h : FaultsIn P x) {e : ε} (he : ¬ P e) :
    x ≠ .error e := fun herror => he (h e herror)

end Outcome
end ChainAtlas
