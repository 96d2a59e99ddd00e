import ChainAtlas.Directory
import Mathlib.Data.List.Forall2
import Mathlib.Data.List.Nodup
import Mathlib.Data.List.Perm.Basic
import Mathlib.Data.List.Perm.Subperm

/-!
# Entries side by side

Whatever is kept under names is made from something else that is kept under the same names: networks
from the entries of a document, addresses from the members of an object.  Two lists of entries are
*parallel* when they have the same names in the same order and related values.  What is found in one
of them is then related to what is found in the other (`Parallel.rel_get?`), and reordering one of
them can be made up for by reordering the other (`Parallel.exists_perm`).

A directory is determined by its lookups and its order.  `get?_eq_of_perm` says that the order makes
no difference to a lookup, and `agrees_iff` that agreement of two directories is a matter of
lookups.
-/

namespace ChainAtlas

/-- Of two lists whose items are related one by one, both are related to a third or neither is, if
it is so for their items. -/
theorem forall₂_iff_of_forall₂ {α β γ : Type} {S : α → β → Prop} {D : α → γ → Prop}
    {E : β → γ → Prop} {xs : List α} {ys : List β} (h : List.Forall₂ S xs ys)
    (hD : ∀ x y, S x y → ∀ z, D x z ↔ E y z) (zs : List γ) :
    List.Forall₂ D xs zs ↔ List.Forall₂ E ys zs := by
  induction h generalizing zs with
  | nil => cases zs <;> simp
  | @cons x y xs ys hxy _ ih =>
    cases zs with
    | nil => simp
    | cons z zs => rw [List.forall₂_cons, List.forall₂_cons, hD x y hxy, ih]

/-- What is related to a value that is there. -/
theorem exists_eq_some_of_rel {α β : Type} {R : α → β → Prop} {x : Option α} {y : Option β}
    (h : Option.Rel R x y) {a : α} (hx : x = some a) : ∃ b, y = some b ∧ R a b := by
  subst hx
  cases h with
  | some hab => exact ⟨_, rfl, hab⟩

/-- What a value that is there is related to. -/
theorem exists_of_rel_of_eq_some {α β : Type} {R : α → β → Prop} {x : Option α} {y : Option β}
    (h : Option.Rel R x y) {b : β} (hy : y = some b) : ∃ a, x = some a ∧ R a b := by
  subst hy
  cases h with
  | some hab => exact ⟨_, rfl, hab⟩

/-- An item of the second of two related lists is related to an item of the first. -/
theorem exists_of_mem_forall₂ {α β : Type} {R : α → β → Prop} {xs : List α} {ys : List β}
    (h : List.Forall₂ R xs ys) {y : β} (hy : y ∈ ys) : ∃ x ∈ xs, R x y := by
  induction h with
  | nil => cases hy
  | @cons x z xs ys hxz _ ih =>
    rcases List.mem_cons.1 hy with rfl | hrest
    · exact ⟨x, List.mem_cons_self, hxz⟩
    · obtain ⟨found, hfound, hrelated⟩ := ih hrest
      exact ⟨found, List.mem_cons_of_mem _ hfound, hrelated⟩

namespace Entries

variable {α β : Type} {entries other : Entries α}

/-! ## Order -/

/-- The order of entries under different names makes no difference to what is found. -/
theorem get?_eq_of_perm (h : entries.Perm other) (hnames : entries.names.Nodup) (name : String) :
    entries.get? name = other.get? name := by
  have hother : other.names.Nodup := (h.map Prod.fst).nodup hnames
  refine Option.ext fun value => ?_
  rw [get?_eq_some_iff hnames, get?_eq_some_iff hother, h.mem_iff]

/-- Leaving entries out makes no difference to what is found under a name that is kept. -/
theorem get?_filter_of_keep {keep : String → Bool} {name : String} (h : keep name = true) :
    get? (entries.filter fun entry => keep entry.1) name = entries.get? name := by
  induction entries with
  | nil => rfl
  | cons entry rest ih =>
    obtain ⟨found, value⟩ := entry
    by_cases hname : name = found
    · rw [List.filter_cons_of_pos (by rwa [← hname]), get?_cons, get?_cons, if_pos hname,
        if_pos hname]
    · rw [get?_cons, if_neg hname, ← ih]
      cases hkeep : keep found with
      | true => rw [List.filter_cons_of_pos (by exact hkeep), get?_cons, if_neg hname]
      | false => rw [List.filter_cons_of_neg (by simp [hkeep])]

/-! ## Writing -/

/-- What is found under a name is an entry. -/
theorem mem_of_get? {name : String} {value : α} (h : entries.get? name = some value) :
    (name, value) ∈ entries := by
  obtain ⟨before, after, hsplit, -⟩ := List.lookup_eq_some_iff.1 h
  rw [hsplit]
  exact List.mem_append_right _ List.mem_cons_self

/-- What is there after writing was written or was there before. -/
theorem mem_of_mem_put {name : String} {value : α} {entry : String × α}
    (h : entry ∈ entries.put name value) : entry = (name, value) ∨ entry ∈ entries := by
  induction entries with
  | nil => exact Or.inl (List.mem_singleton.1 h)
  | cons head rest ih =>
    rw [put] at h
    split at h
    · exact (List.mem_cons.1 h).imp_right (List.mem_cons_of_mem _)
    · rcases List.mem_cons.1 h with rfl | hrest
      · exact Or.inr List.mem_cons_self
      · exact (ih hrest).imp_right (List.mem_cons_of_mem _)

/-! ## Parallel entries -/

/-- Whether two lists of entries have the same names in the same order, and related values. -/
def Parallel (R : String → α → β → Prop) (entries : Entries α) (made : Entries β) : Prop :=
  List.Forall₂ (fun entry held => held.1 = entry.1 ∧ R entry.1 entry.2 held.2) entries made

variable {R : String → α → β → Prop} {made : Entries β}

/-- Names and values may be compared apart. -/
theorem parallel_iff {S : α → β → Prop} : Parallel (fun _ => S) entries made ↔
    made.names = entries.names ∧ List.Forall₂ S (entries.map Prod.snd) (made.map Prod.snd) := by
  induction entries generalizing made with
  | nil => cases made <;> simp [Parallel, names]
  | cons entry entries ih =>
    cases made with
    | nil => simp [Parallel]
    | cons held made =>
      have hrest : Parallel (fun _ => S) entries made ↔ _ := ih
      rw [Parallel] at hrest ⊢
      simp only [List.forall₂_cons, hrest, names, List.map_cons, List.cons.injEq]
      exact ⟨fun ⟨⟨hname, hvalue⟩, hnames, hvalues⟩ => ⟨⟨hname, hnames⟩, hvalue, hvalues⟩,
        fun ⟨⟨hname, hnames⟩, hvalue, hvalues⟩ => ⟨⟨hname, hvalue⟩, hnames, hvalues⟩⟩

theorem Parallel.names_eq (h : Parallel R entries made) : made.names = entries.names := by
  induction h with
  | nil => rfl
  | cons hentry _ ih => exact congrArg₂ List.cons hentry.1 ih

/-- **A name is found on both sides or on neither**, and what is found is related. -/
theorem Parallel.rel_get? (h : Parallel R entries made) (name : String) :
    Option.Rel (R name) (entries.get? name) (made.get? name) := by
  induction h with
  | nil => exact .none
  | @cons entry held entries made hentry _ ih =>
    obtain ⟨key, value⟩ := entry
    obtain ⟨key', value'⟩ := held
    obtain ⟨rfl, hvalue⟩ : key' = key ∧ R key value value' := hentry
    rw [get?_cons, get?_cons]
    split
    · next hname => exact hname ▸ .some hvalue
    · exact ih

/-- What stands on one side is made from what stands under the same name on the other. -/
theorem Parallel.exists_of_mem (h : Parallel R entries made) {name : String} {value : β}
    (hmem : (name, value) ∈ made) : ∃ source, (name, source) ∈ entries ∧ R name source value := by
  obtain ⟨⟨key, source⟩, hentry, rfl, hrelated⟩ := exists_of_mem_forall₂ h hmem
  exact ⟨source, hentry, hrelated⟩

/-- When one side is reordered, the other side can be reordered with it. -/
theorem Parallel.exists_perm (h : Parallel R entries made) (hperm : entries.Perm other) :
    ∃ made', Parallel R other made' ∧ made'.Perm made :=
  List.perm_comp_forall₂ hperm.symm h

end Entries

namespace Directory

variable {α β : Type} {d : Directory α} {e : Directory β} {related : α → β → Bool}

/-- What is written one after another is all that there is in the end. -/
theorem mem_of_mem_ofList {entries : Entries α} {entry : String × α}
    (h : entry ∈ (ofList entries).entries) : entry ∈ entries := by
  suffices hstart : ∀ (rest : Entries α) (start : Directory α),
      entry ∈ (rest.foldl (fun d entry => d.insert entry.1 entry.2) start).entries →
        entry ∈ start.entries ∨ entry ∈ rest by
    exact (hstart entries empty h).resolve_left List.not_mem_nil
  intro rest
  induction rest with
  | nil => exact fun start hmem => Or.inl hmem
  | cons head rest ih =>
    intro start hmem
    rcases ih (start.insert head.1 head.2) hmem with hput | hrest
    · rcases Entries.mem_of_mem_put hput with rfl | hstart
      · exact Or.inr List.mem_cons_self
      · exact Or.inl hstart
    · exact Or.inr (List.mem_cons_of_mem _ hrest)

theorem get?_eq_some_iff {name : String} {value : α} :
    d.get? name = some value ↔ (name, value) ∈ d.entries :=
  Entries.get?_eq_some_iff d.nodup

theorem nodup_entries (d : Directory α) : d.entries.Nodup := List.Nodup.of_map Prod.fst d.nodup

theorem mem_names_iff {name : String} : name ∈ d.names ↔ ∃ value, d.get? name = some value := by
  rw [← Option.isSome_iff_exists, ← Option.ne_none_iff_isSome, ne_eq, get?,
    Entries.get?_eq_none_iff, not_not, names]

/-- **Directories agree when their names are the same up to order and what is found under each
name is related.** -/
theorem agrees_iff : d.agrees related e = true ↔ d.names.Perm e.names ∧
    ∀ name value value', d.get? name = some value → e.get? name = some value' →
      related value value' = true := by
  rw [agrees, Bool.and_eq_true, beq_iff_eq, List.all_eq_true]
  constructor
  · rintro ⟨hsize, hall⟩
    have hfound : ∀ name value, d.get? name = some value →
        ∃ value', e.get? name = some value' ∧ related value value' = true := by
      intro name value hvalue
      have hentry := hall (name, value) (get?_eq_some_iff.1 hvalue)
      cases hget : e.get? name with
      | none => simp [hget] at hentry
      | some value' => exact ⟨value', rfl, by simpa [hget] using hentry⟩
    have hsubset : d.names ⊆ e.names := by
      intro name hname
      obtain ⟨value, hvalue⟩ := mem_names_iff.1 hname
      obtain ⟨value', hvalue', -⟩ := hfound name value hvalue
      exact mem_names_iff.2 ⟨value', hvalue'⟩
    have hlength : e.names.length ≤ d.names.length := by
      simpa [names, Entries.names, size] using Nat.le_of_eq hsize.symm
    refine ⟨(List.subperm_of_subset d.nodup hsubset).perm_of_length_le hlength, ?_⟩
    intro name value value' hvalue hvalue'
    obtain ⟨found, hget, hrelated⟩ := hfound name value hvalue
    rw [hget, Option.some_inj] at hvalue'
    exact hvalue' ▸ hrelated
  · rintro ⟨hperm, hrelated⟩
    refine ⟨by simpa [names, Entries.names, size] using hperm.length_eq, ?_⟩
    rintro ⟨name, value⟩ hmem
    have hvalue : d.get? name = some value := get?_eq_some_iff.2 hmem
    obtain ⟨value', hvalue'⟩ := mem_names_iff.1 (hperm.mem_iff.1 (mem_names_iff.2 ⟨value, hvalue⟩))
    simpa [hvalue'] using hrelated name value value' hvalue hvalue'

/-- Directories with the same entries in another order agree. -/
theorem agrees_of_perm {d e : Directory α} {related : α → α → Bool}
    (hrefl : ∀ value, related value value = true) (h : d.entries.Perm e.entries) :
    d.agrees related e = true := by
  refine agrees_iff.2 ⟨h.map Prod.fst, fun name value value' hvalue hvalue' => ?_⟩
  rw [get?, Entries.get?_eq_of_perm h d.nodup, ← get?, hvalue', Option.some_inj] at hvalue
  exact hvalue ▸ hrefl value'

/-- Agreement goes both ways if what it is a matter of does. -/
theorem agrees_symm {related' : β → α → Bool}
    (hsymm : ∀ value value', related value value' = true → related' value' value = true)
    (h : d.agrees related e = true) : e.agrees related' d = true := by
  obtain ⟨hnames, hrelated⟩ := agrees_iff.1 h
  refine agrees_iff.2 ⟨hnames.symm, fun name value value' hvalue hvalue' => ?_⟩
  exact hsymm _ _ (hrelated name value' value hvalue' hvalue)

/-- Agreement is passed on if what it is a matter of is. -/
theorem agrees_trans {γ : Type} {f : Directory γ} {related' : β → γ → Bool} {related'' : α → γ → Bool}
    (htrans : ∀ value value' value'', related value value' = true →
      related' value' value'' = true → related'' value value'' = true)
    (h : d.agrees related e = true) (h' : e.agrees related' f = true) :
    d.agrees related'' f = true := by
  obtain ⟨hnames, hrelated⟩ := agrees_iff.1 h
  obtain ⟨hnames', hrelated'⟩ := agrees_iff.1 h'
  refine agrees_iff.2 ⟨hnames.trans hnames', fun name value value'' hvalue hvalue'' => ?_⟩
  -- the directory in between has the name as well
  obtain ⟨value', hvalue'⟩ :=
    mem_names_iff.1 (hnames.mem_iff.1 (mem_names_iff.2 ⟨value, hvalue⟩))
  exact htrans _ _ _ (hrelated name value value' hvalue hvalue')
    (hrelated' name value' value'' hvalue' hvalue'')

/-- **Directories whose values are the same agree exactly when they differ in nothing but order.** -/
theorem agrees_beq_iff_perm [BEq α] [LawfulBEq α] {d e : Directory α} :
    d.agrees (· == ·) e = true ↔ d.entries.Perm e.entries := by
  constructor
  · intro h
    obtain ⟨hnames, hrelated⟩ := agrees_iff.1 h
    have hget : ∀ name, d.get? name = e.get? name := by
      intro name
      have hboth : (∃ value, d.get? name = some value) ↔ ∃ value, e.get? name = some value := by
        rw [← mem_names_iff, ← mem_names_iff, hnames.mem_iff]
      cases hd : d.get? name with
      | some value =>
        obtain ⟨value', he⟩ := hboth.1 ⟨value, hd⟩
        rw [he, eq_of_beq (hrelated name value value' hd he)]
      | none =>
        cases he : e.get? name with
        | none => rfl
        | some value' =>
          obtain ⟨value, hvalue⟩ := hboth.2 ⟨value', he⟩
          exact absurd (hd.symm.trans hvalue) nofun
    refine (List.perm_ext_iff_of_nodup d.nodup_entries e.nodup_entries).2 ?_
    rintro ⟨name, value⟩
    rw [← get?_eq_some_iff, ← get?_eq_some_iff, hget]
  · intro h
    exact agrees_of_perm (fun value => beq_self_eq_true value) h

end Directory
end ChainAtlas
