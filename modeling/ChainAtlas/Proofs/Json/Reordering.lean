import ChainAtlas.Proofs.Json.ReadValues

/-!
# Values up to the order of members

The members of an object come in an order, and what is read from a document keeps it.  Here the
order is taken away again: `Reordered` relates two values when one becomes the other by permuting
the members of objects, at any depth and in as many of them as one likes.  Lists stay as they are.

A reader asks a value what it is, an object for the value under a name and a list for its items.
Each of these questions has an answer about both values at once, as long as the names in every
object are different: a value without parts is the same in both (`IsReordering.eq_iff`), what is
found under a name is reordered itself (`IsReordering.rel_get?`), and so are the items of a list.
Whatever is said of a value in these terms is therefore said of both (`rel_exists_object_iff`,
`rel_exists_list_iff`), and no proof about reordering has to go deeper than the reader does.
-/

namespace ChainAtlas
namespace Json

/-- Whether a value becomes another one by permuting the members of its objects, at every depth.  In
an object the values are reordered first, each in its place, and then the members are permuted. -/
inductive Reordered : Json → Json → Prop where
  | null : Reordered .null .null
  | bool (b : Bool) : Reordered (.bool b) (.bool b)
  | int (n : Int) : Reordered (.int n) (.int n)
  | float (x : Binary64) : Reordered (.float x) (.float x)
  | text (s : String) : Reordered (.text s) (.text s)
  | list {items items' : List Json} (hitems : List.Forall₂ Reordered items items') :
      Reordered (.list items) (.list items')
  | object {members middle members' : Members} (hnames : middle.names = members.names)
      (hvalues : List.Forall₂ Reordered (members.map Prod.snd) (middle.map Prod.snd))
      (hperm : middle.Perm members') : Reordered (.object members) (.object members')

/-- Whether a value has different names in every object, and another one is a reordering of it. -/
def IsReordering (value value' : Json) : Prop := value.HasDistinctNames ∧ value.Reordered value'

/-- Whether a value has no parts. -/
def IsAtom : Json → Prop
  | .list _ | .object _ => False
  | _ => True

variable {value value' : Json} {members members' : Members}

/-! ## What a value is -/

/-- A value without parts is not changed. -/
theorem IsReordering.eq_iff (h : IsReordering value value') {atom : Json} (hatom : atom.IsAtom) :
    value = atom ↔ value' = atom := by
  obtain ⟨-, hreordered⟩ := h
  cases hreordered with
  | list => constructor <;> (rintro rfl; exact hatom.elim)
  | object => constructor <;> (rintro rfl; exact hatom.elim)
  | _ => rfl

/-- The items of a reordered list. -/
theorem isReordering_list_iff {items items' : List Json} :
    IsReordering (.list items) (.list items') ↔ List.Forall₂ IsReordering items items' := by
  constructor
  · rintro ⟨hdistinct, hreordered⟩
    cases hdistinct with
    | list hdistinct =>
      cases hreordered with
      | list hitems => exact (List.forall₂_and_left _ _).2 ⟨hdistinct, hitems⟩
  · intro h
    obtain ⟨hdistinct, hitems⟩ := (List.forall₂_and_left _ _).1 h
    exact ⟨.list hdistinct, .list hitems⟩

/-- The members of a reordered object: each value is reordered in its place, and then they are
permuted. -/
theorem isReordering_object_iff : IsReordering (.object members) (.object members') ↔
    members.names.Nodup ∧ ∃ middle, Entries.Parallel (fun _ => IsReordering) members middle ∧
      middle.Perm members' := by
  constructor
  · rintro ⟨hdistinct, hreordered⟩
    cases hdistinct with
    | object hnodup hmembers =>
      cases hreordered with
      | @object _ middle _ hnames hvalues hperm =>
        refine ⟨hnodup, middle, Entries.parallel_iff.2 ⟨hnames, ?_⟩, hperm⟩
        exact (List.forall₂_and_left _ _).2 ⟨List.forall_mem_map.2 hmembers, hvalues⟩
  · rintro ⟨hnodup, middle, hparallel, hperm⟩
    obtain ⟨hnames, hboth⟩ := Entries.parallel_iff.1 hparallel
    obtain ⟨hdistinct, hvalues⟩ := (List.forall₂_and_left _ _).1 hboth
    exact ⟨.object hnodup (List.forall_mem_map.1 hdistinct), .object hnames hvalues hperm⟩

theorem IsReordering.nodup_names (h : IsReordering (.object members) (.object members')) :
    members.names.Nodup :=
  (isReordering_object_iff.1 h).1

theorem IsReordering.names_perm (h : IsReordering (.object members) (.object members')) :
    members.names.Perm members'.names := by
  obtain ⟨-, middle, hparallel, hperm⟩ := isReordering_object_iff.1 h
  have hnames : middle.names.Perm members'.names := hperm.map Prod.fst
  rwa [hparallel.names_eq] at hnames

/-- **A name is found in both objects or in neither**, and what is found is reordered. -/
theorem IsReordering.rel_get? (h : IsReordering (.object members) (.object members'))
    (name : String) : Option.Rel IsReordering (members.get? name) (members'.get? name) := by
  obtain ⟨-, middle, hparallel, hperm⟩ := isReordering_object_iff.1 h
  have hmiddle : middle.names.Nodup := by
    rw [hparallel.names_eq]
    exact h.nodup_names
  rw [← Entries.get?_eq_of_perm hperm hmiddle name]
  exact hparallel.rel_get? name

/-- What is made of the members of an object one by one can be made of a reordered object in another
order, if it is the same for a reordered value. -/
theorem IsReordering.exists_parallel {α : Type} {D : String → Json → α → Prop}
    (h : IsReordering (.object members) (.object members'))
    (hD : ∀ name v v', IsReordering v v' → ∀ a, D name v a ↔ D name v' a) {made : Entries α}
    (hmade : Entries.Parallel D members made) :
    ∃ made', Entries.Parallel D members' made' ∧ made'.Perm made := by
  obtain ⟨-, middle, hparallel, hperm⟩ := isReordering_object_iff.1 h
  have hmiddle : Entries.Parallel D middle made := by
    refine (forall₂_iff_of_forall₂ hparallel (fun member moved hmoved held => ?_) made).1 hmade
    rw [hmoved.1, hD member.1 _ _ hmoved.2]
  exact hmiddle.exists_perm hperm

/-- **A reordering can be undone by another one.** -/
theorem IsReordering.symm (h : IsReordering value value') : IsReordering value' value := by
  obtain ⟨hdistinct, hreordered⟩ := h
  induction hdistinct generalizing value' with
  | @list items _ ih =>
    cases hreordered with
    | @list _ items' hitems =>
      refine isReordering_list_iff.2 (List.Forall₂.flip ?_)
      exact ((List.forall₂_and_left _ _).2 ⟨ih, hitems⟩).imp fun _ _ hitem => hitem.1 hitem.2
  | @object members hnodup _ ih =>
    cases hreordered with
    | @object _ middle members' hnames hvalues hperm =>
      have hback : Entries.Parallel (fun _ => IsReordering) middle members := by
        refine Entries.parallel_iff.2 ⟨hnames.symm, List.Forall₂.flip ?_⟩
        have hundone : ∀ value ∈ members.map Prod.snd, ∀ {moved : Json},
            value.Reordered moved → moved.IsReordering value :=
          List.forall_mem_map.2 fun member hmember {_} => ih member hmember
        exact ((List.forall₂_and_left _ _).2 ⟨hundone, hvalues⟩).imp
          fun _ _ hvalue => hvalue.1 hvalue.2
      have hmiddle : middle.names.Nodup := by
        rw [hnames]
        exact hnodup
      exact isReordering_object_iff.2
        ⟨(hperm.map Prod.fst).nodup hmiddle, hback.exists_perm hperm⟩
  | _ =>
    cases hreordered
    constructor <;> constructor

/-! ## Fields

A field is what is found under a name, so it may be missing. -/

variable {field field' : Option Json}

theorem rel_eq_none_iff (h : Option.Rel IsReordering field field') :
    field = none ↔ field' = none := by
  cases h <;> simp

/-- **A field without parts is the same in both.** -/
theorem rel_eq_some_iff (h : Option.Rel IsReordering field field') {atom : Json}
    (hatom : atom.IsAtom) : field = some atom ↔ field' = some atom := by
  cases h with
  | some hvalue => rw [Option.some_inj, Option.some_inj, hvalue.eq_iff hatom]
  | none => rfl

/-- What is said of the members of a field that is an object is said of both, if it is the same for
reordered objects. -/
theorem rel_exists_object_iff (h : Option.Rel IsReordering field field') {P P' : Members → Prop}
    (hP : ∀ members members', IsReordering (.object members) (.object members') →
      (P members ↔ P' members')) :
    (∃ members, field = some (.object members) ∧ P members) ↔
      ∃ members, field' = some (.object members) ∧ P' members := by
  cases h with
  | none => simp
  | some hvalue =>
    have hreordered := hvalue.2
    cases hreordered with
    | object =>
      simp only [Option.some_inj, Json.object.injEq, exists_eq_left']
      exact hP _ _ hvalue
    | _ => simp

/-- What is said of the items of a field that is a list is said of both, if it is the same for lists
of reordered items. -/
theorem rel_exists_list_iff (h : Option.Rel IsReordering field field') {P P' : List Json → Prop}
    (hP : ∀ items items', List.Forall₂ IsReordering items items' → (P items ↔ P' items')) :
    (∃ items, field = some (.list items) ∧ P items) ↔
      ∃ items, field' = some (.list items) ∧ P' items := by
  cases h with
  | none => simp
  | some hvalue =>
    have hreordered := hvalue.2
    cases hreordered with
    | list =>
      simp only [Option.some_inj, Json.list.injEq, exists_eq_left']
      exact hP _ _ (isReordering_list_iff.1 hvalue)
    | _ => simp

end Json
end ChainAtlas
