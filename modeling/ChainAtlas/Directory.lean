/-!
# Directories

Networks, contracts and the members of a JSON object are all kept under names, and all of them are
listed in a definite order.  `Entries` is the bare list of names with values; `put` writes a value
under a name without ever making a second entry for it.  A `Directory` is such a list together with
the proof that its names are different, so a lookup has one possible answer and the order is the only
thing that two directories with the same lookups may differ in.
-/

namespace ChainAtlas

/-- Values under names, in order. -/
abbrev Entries (α : Type) := List (String × α)

namespace Entries

variable {α : Type}

/-- The names, in order. -/
def names (entries : Entries α) : List String := entries.map Prod.fst

/-- The value of the first entry under a name. -/
def get? (entries : Entries α) (name : String) : Option α := entries.lookup name

/-- Whether there is an entry under a name. -/
def has (entries : Entries α) (name : String) : Bool := (entries.get? name).isSome

/-- Write a value under a name: in the place of its entry if there is one, else at the end. -/
def put (entries : Entries α) (name : String) (value : α) : Entries α :=
  match entries with
  | [] => [(name, value)]
  | (other, old) :: rest =>
    if other = name then (name, value) :: rest else (other, old) :: put rest name value

@[simp] theorem get?_nil (name : String) : get? ([] : Entries α) name = none := rfl

theorem get?_cons (other name : String) (value : α) (rest : Entries α) :
    get? ((other, value) :: rest) name = if name = other then some value else get? rest name := by
  by_cases h : name = other
  · subst h; simp [get?, List.lookup_cons_self]
  · have hb : (name == other) = false := by simpa using h
    simp [get?, List.lookup_cons, hb, h]

/-- What was written is what is found, and nothing else changes. -/
theorem get?_put (entries : Entries α) (name other : String) (value : α) :
    (entries.put name value).get? other =
      if other = name then some value else entries.get? other := by
  induction entries with
  | nil => simp [put, get?_cons]
  | cons head rest ih =>
    obtain ⟨key, old⟩ := head
    by_cases hk : key = name
    · subst hk
      by_cases ho : other = key <;> simp [put, get?_cons, ho]
    · by_cases ho : other = name
      · subst ho
        simp [put, hk, get?_cons, ih, Ne.symm hk]
      · simp [put, hk, get?_cons, ih, ho]

theorem mem_names_put {entries : Entries α} {name other : String} {value : α} :
    other ∈ (entries.put name value).names ↔ other = name ∨ other ∈ entries.names := by
  induction entries with
  | nil => simp [put, names]
  | cons head rest ih =>
    obtain ⟨key, old⟩ := head
    simp only [names] at ih
    by_cases h : key = name
    · subst h; simp [put, names]
    · simp only [put, h, if_false, names, List.map_cons, List.mem_cons, ih]
      constructor <;> rintro (h | h | h) <;> simp [h]

/-- Different names stay different. -/
theorem nodup_names_put {entries : Entries α} (h : entries.names.Nodup) (name : String)
    (value : α) : (entries.put name value).names.Nodup := by
  induction entries with
  | nil => simp [put, names]
  | cons head rest ih =>
    obtain ⟨key, old⟩ := head
    simp only [names, List.map_cons, List.nodup_cons] at h
    by_cases hk : key = name
    · subst hk; simpa [put, names] using h
    · simp only [put, hk, if_false, names, List.map_cons, List.nodup_cons]
      refine ⟨fun hmem => ?_, ih h.2⟩
      rcases mem_names_put.1 hmem with h' | h'
      · exact hk h'
      · exact h.1 h'

/-- A name that is not there yet is added at the end. -/
theorem put_of_not_mem {entries : Entries α} {name : String} (h : name ∉ entries.names)
    (value : α) : entries.put name value = entries ++ [(name, value)] := by
  induction entries with
  | nil => rfl
  | cons head rest ih =>
    obtain ⟨key, old⟩ := head
    simp only [names, List.map_cons, List.mem_cons, not_or] at h
    simp [put, Ne.symm h.1, ih h.2]

theorem get?_eq_none_iff {entries : Entries α} {name : String} :
    entries.get? name = none ↔ name ∉ entries.names := by
  induction entries with
  | nil => simp [names]
  | cons head rest ih =>
    obtain ⟨key, old⟩ := head
    by_cases h : name = key
    · subst h; simp [get?_cons, names]
    · simpa [get?_cons, h, names] using ih

/-- Under different names, an entry is exactly what is found. -/
theorem get?_eq_some_iff {entries : Entries α} (h : entries.names.Nodup) {name : String}
    {value : α} : entries.get? name = some value ↔ (name, value) ∈ entries := by
  induction entries with
  | nil => simp
  | cons head rest ih =>
    obtain ⟨key, old⟩ := head
    simp only [names, List.map_cons, List.nodup_cons] at h
    by_cases hk : name = key
    · subst hk
      have hnot : (name, value) ∉ rest := fun hmem => h.1 (List.mem_map_of_mem hmem)
      simp [get?_cons, hnot, eq_comm]
    · simpa [get?_cons, hk] using ih h.2

end Entries

/-- Values under different names, in order. -/
structure Directory (α : Type) where
  entries : Entries α
  nodup : entries.names.Nodup
  deriving DecidableEq

namespace Directory

variable {α β : Type}

/-- The directory without entries. -/
def empty : Directory α := ⟨[], by simp [Entries.names]⟩

instance : Inhabited (Directory α) := ⟨empty⟩

/-- Write a value under a name. -/
def insert (d : Directory α) (name : String) (value : α) : Directory α :=
  ⟨d.entries.put name value, Entries.nodup_names_put d.nodup name value⟩

/-- Write entries one after another: a repeated name keeps its first place and its last value. -/
def ofList (entries : Entries α) : Directory α :=
  entries.foldl (fun d entry => d.insert entry.1 entry.2) empty

/-- The names, in order. -/
def names (d : Directory α) : List String := d.entries.names

/-- The values, in order. -/
def values (d : Directory α) : List α := d.entries.map Prod.snd

/-- The number of entries. -/
def size (d : Directory α) : Nat := d.entries.length

/-- The value under a name. -/
def get? (d : Directory α) (name : String) : Option α := d.entries.get? name

/-- Whether there is an entry under a name. -/
def has (d : Directory α) (name : String) : Bool := d.entries.has name

/-- Whether two directories have the same names, in whatever order, and related values under them. -/
def agrees (related : α → β → Bool) (d : Directory α) (e : Directory β) : Bool :=
  d.size == e.size && d.entries.all fun entry =>
    match e.get? entry.1 with
    | some value => related entry.2 value
    | none => false

theorem ofList_foldl (start : Directory α) (entries : Entries α)
    (h : (start.entries ++ entries).names.Nodup) :
    (entries.foldl (fun d entry => d.insert entry.1 entry.2) start).entries =
      start.entries ++ entries := by
  induction entries generalizing start with
  | nil => simp
  | cons head rest ih =>
    obtain ⟨name, value⟩ := head
    have hnot : name ∉ start.entries.names := by
      intro hmem
      simp only [Entries.names, List.map_append, List.map_cons, List.nodup_append] at h
      exact h.2.2 name hmem name List.mem_cons_self rfl
    have hput : (start.insert name value).entries = start.entries ++ [(name, value)] :=
      Entries.put_of_not_mem hnot value
    simp only [List.foldl_cons]
    rw [ih (start.insert name value) (by simpa [hput] using h), hput]
    simp

/-- Entries under different names make the directory that lists them. -/
theorem entries_ofList {entries : Entries α} (h : entries.names.Nodup) :
    (ofList entries).entries = entries := by
  simpa [ofList, empty] using ofList_foldl empty entries (by simpa [empty] using h)

end Directory
end ChainAtlas
