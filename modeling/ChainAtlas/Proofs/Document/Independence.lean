import ChainAtlas.Document.Entry
import ChainAtlas.Proofs.Directory
import ChainAtlas.Proofs.Document.Names

/-!
# What an entry is read from

A network entry may hold members that nothing asks for, among them some that nobody should see: a
document may keep a private key beside the contracts.  This file is about two entries that are read
side by side.  If they have the same values in the nine fields that are recognised, then whatever
comes out of one comes out of the other: the same network, or the same fault, and so the same
message.

The nine fields are asked for in different ways --- some may be absent, some may be null, some are
looked up twice --- but every one of these ways is a function of the value that `Entries.get?` finds
(`required_congr` and its companions), and `draft_congr` puts them together.  What `Entries.get?`
finds under current names is the resolved field of the entry as it was written (`get?_normalize`).

The rest says which differences between two entries are none in this sense:

* the order of the members (`SameFields.of_perm`);
* members under other names (`sameFields_filter`);
* whether a field stands under its current or its older name, and the value of an older name that
  is shadowed (`sameFields_normalize`).
-/

namespace ChainAtlas

namespace Document

/-! ## Fields of the same value -/

/-- The fields of an entry that are recognised, by their current names. -/
def recognisedFields : List String :=
  ["chainId", "environment", "contracts", "rpcEndpoints", "nativeCurrency", "entryPoints", "name",
    "blockExplorerUrl", "theGraphUrl"]

/-- Whether a name stands for a field that is recognised. -/
def isRecognised (name : String) : Bool := recognisedFields.contains (currentName name)

/-- Whether two entries have the same values in all fields that are recognised, whatever else they
hold and however they spell it. -/
def SameFields (members members' : Members) : Prop :=
  ∀ field ∈ recognisedFields, resolve members field = resolve members' field

variable {α : Type} {shape : Shape α} {name field : String} {members members' : Members}

theorem required_congr (h : Entries.get? members field = Entries.get? members' field) :
    required shape name members field = required shape name members' field := by
  rw [required, required, h]

theorem orAbsent_congr (h : Entries.get? members field = Entries.get? members' field)
    (absent : α) :
    orAbsent shape name members field absent = orAbsent shape name members' field absent := by
  rw [orAbsent, orAbsent, Entries.has, Entries.has, h, required_congr h]

theorem present?_congr (h : Entries.get? members field = Entries.get? members' field) :
    present? members field = present? members' field := by
  rw [present?, present?, h]

theorem orNull_congr (h : Entries.get? members field = Entries.get? members' field) :
    orNull shape name members field = orNull shape name members' field := by
  rw [orNull, orNull, present?_congr h, required_congr h]

/-- **A draft depends on the recognised fields alone**, and so does the fault if there is none. -/
theorem draft_congr (name : String)
    (h : ∀ field ∈ recognisedFields,
      Entries.get? members field = Entries.get? members' field) :
    draft name members = draft name members' := by
  have hfield : ∀ field, recognisedFields.contains field = true →
      Entries.get? members field = Entries.get? members' field := fun field hmem =>
    h field (List.contains_iff_mem.1 hmem)
  rw [draft, draft, required_congr (hfield "chainId" (by decide)),
    required_congr (hfield "environment" (by decide)), hfield "contracts" (by decide),
    orAbsent_congr (hfield "rpcEndpoints" (by decide)),
    present?_congr (hfield "nativeCurrency" (by decide)),
    orNull_congr (hfield "entryPoints" (by decide)), orNull_congr (hfield "name" (by decide)),
    orNull_congr (hfield "blockExplorerUrl" (by decide)),
    orNull_congr (hfield "theGraphUrl" (by decide))]

/-- A recognised field has no newer name. -/
theorem currentName_of_recognised (h : field ∈ recognisedFields) : currentName field = field := by
  have hall : ∀ field ∈ recognisedFields, currentName field = field := by decide
  exact hall field h

/-! ## Differences that are none -/

/-- The order of the members makes no difference, since their names are different. -/
theorem SameFields.of_perm (h : members.Perm members') (hnames : (Entries.names members).Nodup) :
    SameFields members members' := by
  intro field _
  have hget := Entries.get?_eq_of_perm h hnames
  have hfun : Entries.get? members = Entries.get? members' := funext hget
  rw [resolve, resolve, hfun]

/-- Members under names that are not recognised make no difference. -/
theorem sameFields_filter (members : Members) :
    SameFields (members.filter fun member => isRecognised member.1) members := by
  intro field hfield
  have hcurrent := currentName_of_recognised hfield
  have hrecognised : isRecognised field = true := by
    rw [isRecognised, hcurrent]
    exact List.contains_iff_mem.2 hfield
  rw [resolve, resolve, Entries.get?_filter_of_keep hrecognised]
  cases holder : olderName? field with
  | none => rfl
  | some older =>
    have hname : currentName older = field := (currentName_eq_iff hcurrent).2 (Or.inr holder)
    have hrecognised' : isRecognised older = true := by rwa [isRecognised, hname, ← hcurrent]
    rw [Option.bind_some, Option.bind_some, Entries.get?_filter_of_keep hrecognised']

/-- No member of a renamed entry has an older name. -/
theorem get?_normalize_of_olderName {older : String} (h : olderName? field = some older) :
    Entries.get? (normalize members) older = none := by
  rw [Entries.get?_eq_none_iff, Entries.names, normalize, List.map_map]
  intro hmem
  obtain ⟨member, -, hname⟩ := List.mem_map.1 hmem
  have hcurrent : currentName older = older := by
    rw [← hname]
    exact currentName_currentName member.1
  obtain ⟨hfield, hne⟩ := currentName_of_olderName? h
  exact hne (hcurrent.symm.trans hfield)

/-- Older names and shadowed members make no difference: an entry that is brought to current names
keeps the values of its fields. -/
theorem sameFields_normalize (members : Members) : SameFields (normalize members) members := by
  intro field hfield
  rw [resolve, get?_normalize members field (currentName_of_recognised hfield)]
  cases holder : olderName? field with
  | none => rw [Option.bind_none, Option.or_none]
  | some older => rw [Option.bind_some, get?_normalize_of_olderName holder, Option.or_none]

/-! ## Whole entries -/

/-- **What an entry is read as depends on its recognised fields alone.** -/
theorem network_eq_of_sameFields (name : String) :
    (∀ members members', SameFields members members' →
      network name (.object members) = network name (.object members')) ∧
    (∀ members members', members.Perm members' → (Entries.names members).Nodup →
      SameFields members members') ∧
    (∀ members, SameFields (members.filter fun member => isRecognised member.1) members) ∧
    ∀ members, SameFields (normalize members) members := by
  refine ⟨fun members members' h => ?_, fun _ _ => SameFields.of_perm, sameFields_filter,
    sameFields_normalize⟩
  rw [network, network, draft_congr name fun field hfield => ?_]
  have hcurrent := currentName_of_recognised hfield
  rw [get?_normalize members field hcurrent, get?_normalize members' field hcurrent]
  exact h field hfield

/-- An entry under older names and one under current names with a shadowed member, each beside a key
of its own. -/
theorem network_of_two_spellings :
    ∃ members members',
      Entries.get? members "privateKey" ≠ Entries.get? members' "privateKey" ∧
      Entries.get? members "chainId" = none ∧ Entries.get? members' "id" = some .null ∧
      SameFields members members' ∧
      network "gnosis" (.object members) = network "gnosis" (.object members') ∧
      ∃ n, network "gnosis" (.object members') = .ok n := by
  let members : Members :=
    [("id", .int 100), ("privateKey", .text "0x1f"), ("environment", .text "production")]
  let members' : Members :=
    [("environment", .text "production"), ("id", .null), ("chainId", .int 100),
     ("privateKey", .text "0x2e")]
  have hfields : SameFields members members' := by
    simp only [SameFields, recognisedFields, List.forall_mem_cons]
    exact ⟨rfl, rfl, rfl, rfl, rfl, rfl, rfl, rfl, rfl, nofun⟩
  refine ⟨members, members', ?_, rfl, rfl, hfields,
    (network_eq_of_sameFields "gnosis").1 members members' hfields, _, rfl⟩
  simp [members, members', Entries.get?_cons]

end Document
end ChainAtlas
