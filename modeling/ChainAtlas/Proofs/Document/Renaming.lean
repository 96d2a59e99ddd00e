import ChainAtlas.Proofs.Document.Names
import Mathlib.Data.List.Nodup

/-!
# Bringing an entry to current names

`normalize` is said in two steps: leave out the members that are shadowed, then rename the others.
Another way to the same is one pass over the members that writes each of them under its current name
and looks ahead for those that are shadowed.  In such a pass two members might meet under one name,
and then the later one would take the place of the earlier one.  `currentName_inj_of_kept` says that
they never do: of two members for one field, the one with the older name is shadowed.  So each turn
of the pass adds a member at the end (`writeCurrent_renamed`), and the pass as a whole writes what
`normalize` says (`foldl_writeCurrent`).

That members which are kept stay under different names is the same fact once more
(`nodup_names_normalize`).  Since nothing that is written has an older name, bringing an entry to
current names twice is the same as doing it once (`normalize_normalize`).
-/

namespace ChainAtlas
namespace Document

variable {members part : Members} {name field : String}

/-! ## Which members are left out -/

/-- A member is shadowed when its name is the older name of a field that is there as well. -/
theorem isShadowed_iff : isShadowed members name = true ↔
    ∃ field, olderName? field = some name ∧ field ∈ Entries.names members := by
  rw [isShadowed, Bool.and_eq_true, decide_eq_true_eq, has_iff_mem_names]
  constructor
  · rintro ⟨hne, hmem⟩
    have hstands := (currentName_eq_iff (currentName_currentName name)).1 rfl
    exact ⟨_, hstands.resolve_left fun heq => hne heq.symm, hmem⟩
  · rintro ⟨field, holder, hmem⟩
    obtain ⟨rfl, hne⟩ := currentName_of_olderName? holder
    exact ⟨hne.symm, hmem⟩

/-- A member that is kept stands under the current name if any member does. -/
theorem eq_of_kept (hkept : isShadowed members name = false)
    (hmem : currentName name ∈ Entries.names members) : currentName name = name := by
  by_contra hne
  have hshadow : isShadowed members name = true := by
    rw [isShadowed, Bool.and_eq_true, decide_eq_true_eq, has_iff_mem_names]
    exact ⟨hne, hmem⟩
  rw [hkept] at hshadow
  cases hshadow

/-- **Members that are kept never meet under one name.** -/
theorem currentName_inj_of_kept {a b : String} (ha : a ∈ Entries.names members)
    (hb : b ∈ Entries.names members) (hakept : isShadowed members a = false)
    (hbkept : isShadowed members b = false) (h : currentName a = currentName b) : a = b := by
  by_cases hcurrent : currentName a ∈ Entries.names members
  · rw [← eq_of_kept hakept hcurrent, ← eq_of_kept hbkept (h ▸ hcurrent), h]
  · -- neither name is current, so both are the older name of one field
    have hout : ∀ {c}, c ∈ Entries.names members → currentName c = currentName a →
        olderName? (currentName a) = some c := fun hc hstands =>
      ((currentName_eq_iff (currentName_currentName a)).1 hstands).resolve_left
        fun heq => hcurrent (heq ▸ hc)
    exact Option.some.inj ((hout ha rfl).symm.trans (hout hb h.symm))

/-! ## One pass over the members -/

/-- Part of the members of an entry under current names, without those that are shadowed in the
entry. -/
def renamed (members part : Members) : Members :=
  (part.filter fun member => !isShadowed members member.1).map fun member =>
    (currentName member.1, member.2)

/-- One turn of a pass over the members of an entry: write a member under its current name into what
is written already, unless the member is shadowed. -/
def writeCurrent (members written : Members) (member : String × Json) : Members :=
  if isShadowed members member.1 then written
  else Entries.put written (currentName member.1) member.2

theorem mem_names_renamed : name ∈ Entries.names (renamed members part) ↔
    ∃ old ∈ Entries.names part, isShadowed members old = false ∧ currentName old = name := by
  simp only [Entries.names, renamed, List.map_map, List.mem_map, List.mem_filter,
    Bool.not_eq_true', Function.comp_apply]
  constructor
  · rintro ⟨member, ⟨hmem, hkept⟩, rfl⟩
    exact ⟨member.1, ⟨member, hmem, rfl⟩, hkept, rfl⟩
  · rintro ⟨_, ⟨member, hmem, rfl⟩, hkept, rfl⟩
    exact ⟨member, ⟨hmem, hkept⟩, rfl⟩

/-- Each turn adds a member at the end, or nothing. -/
theorem writeCurrent_renamed {member : String × Json} (hpart : part ++ [member] ⊆ members)
    (hnames : (Entries.names (part ++ [member])).Nodup) :
    writeCurrent members (renamed members part) member = renamed members (part ++ [member]) := by
  cases hshadow : isShadowed members member.1 with
  | true => simp [writeCurrent, renamed, hshadow]
  | false =>
    have hnew : currentName member.1 ∉ Entries.names (renamed members part) := by
      intro hmem
      obtain ⟨old, hold, hkept, hmeet⟩ := mem_names_renamed.1 hmem
      have hnames' : Entries.names part ⊆ Entries.names members :=
        List.map_subset _ (List.append_subset.1 hpart).1
      have hmember : member.1 ∈ Entries.names members :=
        List.mem_map_of_mem (hpart (List.mem_append_right _ List.mem_cons_self))
      have hsame := currentName_inj_of_kept (hnames' hold) hmember hkept hshadow hmeet
      rw [Entries.names, List.map_append, List.nodup_append] at hnames
      exact hnames.2.2 old hold member.1 List.mem_cons_self hsame
    rw [writeCurrent, hshadow, if_neg Bool.false_ne_true, Entries.put_of_not_mem hnew]
    simp [renamed, hshadow]

/-- **The pass writes the entry under current names.** -/
theorem foldl_writeCurrent (hnames : (Entries.names members).Nodup) :
    members.foldl (writeCurrent members) [] = normalize members := by
  have hrun : ∀ rest part, part ++ rest = members →
      rest.foldl (writeCurrent members) (renamed members part) = normalize members := by
    intro rest
    induction rest with
    | nil =>
      rintro part rfl
      rw [List.append_nil]
      rfl
    | cons member rest ih =>
      intro part hsplit
      have hsplit' : part ++ [member] ++ rest = members := by
        rw [List.append_assoc]
        exact hsplit
      have hturn : (Entries.names (part ++ [member])).Nodup := by
        rw [← hsplit', Entries.names, List.map_append] at hnames
        exact hnames.of_append_left
      rw [List.foldl_cons, writeCurrent_renamed (hsplit' ▸ List.subset_append_left _ _) hturn]
      exact ih _ hsplit'
  exact hrun members [] rfl

/-! ## What an entry is like under current names -/

theorem nodup_names_normalize (hnames : (Entries.names members).Nodup) :
    (Entries.names (normalize members)).Nodup := by
  have hkept : ((members.filter fun member => !isShadowed members member.1).map Prod.fst).Nodup :=
    hnames.sublist (List.filter_sublist.map _)
  rw [normalize, Entries.names, List.map_map]
  refine (List.nodup_map_iff_inj_on hkept.of_map).2 fun a ha b hb hmeet => ?_
  simp only [List.mem_filter, Bool.not_eq_true'] at ha hb
  have hsame : a.1 = b.1 := currentName_inj_of_kept (List.mem_map_of_mem ha.1)
    (List.mem_map_of_mem hb.1) ha.2 hb.2 hmeet
  exact List.inj_on_of_nodup_map hnames ha.1 hb.1 hsame

/-- No member has an older name. -/
theorem currentName_of_mem_normalize (h : name ∈ Entries.names (normalize members)) :
    currentName name = name := by
  obtain ⟨old, -, -, rfl⟩ := mem_names_renamed.1 h
  exact currentName_currentName old

/-- An entry without older names stays as it is. -/
theorem normalize_of_current (h : ∀ name ∈ Entries.names members, currentName name = name) :
    normalize members = members := by
  have hcurrent : ∀ member ∈ members, currentName member.1 = member.1 := fun member hmem =>
    h member.1 (List.mem_map_of_mem hmem)
  have hkept : members.filter (fun member => !isShadowed members member.1) = members :=
    List.filter_eq_self.2 fun member hmem => by simp [isShadowed, hcurrent member hmem]
  have hsame : members.map (fun member => (currentName member.1, member.2)) = members.map id :=
    List.map_congr_left fun member hmem => by rw [hcurrent member hmem, id_eq]
  rw [normalize, hkept, hsame, List.map_id]

theorem normalize_normalize (members : Members) :
    normalize (normalize members) = normalize members :=
  normalize_of_current fun _ => currentName_of_mem_normalize

/-- A name that has nothing to do with an older name keeps its value. -/
theorem get?_normalize_of_other (hfield : olderName? name = none)
    (hother : ∀ field, olderName? field ≠ some name) :
    Entries.get? (normalize members) name = Entries.get? members name := by
  have hcurrent : currentName name = name :=
    (((currentName_eq_iff (currentName_currentName name)).1 rfl).resolve_right (hother _)).symm
  rw [get?_normalize members name hcurrent, resolve, hfield, Option.bind_none, Option.or_none]

/-- **An entry is brought to current names faithfully.**  Different names stay different and none of
them is an older one.  A field with an older name has the value under its own name, whatever this
value is, or else the one under the older name; under every other name there is what was there
before.  The members are those of the entry in their order, renamed, and only those are missing whose
names are older names of fields that are there as well.  A second time changes nothing, and one pass
that writes each member under its current name comes to the same. -/
theorem normalize_faithful (members : Members) (hnames : (Entries.names members).Nodup) :
    (Entries.names (normalize members)).Nodup ∧
    (∀ field older, olderName? field = some older →
      older ∉ Entries.names (normalize members) ∧
      Entries.get? (normalize members) field =
        (Entries.get? members field).or (Entries.get? members older)) ∧
    (∀ name, olderName? name = none → (∀ field, olderName? field ≠ some name) →
      Entries.get? (normalize members) name = Entries.get? members name) ∧
    (∃ kept : Members, kept.Sublist members ∧
      normalize members = kept.map (fun member => (currentName member.1, member.2)) ∧
      ∀ member ∈ members, member ∉ kept ↔
        ∃ field, olderName? field = some member.1 ∧ field ∈ Entries.names members) ∧
    normalize (normalize members) = normalize members ∧
    members.foldl (writeCurrent members) [] = normalize members := by
  refine ⟨nodup_names_normalize hnames, fun field older holder => ⟨fun hmem => ?_, ?_⟩,
    fun name => get?_normalize_of_other, ?_, normalize_normalize members,
    foldl_writeCurrent hnames⟩
  · obtain ⟨hfield, hne⟩ := currentName_of_olderName? holder
    exact hne ((currentName_of_mem_normalize hmem).symm.trans hfield)
  · have hcurrent : currentName field = field := by
      rw [← (currentName_of_olderName? holder).1, currentName_currentName]
    rw [get?_normalize members field hcurrent, resolve, holder, Option.bind_some]
  · refine ⟨_, List.filter_sublist, rfl, fun member hmem => ?_⟩
    rw [← isShadowed_iff, List.mem_filter, and_iff_right hmem, Bool.not_eq_true', Bool.not_eq_false]

/-- A chain ID under both names with null under the current one, behind the older one; a block
explorer under its older name only; and a member that no older name has to do with. -/
theorem normalize_of_mixed_names :
    ∃ members : Members,
      members = [("id", .int 137), ("rpcEndpoints", .list []), ("blockExplorer", .text "u"),
        ("chainId", .null)] ∧ (Entries.names members).Nodup ∧
      normalize members =
        [("rpcEndpoints", .list []), ("blockExplorerUrl", .text "u"), ("chainId", .null)] ∧
      Entries.get? (normalize members) "chainId" = some .null ∧
      members.foldl (writeCurrent members) [] = normalize members := by
  have hnames : (["id", "rpcEndpoints", "blockExplorer", "chainId"] : List String).Nodup := by
    decide
  obtain ⟨-, hfields, -, -, -, hpass⟩ := normalize_faithful
    [("id", .int 137), ("rpcEndpoints", .list []), ("blockExplorer", .text "u"),
      ("chainId", .null)] hnames
  exact ⟨_, rfl, hnames, rfl, (hfields "chainId" "id" rfl).2, hpass⟩

end Document
end ChainAtlas
