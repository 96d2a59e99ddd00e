import ChainAtlas.Document.Fields
import Mathlib.Logic.Basic
import Mathlib.Tactic.ByContra
import Mathlib.Tactic.SplitIfs

/-!
# Fields under their current and their older names

Before an entry is read it is brought to current names: members under an older name are renamed,
and those whose current name is there too are left out.  Whoever reads a field afterwards asks the
renamed entry.  `get?_normalize` says what that answer is in terms of the entry as it was written:
the value under the current name if there is one, else the value under the older name.

Nothing else about an entry matters for what is read, neither the order of its members nor those
that are left out.
-/

namespace ChainAtlas
namespace Document

/-- The older name of a field, if it has one. -/
def olderName? (field : String) : Option String :=
  if field = "chainId" then some "id"
  else if field = "blockExplorerUrl" then some "blockExplorer"
  else none

/-- The value of a field in an entry as it was written: the one under its current name, or else the
one under its older name. -/
def resolve (members : Members) (field : String) : Option Json :=
  (Entries.get? members field).or ((olderName? field).bind (Entries.get? members))

/-- The names that stand for a field are the field itself and its older name. -/
theorem currentName_eq_iff {name field : String} (h : currentName field = field) :
    currentName name = field ↔ name = field ∨ olderName? field = some name := by
  have hid : field ≠ "id" := by
    rintro rfl
    exact absurd h (by decide)
  have hexplorer : field ≠ "blockExplorer" := by
    rintro rfl
    exact absurd h (by decide)
  rw [currentName, olderName?]
  by_cases hname : name = "id"
  · rw [if_pos hname, hname]
    split_ifs with hchain hurl
    · simp [hchain]
    · simp [hurl]
    · simp [Ne.symm hchain, Ne.symm hid]
  · rw [if_neg hname]
    by_cases hname' : name = "blockExplorer"
    · rw [if_pos hname', hname']
      split_ifs with hchain hurl
      · simp [hchain]
      · simp [hurl]
      · simp [Ne.symm hurl, Ne.symm hexplorer]
    · rw [if_neg hname']
      split_ifs <;> simp [Ne.symm hname, Ne.symm hname']

/-- An older name stands for its field, and is another name than the one of the field. -/
theorem currentName_of_olderName? {field older : String} (h : olderName? field = some older) :
    currentName older = field ∧ older ≠ field := by
  rw [olderName?] at h
  split_ifs at h with hchain hurl
  · cases h
    subst hchain
    decide
  · cases h
    subst hurl
    decide

/-- Keeping some members and renaming them leaves the value of a field alone, if `key` is the only
name among the members that is kept and stands for the field. -/
theorem get?_map_filter {members : Members} (keep : String → Bool) (rename : String → String)
    {field key : String}
    (h : ∀ name ∈ Entries.names members, keep name = true ∧ rename name = field ↔ name = key) :
    Entries.get? ((members.filter fun member => keep member.1).map fun member =>
      (rename member.1, member.2)) field = Entries.get? members key := by
  induction members with
  | nil => rfl
  | cons member rest ih =>
    obtain ⟨name, value⟩ := member
    have hname := h name List.mem_cons_self
    have hrest := ih fun other hother => h other (List.mem_cons_of_mem _ hother)
    rw [Entries.get?_cons]
    by_cases hkey : name = key
    · obtain ⟨hkeep, hrename⟩ := hname.2 hkey
      rw [List.filter_cons_of_pos (by exact hkeep), List.map_cons, Entries.get?_cons,
        if_pos hrename.symm, if_pos hkey.symm]
    · rw [if_neg (Ne.symm hkey)]
      cases hkeep : keep name with
      | false =>
        rw [List.filter_cons_of_neg (by simp [hkeep]), hrest]
      | true =>
        have hother : rename name ≠ field := fun hrename => hkey (hname.1 ⟨hkeep, hrename⟩)
        rw [List.filter_cons_of_pos (by exact hkeep), List.map_cons, Entries.get?_cons,
          if_neg (Ne.symm hother), hrest]

theorem has_iff_mem_names {members : Members} {name : String} :
    Entries.has members name = true ↔ name ∈ Entries.names members := by
  rw [Entries.has, ← not_iff_not, Bool.not_eq_true, Option.isSome_eq_false_iff,
    Option.isNone_iff_eq_none, Entries.get?_eq_none_iff]

/-- **A field of a renamed entry** has the value under its current name, or else the one under its
older name. -/
theorem get?_normalize (members : Members) (field : String) (h : currentName field = field) :
    Entries.get? (normalize members) field = resolve members field := by
  unfold normalize resolve
  by_cases hfield : field ∈ Entries.names members
  · -- the older name is shadowed, so the current name is the only one that is kept
    have hsome : (Entries.get? members field).isSome := has_iff_mem_names.2 hfield
    rw [Option.or_of_isSome hsome]
    refine get?_map_filter (fun name => !isShadowed members name) currentName fun name _ => ?_
    constructor
    · rintro ⟨hkeep, hcurrent⟩
      by_contra hne
      have hshadow : isShadowed members name = true := by
        simp [isShadowed, hcurrent, has_iff_mem_names.2 hfield, Ne.symm hne]
      simp [hshadow] at hkeep
    · rintro rfl
      exact ⟨by simp [isShadowed, h], h⟩
  · have hnone : Entries.get? members field = none := Entries.get?_eq_none_iff.2 hfield
    rw [hnone, Option.none_or]
    cases holder : olderName? field with
    | none =>
      rw [Option.bind_none, ← hnone]
      refine get?_map_filter (fun name => !isShadowed members name) currentName fun name hname => ?_
      rw [currentName_eq_iff h, holder]
      have hne : name ≠ field := fun heq => hfield (heq ▸ hname)
      simp [hne]
    | some older =>
      rw [Option.bind_some]
      refine get?_map_filter (fun name => !isShadowed members name) currentName fun name hname => ?_
      rw [currentName_eq_iff h, holder, Option.some_inj]
      have hne : name ≠ field := fun heq => hfield (heq ▸ hname)
      constructor
      · rintro ⟨-, heq | rfl⟩
        · exact absurd heq hne
        · rfl
      · rintro rfl
        have hcurrent : currentName name = field := (currentName_eq_iff h).2 (Or.inr holder)
        have habsent : Entries.has members field = false := by
          rw [Bool.eq_false_iff, ne_eq, has_iff_mem_names]
          exact hfield
        exact ⟨by simp [isShadowed, hcurrent, habsent], Or.inr rfl⟩

end Document
end ChainAtlas
