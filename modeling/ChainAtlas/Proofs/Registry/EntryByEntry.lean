import ChainAtlas.Proofs.Directory
import ChainAtlas.Proofs.Outcome
import ChainAtlas.Registry.Load

/-!
# A document is loaded entry by entry

A document is an object, and every member of it is read as a network on its own.  Loading the
document is nothing more than that: `ReadsAs` relates the members of a document to the networks that
are read from them, one from each and in order, and a registry holds exactly these
(`ofDocument_eq_ok_iff`).  So there is a registry if and only if every member makes a network, and
otherwise the fault is that of the first member that makes none, whatever stands behind it
(`networks_object_eq_error_iff`).

Members of one object stand under different names.  `networks_object_eq_ok_iff` does without this,
and says of a list of members with repeated names that the registry has the directory of its
networks.
-/

namespace ChainAtlas
namespace Document

open Outcome

/-- Whether networks are read from the members of a document, one from each of them. -/
def ReadsAs (members : Members) (read : Entries Network) : Prop :=
  Entries.Parallel (fun name value n => network name value = .ok n) members read

variable {document : Json} {members : Members} {directory : Directory Network} {fault : Fault}

theorem networks_object_eq_ok_iff : networks (.object members) = .ok directory ↔
    ∃ read, ReadsAs members read ∧ Directory.ofList read = directory := by
  rw [networks, bind_eq_ok_iff]
  refine exists_congr fun read => and_congr ?_ ?_
  · rw [mapM_eq_ok_iff, ReadsAs, Entries.Parallel]
    simp only [bind_pure_pair_eq_ok_iff]
  · show Except.ok (Directory.ofList read) = Except.ok directory ↔ _
    rw [Except.ok.injEq]

/-- Under different names, the networks of a document are those of its members, in order. -/
theorem networks_eq_ok_iff_readsAs (hnames : (Entries.names members).Nodup) :
    networks (.object members) = .ok directory ↔ ReadsAs members directory.entries := by
  have hentries : ∀ {read}, ReadsAs members read → (Directory.ofList read).entries = read := by
    intro read hread
    refine Directory.entries_ofList ?_
    rw [Entries.Parallel.names_eq hread]
    exact hnames
  rw [networks_object_eq_ok_iff]
  constructor
  · rintro ⟨read, hread, rfl⟩
    rwa [hentries hread]
  · intro hread
    refine ⟨directory.entries, hread, ?_⟩
    have hsame := hentries hread
    cases hlist : Directory.ofList directory.entries
    cases directory
    simp_all

/-- **The fault of a document is that of the first member that makes no network.** -/
theorem networks_object_eq_error_iff : networks (.object members) = .error fault ↔
    ∃ before name value after, members = before ++ (name, value) :: after ∧
      (∀ entry ∈ before, ∃ n, network entry.1 entry.2 = .ok n) ∧
        network name value = .error fault := by
  simp only [networks, bind_eq_error_iff, mapM_eq_error_iff, exists_bind_pure_eq_ok_iff,
    pure_eq_error_iff, and_false, exists_false, or_false]
  constructor
  · rintro ⟨before, ⟨name, value⟩, after, hmembers, hbefore, hfault⟩
    exact ⟨before, name, value, after, hmembers, hbefore, hfault⟩
  · rintro ⟨before, name, value, after, hmembers, hbefore, hfault⟩
    exact ⟨before, (name, value), after, hmembers, hbefore, hfault⟩

end Document

namespace Registry

open Outcome Document

variable {document : Json} {environment : Option String} {r : Registry} {fault : Fault}

theorem ofDocument_eq_ok_iff : ofDocument document environment = .ok r ↔
    Document.networks document = .ok r.networks ∧ r.environment = environment := by
  rw [ofDocument, bind_eq_ok_iff]
  constructor
  · rintro ⟨networks, hnetworks, hr⟩
    cases hr
    exact ⟨hnetworks, rfl⟩
  · rintro ⟨hnetworks, rfl⟩
    exact ⟨r.networks, hnetworks, rfl⟩

theorem ofDocument_eq_error_iff : ofDocument document environment = .error fault ↔
    Document.networks document = .error fault := by
  rw [ofDocument, bind_eq_error_iff]
  simp only [pure_eq_error_iff, and_false, exists_false, or_false]

/-- What a registry finds under a name, in terms of its directory. -/
theorem get_eq_ok_iff {name : String} {n : Network} :
    r.get name = .ok n ↔ r.networks.get? name = some n := by
  rw [get]
  cases r.networks.get? name <;> simp

theorem mem_values_iff {n : Network} : n ∈ r.values ↔ ∃ key, r.get key = .ok n := by
  simp only [values, Directory.values, List.mem_map, get_eq_ok_iff, Directory.get?_eq_some_iff]
  constructor
  · rintro ⟨⟨key, held⟩, hmem, rfl⟩
    exact ⟨key, hmem⟩
  · rintro ⟨key, hmem⟩
    exact ⟨(key, n), hmem, rfl⟩

/-- Under whatever key a network is held, it is read from a member under this key. -/
theorem exists_network_of_get (hr : ofDocument document environment = .ok r) {key : String}
    {n : Network} (hn : r.get key = .ok n) :
    ∃ members value, document = .object members ∧ (key, value) ∈ members ∧
      network key value = .ok n := by
  obtain ⟨hnetworks, -⟩ := ofDocument_eq_ok_iff.1 hr
  cases document with
  | object members =>
    obtain ⟨read, hread, hlist⟩ := networks_object_eq_ok_iff.1 hnetworks
    have hheld : (key, n) ∈ r.networks.entries := Directory.get?_eq_some_iff.1 (get_eq_ok_iff.1 hn)
    rw [← hlist] at hheld
    obtain ⟨value, hmem, hvalue⟩ :=
      Entries.Parallel.exists_of_mem hread (Directory.mem_of_mem_ofList hheld)
    exact ⟨members, value, rfl, hmem, hvalue⟩
  | _ => cases hnetworks

/-- **A network under a name of the document is the one that its own member is read as.** -/
theorem get_of_readsAs {members : Members} (h : ReadsAs members r.networks.entries) {name : String}
    {value : Json} (hvalue : Entries.get? members name = some value) :
    r.get name = network name value := by
  obtain ⟨n, hget, hn⟩ := exists_eq_some_of_rel (h.rel_get? name) hvalue
  rw [hn, get_eq_ok_iff]
  exact hget

/-- There is a registry when every member is read as a network. -/
theorem exists_ofDocument_eq_ok_iff {members : Members} (hnames : (Entries.names members).Nodup) :
    (∃ r, ofDocument (.object members) environment = .ok r) ↔
      ∀ name value, Entries.get? members name = some value →
        ∃ n, network name value = .ok n := by
  constructor
  · rintro ⟨r, hr⟩ name value hvalue
    have hread := (networks_eq_ok_iff_readsAs hnames).1 (ofDocument_eq_ok_iff.1 hr).1
    obtain ⟨n, -, hn⟩ := exists_eq_some_of_rel (hread.rel_get? name) hvalue
    exact ⟨n, hn⟩
  · intro hall
    cases hr : ofDocument (.object members) environment with
    | ok r => exact ⟨r, rfl⟩
    | error fault =>
      obtain ⟨before, name, value, after, hmembers, -, hfault⟩ :=
        networks_object_eq_error_iff.1 (ofDocument_eq_error_iff.1 hr)
      have hmem : (name, value) ∈ members := by
        rw [hmembers]
        exact List.mem_append_right _ List.mem_cons_self
      obtain ⟨n, hn⟩ := hall name value ((Entries.get?_eq_some_iff hnames).2 hmem)
      rw [hfault] at hn
      cases hn

/-- **A document is loaded entry by entry.**  There is a registry exactly when every member is read
as a network; it has the names of the members in their order, and under each of them what the member
is read as.  Otherwise the fault is that of the first member which has one. -/
theorem ofDocument_entry_by_entry (members : Members) (hnames : (Entries.names members).Nodup)
    (environment : Option String) :
    ((∃ r, ofDocument (.object members) environment = .ok r) ↔
      ∀ name value, Entries.get? members name = some value →
        ∃ n, network name value = .ok n) ∧
    (∀ r, ofDocument (.object members) environment = .ok r →
      r.names = Entries.names members ∧ r.environment = environment ∧
        ∀ name value, Entries.get? members name = some value →
          r.get name = network name value) ∧
    ∀ fault, ofDocument (.object members) environment = .error fault ↔
      ∃ before name value after, members = before ++ (name, value) :: after ∧
        (∀ entry ∈ before, ∃ n, network entry.1 entry.2 = .ok n) ∧
          network name value = .error fault := by
  refine ⟨exists_ofDocument_eq_ok_iff hnames, ?_, fun fault => ?_⟩
  · intro r hr
    obtain ⟨hnetworks, henvironment⟩ := ofDocument_eq_ok_iff.1 hr
    have hread := (networks_eq_ok_iff_readsAs hnames).1 hnetworks
    exact ⟨hread.names_eq, henvironment, fun name value hvalue => get_of_readsAs hread hvalue⟩
  · rw [ofDocument_eq_error_iff, networks_object_eq_error_iff]

/-- An entry that is read, and behind it two that are not: the first of these is reported. -/
theorem ofDocument_of_bad_entries :
    ∃ dev : Json, (Entries.names [("dev", dev), ("empty", .object []), ("none", .null)]).Nodup ∧
      ofDocument (.object [("dev", dev), ("empty", .object []), ("none", .null)]) none =
        .error (.missingField "empty" "chainId") ∧
      ∃ r n, ofDocument (.object [("dev", dev)]) none = .ok r ∧ r.names = ["dev"] ∧
        r.get "dev" = .ok n ∧ network "dev" dev = .ok n := by
  let dev : Json := .object [("chainId", .int 1), ("environment", .text "local")]
  have hnames : (Entries.names [("dev", dev), ("empty", .object []), ("none", .null)]).Nodup := by
    decide
  have hname : (Entries.names [("dev", dev)]).Nodup := by decide
  obtain ⟨n, hn⟩ : ∃ n, network "dev" dev = .ok n := ⟨_, rfl⟩
  have hfault := ((ofDocument_entry_by_entry _ hnames none).2.2 _).2
    ⟨[("dev", dev)], "empty", .object [], _, rfl, List.forall_mem_singleton.2 ⟨n, hn⟩, rfl⟩
  obtain ⟨r, hr⟩ : ∃ r, ofDocument (.object [("dev", dev)]) none = .ok r := ⟨_, rfl⟩
  obtain ⟨hread, -, hget⟩ := (ofDocument_entry_by_entry _ hname none).2.1 r hr
  exact ⟨dev, hnames, hfault, r, n, hr, hread, (hget "dev" dev rfl).trans hn, hn⟩

end Registry
end ChainAtlas
