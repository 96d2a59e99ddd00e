import ChainAtlas.Proofs.Document.Acceptance
import ChainAtlas.Proofs.Network.Agreement
import ChainAtlas.Proofs.Numeral.Positional
import ChainAtlas.Proofs.Registry.EntryByEntry

/-!
# Looking networks up

A registry is asked for a network by its name or by its chain ID.  The questions about names are all
answered from the entries of one directory, so they agree in any registry: the names, the networks and
what is found under a name are three views of one list (`forall₂_names_values`).  A chain ID leads to
the first network that has it (`byChainId_eq_ok_iff`).

Back and forth between the two the ways are not alike.  In a registry that was loaded every network
is held under its own name, so from a network that was found by its chain ID its name leads back to it
(`get_name`).  The other way round this is so for all networks exactly if they have different chain
IDs (`forall_byChainId_iff`), which no document has to care for.

The fault of a chain ID that no network has shows it.  One that has too many digits to be shown is
refused for this reason (`byChainId_eq_error_iff`), and so is not reported as unknown
(`byChainId_of_long_number`).
-/

namespace ChainAtlas
namespace Registry

open Document Numeral

variable {document : Json} {environment : Option String} {r : Registry} {n m : Network}
  {name : String} {c : ℤ} {fault : Fault}

/-! ## Names -/

theorem mem_iff_has : name ∈ r ↔ r.has name = true := Iff.rfl

theorem mem_names_iff : name ∈ r.names ↔ ∃ n, r.get name = .ok n := by
  rw [names, Directory.mem_names_iff]
  simp only [get_eq_ok_iff]

theorem mem_iff_mem_names : name ∈ r ↔ name ∈ r.names := by
  rw [mem_iff_has, has_eq_true_iff, mem_names_iff]

/-- The fault of a name that a registry does not have lists those that it has. -/
theorem get_of_not_mem_names (h : name ∉ r.names) :
    r.get name = .error (.noSuchNetwork name r.names) := by
  have hnone : r.networks.get? name = none := Entries.get?_eq_none_iff.2 h
  rw [get, hnone]

/-- **Names and networks are listed side by side**, each network next to the name that leads to
it. -/
theorem forall₂_names_values : List.Forall₂ (fun name n => r.get name = .ok n) r.names r.values := by
  show List.Forall₂ _ (r.networks.entries.map Prod.fst) (r.networks.entries.map Prod.snd)
  rw [List.forall₂_map_left_iff, List.forall₂_map_right_iff, List.forall₂_same]
  rintro ⟨name, n⟩ hentry
  exact get_eq_ok_iff.2 (Directory.get?_eq_some_iff.2 hentry)

/-- The names are those of the document, in order. -/
theorem names_of_ofDocument (hr : ofDocument document environment = .ok r) {members : Members}
    (hdocument : document = .object members) (hnames : (Entries.names members).Nodup) :
    r.names = Entries.names members := by
  subst hdocument
  exact Entries.Parallel.names_eq
    ((networks_eq_ok_iff_readsAs hnames).1 (ofDocument_eq_ok_iff.1 hr).1)

/-! ## Chain IDs -/

/-- Whether a network is the first one of a list with a chain ID. -/
def IsFirstWith (chainId : ℤ) (networks : List Network) (n : Network) : Prop :=
  ∃ before after, networks = before ++ n :: after ∧ n.chainId = chainId ∧
    ∀ m ∈ before, (m.chainId : ℤ) ≠ chainId

theorem IsFirstWith.mem {networks : List Network} (h : IsFirstWith c networks n) : n ∈ networks := by
  obtain ⟨before, after, rfl, -⟩ := h
  exact List.mem_append_right _ List.mem_cons_self

theorem IsFirstWith.chainId_eq {networks : List Network} (h : IsFirstWith c networks n) :
    (n.chainId : ℤ) = c := by
  obtain ⟨_, _, -, hchainId, -⟩ := h
  exact hchainId

/-- Whether no two networks of a registry have the same chain ID. -/
def HasDistinctChainIds (r : Registry) : Prop := (r.values.map Network.chainId).Nodup

/-- **A chain ID leads to the first network that has it.** -/
theorem byChainId_eq_ok_iff : r.byChainId (.int c) = .ok n ↔ IsFirstWith c r.values n := by
  have hfind : r.byChainId (.int c) = .ok n ↔
      (r.values.find? fun m => (Json.int c).equalsInt m.chainId) = some n := by
    rw [byChainId]
    cases r.values.find? fun m => (Json.int c).equalsInt m.chainId <;> simp
  rw [hfind, List.find?_eq_some_iff_append, IsFirstWith]
  simp only [Json.equalsInt_int, beq_iff_eq, Bool.not_eq_eq_eq_not, Bool.not_true,
    beq_eq_false_iff_ne, ne_eq]
  constructor
  · rintro ⟨hn, before, after, hvalues, hbefore⟩
    exact ⟨before, after, hvalues, hn.symm, fun m hm h => hbefore m hm h.symm⟩
  · rintro ⟨before, after, hvalues, hn, hbefore⟩
    exact ⟨hn.symm, before, after, hvalues, fun m hm h => hbefore m hm h.symm⟩

/-- A chain ID leads nowhere exactly if no network has it. -/
theorem byChainId_eq_error_iff : r.byChainId (.int c) = .error fault ↔
    (∀ m ∈ r.values, (m.chainId : ℤ) ≠ c) ∧ fault = unknownChainId (.int c) := by
  have hnone : (r.values.find? fun m => (Json.int c).equalsInt m.chainId) = none ↔
      ∀ m ∈ r.values, (m.chainId : ℤ) ≠ c := by
    rw [List.find?_eq_none]
    simp only [Json.equalsInt_int, beq_iff_eq, ne_eq]
    exact forall₂_congr fun m _ => not_congr eq_comm
  rw [← hnone, byChainId]
  cases r.values.find? fun m => (Json.int c).equalsInt m.chainId <;> simp [eq_comm]

theorem unknownChainId_int : unknownChainId (.int c) =
    if isShowable c then .noSuchChainId (.int c) else .longNumber := by
  rw [unknownChainId, Fault.quoting, Json.isShowable_int]

/-- A chain ID that no network has is unknown if it can be shown. -/
theorem unknownChainId_of_lt (h : c.natAbs < 10 ^ digitLimit) :
    unknownChainId (.int c) = .noSuchChainId (.int c) := by
  rw [unknownChainId_int, if_pos (isShowable_iff.2 h)]

/-- Otherwise it is refused for its length. -/
theorem unknownChainId_of_le (h : 10 ^ digitLimit ≤ c.natAbs) :
    unknownChainId (.int c) = .longNumber := by
  have hlong : ¬ isShowable c = true := by
    rw [isShowable_iff]
    exact h.not_gt
  rw [unknownChainId_int, if_neg hlong]

/-- The chain ID of a network leads to some network with it. -/
theorem exists_byChainId_of_mem (h : n ∈ r.values) :
    ∃ m, r.byChainId (.int n.chainId) = .ok m ∧ m ∈ r.values ∧ m.chainId = n.chainId := by
  cases hfound : r.byChainId (.int n.chainId) with
  | error fault => exact absurd rfl ((byChainId_eq_error_iff.1 hfound).1 n h)
  | ok m =>
    have hfirst := byChainId_eq_ok_iff.1 hfound
    exact ⟨m, rfl, hfirst.mem, Int.natCast_inj.1 hfirst.chainId_eq⟩

/-! ## Back and forth -/

/-- A registry that was loaded holds every network under its own name. -/
theorem name_of_get (hr : ofDocument document environment = .ok r) (hn : r.get name = .ok n) :
    n.name = name := by
  obtain ⟨members, value, -, -, hread⟩ := exists_network_of_get hr hn
  exact (name_and_chainId_of_network hread).1

/-- The name of a network leads back to it. -/
theorem get_name (hr : ofDocument document environment = .ok r) (h : n ∈ r.values) :
    r.get n.name = .ok n := by
  obtain ⟨key, hkey⟩ := mem_values_iff.1 h
  rw [name_of_get hr hkey]
  exact hkey

theorem hasDistinctChainIds_iff : r.HasDistinctChainIds ↔ ∀ key key' n n', r.get key = .ok n →
    r.get key' = .ok n' → n.chainId = n'.chainId → key = key' := by
  have hmem : ∀ key n, (key, n) ∈ r.networks.entries ↔ r.get key = .ok n := by
    intro key n
    rw [get_eq_ok_iff, Directory.get?_eq_some_iff]
  rw [HasDistinctChainIds, values, Directory.values, List.map_map,
    List.nodup_map_iff_inj_on r.networks.nodup_entries]
  constructor
  · intro h key key' n n' hn hn' hsame
    exact congrArg Prod.fst (h _ ((hmem key n).2 hn) _ ((hmem key' n').2 hn') hsame)
  · rintro h ⟨key, n⟩ hentry ⟨key', n'⟩ hentry' hsame
    have hn := (hmem key n).1 hentry
    have hn' := (hmem key' n').1 hentry'
    obtain rfl : key = key' := h key key' n n' hn hn' hsame
    rw [hn, Except.ok.injEq] at hn'
    rw [hn']

/-- Among networks with different chain IDs, the chain ID of one leads back to it. -/
theorem byChainId_of_get (h : r.HasDistinctChainIds) (hn : r.get name = .ok n) :
    r.byChainId (.int n.chainId) = .ok n := by
  obtain ⟨m, hm, hmem, hchainId⟩ := exists_byChainId_of_mem (mem_values_iff.2 ⟨name, hn⟩)
  obtain ⟨key, hkey⟩ := mem_values_iff.1 hmem
  obtain rfl : key = name := hasDistinctChainIds_iff.1 h key name m n hkey hn hchainId
  rw [hkey, Except.ok.injEq] at hn
  rw [hm, hn]

/-- **The chain IDs lead back to all networks exactly if they are different.** -/
theorem forall_byChainId_iff (hr : ofDocument document environment = .ok r) :
    (∀ name n, r.get name = .ok n →
      ∃ m, r.byChainId (.int n.chainId) = .ok m ∧ m.agrees n = true) ↔ r.HasDistinctChainIds := by
  constructor
  · intro h
    refine hasDistinctChainIds_iff.2 fun key key' n n' hn hn' hsame => ?_
    obtain ⟨m, hm, hagrees⟩ := h key n hn
    obtain ⟨m', hm', hagrees'⟩ := h key' n' hn'
    obtain rfl : m = m' := by rwa [← hsame, hm, Except.ok.injEq] at hm'
    -- one network agrees with both, so they have its name
    calc key = n.name := (name_of_get hr hn).symm
      _ = m.name := (Network.name_eq_of_agrees hagrees).symm
      _ = n'.name := Network.name_eq_of_agrees hagrees'
      _ = key' := name_of_get hr hn'
  · intro h name n hn
    exact ⟨n, byChainId_of_get h hn, n.agrees_refl⟩

/-- **All lookups of a registry that was loaded rest on one list of networks.**  The ways to ask for a
name agree, the listings agree, and so do names and chain IDs as far as the chain IDs are different.
A chain ID that no network has is unknown, unless it has too many digits. -/
theorem lookups_of_ofDocument (document : Json) (environment : Option String) (r : Registry)
    (hr : ofDocument document environment = .ok r) :
    (∀ name, (name ∈ r ↔ r.has name = true) ∧ (name ∈ r.names ↔ r.has name = true) ∧
      ((∃ n, r.get name = .ok n) ↔ r.has name = true) ∧
      (r.has name = false → ∃ fault, r.get name = .error fault ∧ fault.kind = .unknownNetwork)) ∧
    (r.size = r.names.length ∧ r.names.Nodup ∧
      List.Forall₂ (fun name n => r.get name = .ok n) r.names r.values ∧
      ∀ members, document = .object members → (Entries.names members).Nodup →
        r.names = Entries.names members) ∧
    (∀ c : ℤ, (∀ n, r.byChainId (.int c) = .ok n ↔ IsFirstWith c r.values n) ∧
      (c.natAbs < 10 ^ digitLimit →
        ((∃ fault, r.byChainId (.int c) = .error fault ∧ fault.kind = .unknownNetwork) ↔
          ∀ n ∈ r.values, (n.chainId : ℤ) ≠ c)) ∧
      (10 ^ digitLimit ≤ c.natAbs →
        (r.byChainId (.int c) = .error .longNumber ↔ ∀ n ∈ r.values, (n.chainId : ℤ) ≠ c)) ∧
      ∀ n, r.byChainId (.int c) = .ok n → r.get n.name = .ok n) ∧
    ((∀ name n, r.get name = .ok n →
      ∃ m, r.byChainId (.int n.chainId) = .ok m ∧ m.agrees n = true) ↔ r.HasDistinctChainIds) := by
  refine ⟨?_, ⟨?_, r.networks.nodup, forall₂_names_values, fun members => names_of_ofDocument hr⟩,
    ?_, forall_byChainId_iff hr⟩
  · intro name
    refine ⟨mem_iff_has, mem_iff_mem_names.symm, has_eq_true_iff.symm, ?_⟩
    intro hhas
    have hname : name ∉ r.names := by
      rw [← mem_iff_mem_names, mem_iff_has, hhas]
      exact Bool.false_ne_true
    exact ⟨_, get_of_not_mem_names hname, rfl⟩
  · exact (List.length_map _).symm
  · intro c
    refine ⟨fun n => byChainId_eq_ok_iff, ?_, ?_, ?_⟩
    · intro hshort
      constructor
      · rintro ⟨fault, hfault, -⟩
        exact (byChainId_eq_error_iff.1 hfault).1
      · intro hnone
        exact ⟨_, byChainId_eq_error_iff.2 ⟨hnone, (unknownChainId_of_lt hshort).symm⟩, rfl⟩
    · intro hlong
      constructor
      · intro hfault
        exact (byChainId_eq_error_iff.1 hfault).1
      · intro hnone
        exact byChainId_eq_error_iff.2 ⟨hnone, (unknownChainId_of_le hlong).symm⟩
    · intro n hn
      exact get_name hr (byChainId_eq_ok_iff.1 hn).mem

/-- Two networks with one chain ID, which leads to the first of them only. -/
theorem lookups_of_shared_chainId :
    ∃ document r main test, ofDocument document none = .ok r ∧ r.names = ["main", "test"] ∧
      "test" ∈ r ∧ r.get "main" = .ok main ∧ r.get "test" = .ok test ∧
      r.byChainId (.int 1) = .ok main ∧ ¬ r.HasDistinctChainIds ∧
      (∃ fault, r.get "dev" = .error fault ∧ fault.kind = .unknownNetwork) ∧
      ∃ fault, r.byChainId (.int 2) = .error fault ∧ fault.kind = .unknownNetwork := by
  let entry : Json := .object [("chainId", .int 1), ("environment", .text "local")]
  let document : Json := .object [("main", entry), ("test", entry)]
  obtain ⟨r, hr, hchainIds⟩ : ∃ r, ofDocument document none = .ok r ∧
      r.values.map Network.chainId = [1, 1] := ⟨_, rfl, rfl⟩
  obtain ⟨hlookups, ⟨-, -, hlisted, horder⟩, hchainId, -⟩ :=
    lookups_of_ofDocument document none r hr
  have hnames : r.names = ["main", "test"] := horder _ rfl (by decide)
  obtain ⟨main, test, hvalues, hmain, htest⟩ : ∃ main test, r.values = [main, test] ∧
      r.get "main" = .ok main ∧ r.get "test" = .ok test := by
    rw [hnames, List.forall₂_cons_left_iff] at hlisted
    obtain ⟨main, rest, hmain, hrest, hvalues⟩ := hlisted
    obtain ⟨test, _, htest, hnil, rfl⟩ := List.forall₂_cons_left_iff.1 hrest
    rw [List.forall₂_nil_left_iff.1 hnil] at hvalues
    exact ⟨main, test, hvalues, hmain, htest⟩
  have hid : ∀ n ∈ r.values, n.chainId = 1 := by
    intro n hn
    simpa [hchainIds] using List.mem_map_of_mem (f := Network.chainId) hn
  have hother : ∀ n ∈ r.values, (n.chainId : ℤ) ≠ 2 := by
    intro n hn
    rw [hid n hn]
    decide
  refine ⟨document, r, main, test, hr, hnames, ?_, hmain, htest, ?_, ?_, ?_, ?_⟩
  · exact (hlookups "test").1.2 ((hlookups "test").2.2.1.1 ⟨test, htest⟩)
  · refine ((hchainId 1).1 main).2 ⟨[], [test], hvalues, ?_, nofun⟩
    rw [hid main (by rw [hvalues]; exact List.mem_cons_self)]
    rfl
  · rw [HasDistinctChainIds, hchainIds]
    decide
  · have hdev : "dev" ∉ r.names := by rw [hnames]; decide
    exact (hlookups "dev").2.2.2 (Bool.eq_false_iff.2 fun hhas => hdev ((hlookups "dev").2.1.2 hhas))
  · exact ((hchainId 2).2.1 (lt_pow_digitLimit (by decide))).2 hother

/-- A chain ID that no network has is not reported as unknown if it has too many digits. -/
theorem byChainId_of_long_number :
    ¬ ∀ (document : Json) (environment : Option String) (r : Registry),
      ofDocument document environment = .ok r → ∀ c : ℤ, (∀ n ∈ r.values, (n.chainId : ℤ) ≠ c) →
        ∃ fault, r.byChainId (.int c) = .error fault ∧ fault.kind = .unknownNetwork := by
  intro h
  have hshort : ∀ c : ℤ, ¬ 10 ^ digitLimit ≤ c.natAbs := by
    intro c hlong
    obtain ⟨fault, hfault, hkind⟩ := h (.object []) none ⟨.empty, none⟩ rfl c nofun
    rw [(byChainId_eq_error_iff.1 hfault).2, unknownChainId_of_le hlong] at hkind
    cases hkind
  exact hshort ((10 ^ digitLimit : ℕ) : ℤ) (Int.natAbs_natCast _).ge

end Registry
end ChainAtlas
