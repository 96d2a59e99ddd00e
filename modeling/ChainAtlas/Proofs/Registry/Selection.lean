import ChainAtlas.Proofs.Catalog

/-!
# Which environments can be selected

There are two ways to a shipped document by the name of an environment.  A caller may name it, and
then every environment that ships is accepted; or a variable names it, and then two of them are.
Both compare the name as a text with a list of names.  No path is made from a name that is not on the
list, so a text that leads somewhere when it is taken for a path is as unknown as any other
(`load_of_isPathLike`).

What ships can be read (`exists_load_of_mem_environments`), so naming an environment that ships never
fails.  That the variable never fails either where it has one of its two values is the fact that both
of them ship.
-/

namespace ChainAtlas
namespace Registry

open Outcome

variable {s v : String} {r : Registry} {document : Json} {env env' : Variables}

/-! ## By name -/

/-- The environments are the names of the documents, apart from that of the default one. -/
theorem mem_environments_iff :
    s ∈ Catalog.environments ↔ s ∈ Catalog.documents.names ∧ s ≠ Catalog.defaultName := by
  have hdefault : Catalog.defaultName ∉ Catalog.environments := by decide
  have hnames : Catalog.documents.names = Catalog.defaultName :: Catalog.environments := rfl
  rw [hnames, List.mem_cons]
  constructor
  · intro hs
    exact ⟨Or.inr hs, fun h => hdefault (h ▸ hs)⟩
  · rintro ⟨hs, hne⟩
    exact hs.resolve_left hne

/-- A name of no environment is refused, and the environments that there are are shown. -/
theorem load_of_not_mem (hs : s ∉ Catalog.environments) :
    load (some s) = .error (.noSuchEnvironment s Catalog.environments) := by
  have hnone : Catalog.byEnvironment.get? s = none := Entries.get?_eq_none_iff.2 hs
  rw [load, hnone]

/-- **What ships can be read.** -/
theorem exists_load_of_mem_environments (hs : s ∈ Catalog.environments) :
    ∃ r, load (some s) = .ok r := by
  have hall : Catalog.environments.all (fun s => (load (some s)).isOk) = true := by decide +kernel
  have hok := List.all_eq_true.1 hall s hs
  cases hload : load (some s) with
  | ok r => exact ⟨r, rfl⟩
  | error fault =>
    rw [hload] at hok
    cases hok

theorem exists_load_iff : (∃ r, load (some s) = .ok r) ↔ s ∈ Catalog.environments := by
  refine ⟨?_, exists_load_of_mem_environments⟩
  rintro ⟨r, hr⟩
  by_contra hs
  rw [load_of_not_mem hs] at hr
  cases hr

/-- What is loaded by name records the name. -/
theorem environment_of_load (hr : load (some s) = .ok r) : r.environment = some s := by
  obtain ⟨document, -, hdocument⟩ := Catalog.exists_isShipped_of_load hr
  exact (ofDocument_eq_ok_iff.1 hdocument).2

/-- Whether a text has a character that separates the parts of a path or of the name of a file. -/
def isPathLike (s : String) : Bool := s.toList.any fun c => c == '/' || c == '\\' || c == '.'

/-- **No path is taken for an environment**, wherever it leads. -/
theorem load_of_isPathLike (hs : isPathLike s = true) :
    load (some s) = .error (.noSuchEnvironment s Catalog.environments) := by
  have hplain : Catalog.environments.any isPathLike = false := by decide
  exact load_of_not_mem fun hmem => absurd hs (List.any_eq_false.1 hplain s hmem)

example : load (some "../data/production") =
    .error (.noSuchEnvironment "../data/production" ["development", "production"]) :=
  load_of_isPathLike (by decide)

/-! ## By variable -/

/-- One variable selects. -/
theorem loadSelected_congr (h : env selector = env' selector) :
    loadSelected env = loadSelected env' := by
  rw [loadSelected, loadSelected, Variables.value?, Variables.value?, h]

theorem loadSelected_of_unset (h : env selector = none ∨ env selector = some "") :
    loadSelected env = .error (.selectorMissing selectable) := by
  rw [loadSelected, Variables.value?_eq_none_iff.2 h]

/-- The variable selects among its own environments, and it selects what their names lead to. -/
theorem loadSelected_of_value (hv : env selector = some v) (hne : v ≠ "") :
    loadSelected env =
      if selectable.contains v then load (some v) else .error (.selectorInvalid v selectable) := by
  rw [loadSelected, Variables.value?_eq_some_iff.2 ⟨hv, hne⟩]

/-- **Both environments of the variable ship.** -/
theorem mem_environments_of_mem_selectable (hv : v ∈ selectable) : v ∈ Catalog.environments := by
  have hall : ∀ v ∈ selectable, v ∈ Catalog.environments := by decide
  exact hall v hv

theorem loadSelected_of_mem_selectable (henv : env selector = some v) (hv : v ∈ selectable) :
    loadSelected env = load (some v) := by
  have hne : v ≠ "" := by
    rintro rfl
    exact absurd hv (by decide)
  rw [loadSelected_of_value henv hne, if_pos (List.contains_iff_mem.2 hv)]

theorem loadSelected_of_not_mem_selectable (henv : env selector = some v) (hne : v ≠ "")
    (hv : v ∉ selectable) : loadSelected env = .error (.selectorInvalid v selectable) := by
  rw [loadSelected_of_value henv hne, if_neg fun h => hv (List.contains_iff_mem.1 h)]

end Registry
end ChainAtlas
