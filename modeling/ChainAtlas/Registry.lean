import ChainAtlas.Network

/-!
# Registries

A registry holds networks under names, in order, together with the environment that they were loaded
for.  In a registry that was loaded from a document every network is held under its own name; one that
was put together from other registries may use names of its own.

All lookups by name are one lookup in the underlying directory, so they cannot disagree.  A lookup by
chain ID goes through the networks in order and takes the first match.
-/

namespace ChainAtlas

/-- Networks under names, and the environment that they were loaded for. -/
structure Registry where
  networks : Directory Network
  environment : Option String
  deriving DecidableEq, Inhabited

namespace Registry

/-- The names, in order. -/
def names (r : Registry) : List String := r.networks.names

/-- The networks, in order. -/
def values (r : Registry) : List Network := r.networks.values

/-- The number of networks. -/
def size (r : Registry) : Nat := r.networks.size

/-- Whether there is a network under a name. -/
def has (r : Registry) (name : String) : Bool := r.networks.has name

/-- The network under a name. -/
def get (r : Registry) (name : String) : Except Fault Network :=
  match r.networks.get? name with
  | none => .error (.noSuchNetwork name r.names)
  | some network => .ok network

/-- Whether a name is one of a registry. -/
instance : Membership String Registry := ⟨fun r name => r.networks.has name = true⟩

instance (name : String) (r : Registry) : Decidable (name ∈ r) :=
  inferInstanceAs (Decidable (r.networks.has name = true))

/-- The fault of a chain ID that no network has. -/
def unknownChainId (given : Json) : Fault := .quoting given (.noSuchChainId given)

/-- The first network with a chain ID.  The ID may be given as any JSON value and is compared as a
number. -/
def byChainId (r : Registry) (given : Json) : Except Fault Network :=
  match r.values.find? fun network => given.equalsInt network.chainId with
  | none => .error (unknownChainId given)
  | some network => .ok network

/-- Whether two registries were loaded for the same environment and hold agreeing networks under the
same names, in whatever order. -/
def agrees (r s : Registry) : Bool :=
  r.environment == s.environment && r.networks.agrees Network.agrees s.networks

/-- A registry of networks of another one, under names of its own. -/
def pick (r : Registry) (choices : List (String × String)) (environment : Option String) :
    Except Fault Registry := do
  let entries ← choices.mapM fun (name, choice) => do return (name, ← r.get choice)
  return ⟨.ofList entries, environment⟩

/-- A registry in one line: its environment and its names. -/
def describe (r : Registry) : String :=
  let environment := match r.environment with
    | none => "None"
    | some environment => Text.quoted environment
  let names := ", ".intercalate (r.names.map Text.quoted)
  s!"ChainConfigRegistry(environment={environment}, networks=[{names}])"

/-- A name leads to a network exactly when the registry has it. -/
theorem has_eq_true_iff {r : Registry} {name : String} :
    r.has name = true ↔ ∃ network, r.get name = .ok network := by
  simp only [has, Directory.has, Entries.has, get, Directory.get?]
  cases Entries.get? r.networks.entries name <;> simp

end Registry
end ChainAtlas
