import ChainAtlas.Proofs.Address
import ChainAtlas.Proofs.Catalog

/-!
# Sessions

A program that works with registries makes one after another: it loads them from shipped documents,
from documents of its own and from files, and it puts networks of earlier registries together under
keys of its choice.  Any of these steps may fail, and then nothing is added.  A session is the list
of the registries made so far, each with what it was made by.

The four loaders all end in the reading of a document (`exists_ofDocument_of_make`), and there every
network is read under the key that it is held under.  A registry that is put together holds networks
under foreign keys, but it makes none.  So the invariant of a session (`Accounted`) is that every
network in any of its registries is found under its own name in a registry that was loaded.  One
step keeps it (`accounted_step`), hence every run does (`accounted_run`).
-/

namespace ChainAtlas

/-! ## What a network promises -/

namespace Network

/-- What holds of every network: it has a name and a positive chain ID, its contracts have different
names and addresses of the right form, and its endpoints have one of the two transports. -/
structure IsWellFormed (n : Network) : Prop where
  name_ne_empty : n.name ≠ ""
  chainId_pos : 0 < n.chainId
  nodup_contracts : n.contracts.names.Nodup
  isSpelled_address : ∀ contract a, n.contract contract = .ok a → Address.IsSpelled a.text
  protocol : ∀ e ∈ n.endpoints, e.protocol = .http ∨ e.protocol = .websocket

theorem isWellFormed (n : Network) : n.IsWellFormed where
  name_ne_empty := n.name_ne_empty
  chainId_pos := n.chainId_pos
  nodup_contracts := n.contracts.nodup
  isSpelled_address := fun _ a _ => a.isSpelled
  protocol := fun e _ => by cases e.protocol <;> simp

end Network

namespace Registry

open Outcome Document

variable {environment : Option String} {r : Registry} {n : Network}

theorem exists_ofDocument_of_ofFile {path : String} {file : File}
    (hr : ofFile path file environment = .ok r) :
    ∃ document, ofDocument document environment = .ok r := by
  rw [ofFile] at hr
  split at hr
  · cases hr
  · obtain ⟨document, -, hdocument⟩ := bind_eq_ok_iff.1 hr
    exact ⟨document, hdocument⟩

end Registry

namespace Session

open Outcome Document Registry

/-! ## Reaching a network -/

/-- Why a step of a session fails. -/
inductive Failure where
  | fault (fault : Fault)
  /-- There is no registry at this place of the session. -/
  | noRegistry (place : Nat)
  /-- A registry has no network at this place. -/
  | noPosition (place : Nat)

/-- The ways to ask a registry for a network. -/
inductive Lookup where
  | byName (name : String)
  | byChainId (given : Json)
  | byPosition (place : Nat)

/-- The network that a registry answers with. -/
def Lookup.find (r : Registry) : Lookup → Except Failure Network
  | .byName name => (r.get name).mapError .fault
  | .byChainId given => (r.byChainId given).mapError .fault
  | .byPosition place =>
    match r.values[place]? with
    | none => .error (.noPosition place)
    | some n => .ok n

/-- Whether a network is what a registry answers some question with. -/
def Reaches (r : Registry) (n : Network) : Prop := ∃ lookup : Lookup, lookup.find r = .ok n

variable {r : Registry} {n : Network}

/-- **However a network is asked for, it is one that the registry holds under a key.** -/
theorem reaches_iff : Reaches r n ↔ ∃ name, r.get name = .ok n := by
  constructor
  · rintro ⟨lookup, hn⟩
    cases lookup with
    | byName name => exact ⟨name, mapError_eq_ok_iff.1 hn⟩
    | byChainId given =>
      have hfound : r.byChainId given = .ok n := mapError_eq_ok_iff.1 hn
      rw [byChainId] at hfound
      split at hfound
      · cases hfound
      · next found hfind =>
        cases hfound
        exact mem_values_iff.1 (List.mem_of_find?_eq_some hfind)
    | byPosition place =>
      rw [Lookup.find] at hn
      split at hn
      · cases hn
      · next found hplace =>
        cases hn
        exact mem_values_iff.1 (List.mem_of_getElem? hplace)
  · rintro ⟨name, hn⟩
    exact ⟨.byName name, mapError_eq_ok_iff.2 hn⟩

/-! ## Steps -/

/-- A network of an earlier registry, and the key that it is to be held under. -/
structure Choice where
  key : String
  place : Nat
  lookup : Lookup

/-- The ways to make a registry: the four loaders, and putting together what was chosen. -/
inductive Maker where
  | shipped (environment : Option String)
  | document (value : Json) (environment : Option String)
  | file (path : String) (content : File) (environment : Option String)
  | selected (env : Variables)
  | assembled (choices : List Choice) (environment : Option String)

namespace Maker

/-- The environment that is asked for. -/
def environment : Maker → Option String
  | .shipped environment => environment
  | .document _ environment => environment
  | .file _ _ environment => environment
  | .selected env => env.value? selector
  | .assembled _ environment => environment

/-- Whether a registry is loaded, rather than put together. -/
def isLoader : Maker → Bool
  | .assembled _ _ => false
  | _ => true

end Maker

/-- A registry with what it was made by. -/
structure Made where
  maker : Maker
  registry : Registry

/-- The network that was chosen, under its new key. -/
def Choice.pick (session : List Made) (choice : Choice) : Except Failure (String × Network) :=
  match session[choice.place]? with
  | none => .error (.noRegistry choice.place)
  | some made => do return (choice.key, ← choice.lookup.find made.registry)

/-- The registry that a maker leads to after others have been made. -/
def Maker.make (session : List Made) : Maker → Except Failure Registry
  | .shipped environment => (load environment).mapError .fault
  | .document value environment => (ofDocument value environment).mapError .fault
  | .file path content environment => (ofFile path content environment).mapError .fault
  | .selected env => (loadSelected env).mapError .fault
  | .assembled choices environment => do
    return ⟨.ofList (← choices.mapM (Choice.pick session)), environment⟩

/-- A session after one more step.  A step that fails leaves it as it is. -/
def step (session : List Made) (maker : Maker) : List Made :=
  match maker.make session with
  | .error _ => session
  | .ok r => session ++ [⟨maker, r⟩]

/-- A session after more steps. -/
def run (session : List Made) (makers : List Maker) : List Made := makers.foldl step session

variable {session : List Made} {maker : Maker} {made : Made}

theorem Choice.pick_eq_ok_iff {choice : Choice} {held : String × Network} :
    choice.pick session = .ok held ↔ ∃ made, session[choice.place]? = some made ∧
      held.1 = choice.key ∧ choice.lookup.find made.registry = .ok held.2 := by
  rw [Choice.pick]
  cases session[choice.place]? with
  | none => simp
  | some made =>
    simp only [Option.some.injEq, exists_eq_left', bind_pure_pair_eq_ok_iff]

/-- What is put together, in terms of what was chosen. -/
theorem make_assembled_eq_ok_iff {choices : List Choice} {environment : Option String} :
    (Maker.assembled choices environment).make session = .ok r ↔ ∃ chosen,
      List.Forall₂ (fun choice held => choice.pick session = .ok held) choices chosen ∧
        Directory.ofList chosen = r.networks ∧ r.environment = environment := by
  rw [Maker.make, bind_eq_ok_iff]
  refine exists_congr fun chosen => and_congr mapM_eq_ok_iff ?_
  constructor
  · intro hr
    cases hr
    exact ⟨rfl, rfl⟩
  · rintro ⟨hnetworks, rfl⟩
    rw [hnetworks]
    rfl

/-- Picking networks out of one registry by name is putting together what these names lead to. -/
theorem make_assembled_of_pick {place : Nat} (hmade : session[place]? = some made)
    (choices : List (String × String)) (environment : Option String) :
    (Maker.assembled (choices.map fun choice => ⟨choice.1, place, .byName choice.2⟩)
      environment).make session = (made.registry.pick choices environment).mapError .fault := by
  have hpick : ∀ choice : String × String,
      Choice.pick session ⟨choice.1, place, .byName choice.2⟩ =
        (made.registry.get choice.2 >>= fun n => pure (choice.1, n)).mapError .fault := by
    intro choice
    rw [Choice.pick, hmade]
    exact mapError_bind_pure _ _
  rw [Maker.make, List.mapM_map, Registry.pick, ← mapError_bind_pure, ← mapM_mapError]
  simp only [Function.comp_def, hpick]

/-- **All loaders read a document**, and record the environment that is asked for. -/
theorem exists_ofDocument_of_make (hloader : maker.isLoader = true)
    (hr : maker.make session = .ok r) :
    ∃ document, ofDocument document maker.environment = .ok r := by
  cases maker with
  | shipped environment =>
    obtain ⟨document, -, hdocument⟩ := Catalog.exists_isShipped_of_load (mapError_eq_ok_iff.1 hr)
    exact ⟨document, hdocument⟩
  | document value environment => exact ⟨value, mapError_eq_ok_iff.1 hr⟩
  | file path content environment => exact exists_ofDocument_of_ofFile (mapError_eq_ok_iff.1 hr)
  | selected env =>
    obtain ⟨document, -, hdocument⟩ :=
      Catalog.exists_isShipped_of_loadSelected (mapError_eq_ok_iff.1 hr)
    exact ⟨document, hdocument⟩
  | assembled choices environment => cases hloader

theorem environment_of_make (hr : maker.make session = .ok r) :
    r.environment = maker.environment := by
  cases hloader : maker.isLoader with
  | true =>
    obtain ⟨document, hdocument⟩ := exists_ofDocument_of_make hloader hr
    exact (ofDocument_eq_ok_iff.1 hdocument).2
  | false =>
    cases maker with
    | assembled choices environment =>
      obtain ⟨chosen, -, -, henvironment⟩ := make_assembled_eq_ok_iff.1 hr
      exact henvironment
    | _ => cases hloader

/-! ## The invariant -/

/-- Whether a network is found under its own name in a registry of a session that was loaded, and
was read from an entry there. -/
def IsLoadedIn (session : List Made) (n : Network) : Prop :=
  ∃ source ∈ session, source.maker.isLoader = true ∧ source.registry.get n.name = .ok n ∧
    ∃ entry, network n.name entry = .ok n

/-- Whether a registry is accounted for in a session: it records the environment that was asked for,
its networks come from registries that were loaded, and if it was loaded itself it holds each of
them under its own name. -/
structure Accounted (session : List Made) (made : Made) : Prop where
  environment : made.registry.environment = made.maker.environment
  keys : made.maker.isLoader = true → ∀ key n, made.registry.get key = .ok n → n.name = key
  loaded : ∀ key n, made.registry.get key = .ok n → IsLoadedIn session n

theorem IsLoadedIn.append (h : IsLoadedIn session n) (more : List Made) :
    IsLoadedIn (session ++ more) n := by
  obtain ⟨source, hsource, hloaded⟩ := h
  exact ⟨source, List.mem_append_left _ hsource, hloaded⟩

/-- Later registries change nothing about earlier ones. -/
theorem Accounted.append (h : Accounted session made) (more : List Made) :
    Accounted (session ++ more) made :=
  ⟨h.environment, h.keys, fun key n hn => (h.loaded key n hn).append more⟩

/-- A registry that was loaded is accounted for by itself. -/
theorem accounted_of_loader (hloader : maker.isLoader = true) (hr : maker.make session = .ok r) :
    Accounted (session ++ [⟨maker, r⟩]) ⟨maker, r⟩ := by
  obtain ⟨document, hdocument⟩ := exists_ofDocument_of_make hloader hr
  have hentry : ∀ key n, r.get key = .ok n →
      n.name = key ∧ ∃ entry, network key entry = .ok n := by
    intro key n hn
    obtain ⟨-, entry, -, -, hentry⟩ := exists_network_of_get hdocument hn
    exact ⟨(name_and_chainId_of_network hentry).1, entry, hentry⟩
  refine ⟨environment_of_make hr, fun _ key n hn => (hentry key n hn).1, fun key n hn => ?_⟩
  obtain ⟨rfl, hread⟩ := hentry key n hn
  exact ⟨⟨maker, r⟩, List.mem_append_right _ (List.mem_singleton_self _), hloader, hn, hread⟩

/-- A registry that was put together is accounted for by the registries that were there before. -/
theorem accounted_of_assembled (hsession : ∀ made ∈ session, Accounted session made)
    (hloader : maker.isLoader = false) (hr : maker.make session = .ok r) :
    Accounted session ⟨maker, r⟩ := by
  refine ⟨environment_of_make hr, fun h => absurd (hloader.symm.trans h) (by decide), ?_⟩
  intro key n hn
  cases maker with
  | assembled choices environment =>
    obtain ⟨chosen, hchosen, hlist, -⟩ := make_assembled_eq_ok_iff.1 hr
    have hmem : (key, n) ∈ r.networks.entries := Directory.get?_eq_some_iff.1 (get_eq_ok_iff.1 hn)
    rw [← hlist] at hmem
    obtain ⟨choice, -, hpick⟩ := exists_of_mem_forall₂ hchosen (Directory.mem_of_mem_ofList hmem)
    obtain ⟨source, hsource, -, hfound⟩ := Choice.pick_eq_ok_iff.1 hpick
    obtain ⟨name, hget⟩ := reaches_iff.1 ⟨choice.lookup, hfound⟩
    exact (hsession source (List.mem_of_getElem? hsource)).loaded name n hget
  | _ => cases hloader

/-- **One step keeps a session accounted for.** -/
theorem accounted_step (hsession : ∀ made ∈ session, Accounted session made) (maker : Maker) :
    ∀ made ∈ step session maker, Accounted (step session maker) made := by
  rw [step]
  split
  · exact hsession
  · next r hr =>
    intro made hmade
    rcases List.mem_append.1 hmade with hbefore | hnew
    · exact (hsession made hbefore).append _
    · rw [List.mem_singleton.1 hnew]
      cases hloader : maker.isLoader with
      | true => exact accounted_of_loader hloader hr
      | false => exact (accounted_of_assembled hsession hloader hr).append _

/-- **Every run keeps a session accounted for.** -/
theorem accounted_run (hsession : ∀ made ∈ session, Accounted session made) (makers : List Maker) :
    ∀ made ∈ run session makers, Accounted (run session makers) made := by
  induction makers generalizing session with
  | nil => exact hsession
  | cons maker makers ih => exact ih (accounted_step hsession maker)

/-- What was made once stays. -/
theorem prefix_run (session : List Made) (makers : List Maker) :
    session <+: run session makers := by
  induction makers generalizing session with
  | nil => exact List.prefix_rfl
  | cons maker makers ih =>
    refine List.IsPrefix.trans ?_ (ih (step session maker))
    rw [step]
    split
    · exact List.prefix_rfl
    · exact List.prefix_append _ _

/-- **Every registry that exists at any point of a session is well formed.**  It stays as it is
whatever comes after, its keys are different, and it records the environment that was asked for; if
it was loaded, it holds every network under the name of that network.  However a network of it is
reached, the network is well formed and was loaded under its own name at some step of the session.
-/
theorem wellFormed_of_mem_run (before after : List Maker) (made : Made)
    (hmade : made ∈ run [] before) :
    made ∈ run [] (before ++ after) ∧ made.registry.names.Nodup ∧
      made.registry.environment = made.maker.environment ∧
      (made.maker.isLoader = true → ∀ key n, made.registry.get key = .ok n → n.name = key) ∧
      ∀ n, Reaches made.registry n → n.IsWellFormed ∧ IsLoadedIn (run [] before) n := by
  have hlater : run [] (before ++ after) = run (run [] before) after := List.foldl_append
  have haccounted := accounted_run (List.forall_mem_nil _) before made hmade
  refine ⟨?_, made.registry.networks.nodup, haccounted.environment, haccounted.keys, ?_⟩
  · rw [hlater]
    exact (prefix_run _ after).subset hmade
  · intro n hn
    obtain ⟨key, hget⟩ := reaches_iff.1 hn
    exact ⟨n.isWellFormed, haccounted.loaded key n hget⟩

/-- A document is loaded, a step fails, and the network of the document is held under another key.
-/
theorem wellFormed_of_foreign_key :
    ∃ makers made n, run [] makers = made ∧ made.length = 2 ∧ makers.length = 3 ∧
      ∃ last ∈ made, last.registry.get "mine" = .ok n ∧ n.name = "dev" ∧ n.IsWellFormed ∧
        IsLoadedIn made n := by
  let document : Json := .object [("dev", .object [("chainId", .int 1),
    ("environment", .text "development")])]
  let makers : List Maker := [.document document (some "local"), .document .null none,
    .assembled [⟨"mine", 0, .byChainId (.int 1)⟩] none]
  obtain ⟨first, last, n, hrun, hget, hname⟩ : ∃ first last n, run [] makers = [first, last] ∧
      last.registry.get "mine" = .ok n ∧ n.name = "dev" := ⟨_, _, _, rfl, rfl, rfl⟩
  have hlast : last ∈ run [] makers := hrun ▸ List.mem_cons_of_mem _ List.mem_cons_self
  obtain ⟨-, -, -, -, hreached⟩ := wellFormed_of_mem_run makers [] last hlast
  obtain ⟨hwell, hloaded⟩ := hreached n (reaches_iff.2 ⟨"mine", hget⟩)
  exact ⟨makers, _, n, rfl, by rw [hrun]; rfl, rfl, last, hlast, hget, hname, hwell, hloaded⟩

end Session
end ChainAtlas
