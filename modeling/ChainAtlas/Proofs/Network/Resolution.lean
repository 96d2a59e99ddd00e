import ChainAtlas.Network.Override
import ChainAtlas.Proofs.Outcome

/-!
# Where the URL of a network comes from

Three sources are asked for the URL of a network, one after another: the caller, the variable of the
network, and its endpoints.  A source that has a text other than the empty one ends the search, and
whatever stands behind it makes no difference (`resolveUrl_congr_of_isGiven`,
`resolveUrl_congr_of_isOverridden`).  The endpoints come last.  They are asked in the way in which a
network answers for its preferred URL by itself, so where nothing is overridden the two agree, on the
URL and on there being none (`alike_defaultUrl`); only the wording of the fault differs, since the
search knows a variable that might have been set.
-/

namespace ChainAtlas

open Outcome

/-- Whether a source has a URL: a text that is there and not empty. -/
def IsGiven (source : Option String) : Prop := ∃ url, source = some url ∧ url ≠ ""

theorem filter_eq_none_of_not_isGiven {source : Option String} (h : ¬ IsGiven source) :
    source.filter (fun url => url ≠ "") = none := by
  rw [Option.filter_eq_none_iff]
  intro url hurl hne
  exact h ⟨url, hurl, of_decide_eq_true hne⟩

namespace Variables

variable {env env' : Variables} {name : String}

theorem value?_eq_none_of_not_isGiven (h : ¬ IsGiven (env name)) : env.value? name = none :=
  filter_eq_none_of_not_isGiven h

/-- The value of a variable is a matter of the texts other than the empty one that it may hold. -/
theorem value?_congr (h : ∀ url, url ≠ "" → (env name = some url ↔ env' name = some url)) :
    env.value? name = env'.value? name := by
  ext url
  rw [value?_eq_some_iff, value?_eq_some_iff]
  constructor
  · rintro ⟨hurl, hne⟩
    exact ⟨(h url hne).1 hurl, hne⟩
  · rintro ⟨hurl, hne⟩
    exact ⟨(h url hne).2 hurl, hne⟩

end Variables

namespace Network

variable {n n' : Network} {given : Option String} {protocol protocol' : Protocol}
  {env env' : Variables}

/-! ## One source after another -/

/-- A caller who gives nothing, or an empty text, has no say. -/
theorem resolveUrl_of_not_isGiven (h : ¬ IsGiven given) :
    n.resolveUrl given protocol env = n.resolveUrl none protocol env := by
  unfold resolveUrl chooseUrl
  rw [filter_eq_none_of_not_isGiven h]
  rfl

/-- The URL in the variable counts where the caller gives none. -/
theorem resolveUrl_of_variable_isGiven {url : String} (hgiven : ¬ IsGiven given)
    (henv : env (overrideVariable n.name) = some url) (hne : url ≠ "") :
    n.resolveUrl given protocol env = .ok url := by
  rw [resolveUrl_of_not_isGiven hgiven]
  exact resolveUrl_of_variable (Variables.value?_eq_some_iff.2 ⟨henv, hne⟩)

/-- The preferred URL of a transport is that of its first endpoint, and there is one exactly if there
is an endpoint. -/
theorem alike_endpointUrl (n : Network) (protocol : Protocol) :
    Alike (· = ·) (fun fault => fault.kind = .noEndpoint) (n.endpointUrl protocol)
      (n.defaultUrl (some protocol)) := by
  have hasked : n.endpointsFor (some protocol) = n.endpointsOf protocol := rfl
  rw [endpointUrl, defaultUrl, hasked]
  cases n.endpointsOf protocol with
  | nil => exact .error rfl rfl
  | cons endpoint rest => exact .ok rfl

/-- **Where nothing is overridden the URL is the preferred one of the network.** -/
theorem alike_defaultUrl (hgiven : ¬ IsGiven given)
    (henv : ¬ IsGiven (env (overrideVariable n.name))) :
    Alike (· = ·) (fun fault => fault.kind = .noEndpoint) (n.resolveUrl given protocol env)
      (n.defaultUrl (some protocol)) := by
  rw [resolveUrl_of_not_isGiven hgiven,
    resolveUrl_of_unset (Variables.value?_eq_none_of_not_isGiven henv)]
  exact alike_endpointUrl n protocol

/-- There is no URL when neither the caller nor the variable of the network nor its endpoints have
one. -/
theorem resolveUrl_eq_error_iff {fault : Fault} :
    n.resolveUrl given protocol env = .error fault ↔
      (given = none ∨ given = some "") ∧ env.value? (overrideVariable n.name) = none ∧
        n.endpointsOf protocol = [] ∧
          fault = .noEndpointOf protocol n.name (overrideVariable n.name) := by
  have hgiven : given = none ∨ given = some "" ↔ (given.filter fun url => url ≠ "") = none := by
    cases given <;> simp
  rw [hgiven, resolveUrl, map_eq_error_iff, chooseUrl]
  cases given.filter fun url => url ≠ "" with
  | some url => simp
  | none =>
    cases env.value? (overrideVariable n.name) with
    | some url => simp
    | none => simp [map_eq_error_iff, endpointUrl_eq_error_iff]

/-! ## What makes no difference -/

/-- **One variable matters**, and of this one only whether it holds a URL, and which. -/
theorem chooseUrl_congr_env (given : Option String) (protocol : Protocol)
    (h : env.value? (overrideVariable n.name) = env'.value? (overrideVariable n.name)) :
    n.chooseUrl given protocol env = n.chooseUrl given protocol env' := by
  unfold chooseUrl
  rw [h]

theorem resolveUrl_congr_env (given : Option String) (protocol : Protocol)
    (h : env.value? (overrideVariable n.name) = env'.value? (overrideVariable n.name)) :
    n.resolveUrl given protocol env = n.resolveUrl given protocol env' := by
  rw [resolveUrl, resolveUrl, chooseUrl_congr_env given protocol h]

/-- A URL of the caller makes everything else irrelevant, even the network. -/
theorem resolveUrl_congr_of_isGiven (h : IsGiven given) :
    n.resolveUrl given protocol env = n'.resolveUrl given protocol' env' := by
  obtain ⟨url, rfl, hne⟩ := h
  rw [resolveUrl_of_given n hne, resolveUrl_of_given n' hne]

/-- A URL of the caller or in the variable makes the endpoints irrelevant. -/
theorem resolveUrl_congr_of_isOverridden (hname : n'.name = n.name)
    (h : IsGiven given ∨ IsGiven (env (overrideVariable n.name))) :
    n.resolveUrl given protocol env = n'.resolveUrl given protocol' env := by
  by_cases hgiven : IsGiven given
  · exact resolveUrl_congr_of_isGiven hgiven
  · obtain ⟨url, henv, hne⟩ := h.resolve_left hgiven
    rw [resolveUrl_of_variable_isGiven hgiven henv hne,
      resolveUrl_of_variable_isGiven hgiven (hname ▸ henv) hne]

/-- **The URL of a network is that of the first source that has one.**  The caller comes first, then
the variable of the network; after them the outcome is that of asking the network for the preferred
URL of the transport, with no endpoint in one case exactly if there is none in the other.  So of all
variables only the one of the network matters, an override makes the transport and the endpoints
irrelevant, and a URL of the caller makes the variables irrelevant as well. -/
theorem resolveUrl_by_precedence (n : Network) (protocol : Protocol) (given : Option String)
    (env : Variables) :
    (∀ url, given = some url → url ≠ "" → n.resolveUrl given protocol env = .ok url) ∧
    (¬ IsGiven given →
      (∀ url, env (overrideVariable n.name) = some url → url ≠ "" →
        n.resolveUrl given protocol env = .ok url) ∧
      (¬ IsGiven (env (overrideVariable n.name)) →
        Alike (· = ·) (fun fault => fault.kind = .noEndpoint) (n.resolveUrl given protocol env)
          (n.defaultUrl (some protocol)))) ∧
    (∀ env' : Variables, (∀ url, url ≠ "" →
        (env (overrideVariable n.name) = some url ↔ env' (overrideVariable n.name) = some url)) →
      n.resolveUrl given protocol env = n.resolveUrl given protocol env') ∧
    (∀ (n' : Network) (protocol' : Protocol), n'.name = n.name →
      IsGiven given ∨ IsGiven (env (overrideVariable n.name)) →
        n.resolveUrl given protocol env = n'.resolveUrl given protocol' env) ∧
    ∀ (n' : Network) (protocol' : Protocol) (env' : Variables), IsGiven given →
      n.resolveUrl given protocol env = n'.resolveUrl given protocol' env' := by
  refine ⟨?_, ?_, ?_, ?_, ?_⟩
  · rintro url rfl hne
    exact n.resolveUrl_of_given hne
  · intro hgiven
    refine ⟨fun url henv hne => resolveUrl_of_variable_isGiven hgiven henv hne, fun henv => ?_⟩
    exact alike_defaultUrl hgiven henv
  · intro env' henv
    exact resolveUrl_congr_env given protocol (Variables.value?_congr henv)
  · intro n' protocol' hname hoverridden
    exact resolveUrl_congr_of_isOverridden hname hoverridden
  · intro n' protocol' env' hgiven
    exact resolveUrl_congr_of_isGiven hgiven

/-- A network with two endpoints and one of the same name without any, and variables in which its URL
is set, unset, and set to the empty text. -/
theorem resolveUrl_of_polygon :
    ∃ (n n' : Network) (set unset empty : Variables), n'.name = n.name ∧ n.endpoints.length = 2 ∧
      n'.endpoints = [] ∧ set (overrideVariable n.name) = some "http://set" ∧
      unset (overrideVariable n.name) = none ∧ empty (overrideVariable n.name) = some "" ∧
      n.resolveUrl (some "http://given") .http set = .ok "http://given" ∧
      n.resolveUrl (some "") .http set = .ok "http://set" ∧
      Alike (· = ·) (fun fault => fault.kind = .noEndpoint) (n.resolveUrl none .http empty)
        (n.defaultUrl (some .http)) ∧
      n.resolveUrl none .http unset = n.resolveUrl none .http empty ∧
      n.resolveUrl none .http set = n'.resolveUrl none .websocket set ∧
      n.resolveUrl (some "http://given") .http set =
        n'.resolveUrl (some "http://given") .websocket unset := by
  obtain ⟨n, hname, hendpoints⟩ : ∃ n : Network, n.name = "polygon" ∧ n.endpoints.length = 2 :=
    ⟨⟨"polygon", 137, "production", .empty, [⟨.websocket, "wss://one"⟩, ⟨.http, "http://two"⟩], none,
      none, none, none, [], by decide, by decide⟩, rfl, rfl⟩
  obtain ⟨n', hname', hendpoints'⟩ : ∃ n' : Network, n'.name = "polygon" ∧ n'.endpoints = [] :=
    ⟨⟨"polygon", 80002, "development", .empty, [], none, none, none, none, [], by decide, by decide⟩,
      rfl, rfl⟩
  let set : Variables := Variables.ofList [(overrideVariable n.name, "http://set")]
  let unset : Variables := fun _ => none
  let empty : Variables := fun _ => some ""
  have hset : set (overrideVariable n.name) = some "http://set" := List.lookup_cons_self
  have hsame : n'.name = n.name := hname'.trans hname.symm
  have hcaller : IsGiven (some "http://given") := ⟨_, rfl, by decide⟩
  have hnone : ¬ IsGiven none := by
    rintro ⟨url, ⟨⟩, -⟩
  have hempty : ¬ IsGiven (some "") := by
    rintro ⟨url, hurl, hne⟩
    exact hne (Option.some.inj hurl).symm
  have hgiven := resolveUrl_by_precedence n .http (some "http://given") set
  refine ⟨n, n', set, unset, empty, hsame, hendpoints, hendpoints', hset, rfl, rfl,
    hgiven.1 _ rfl (by decide), ?_, ?_, ?_, ?_, ?_⟩
  · exact ((resolveUrl_by_precedence n .http (some "") set).2.1 hempty).1 _ hset (by decide)
  · exact ((resolveUrl_by_precedence n .http none empty).2.1 hnone).2 hempty
  · refine (resolveUrl_by_precedence n .http none unset).2.2.1 empty fun url hne => ?_
    constructor
    · intro hurl
      cases hurl
    · intro hurl
      exact absurd (Option.some.inj hurl).symm hne
  · exact (resolveUrl_by_precedence n .http none set).2.2.2.1 n' .websocket hsame
      (Or.inr ⟨_, hset, by decide⟩)
  · exact hgiven.2.2.2.2 n' .websocket unset hcaller

end Network
end ChainAtlas
