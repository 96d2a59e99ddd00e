import ChainAtlas.CommandLine.Run
import ChainAtlas.Proofs.Catalog
import ChainAtlas.Proofs.Operation.Method
import ChainAtlas.Proofs.Probe.Reply
import ChainAtlas.Proofs.TokenAmount

/-!
# The faults that a command can meet

A command calls the library, and reports the faults of some families.  Whether this is enough is a
question about the library: which families does each of its calls have faults of?  Looking things up
has faults of the configuration only, and so has loading what ships.  Encoding has faults of values,
and asking an endpoint has faults of the surroundings as well.
-/

namespace ChainAtlas

open Outcome

/-- Whether a fault belongs to one of the families that are reported. -/
def IsReportedBy (reported : List Family) (fault : Fault) : Prop :=
  ∃ family ∈ fault.kind.families, family ∈ reported

variable {reported : List Family} {fault : Fault} {α : Type}

theorem IsReportedBy.of_kind_eq (kind : Kind) (h : fault.kind = kind) {family : Family}
    (hkind : family ∈ kind.families) (hreported : family ∈ reported) :
    IsReportedBy reported fault :=
  ⟨family, h ▸ hkind, hreported⟩

theorem IsReportedBy.of_isConfiguration (hreported : .configuration ∈ reported)
    (h : fault.isConfiguration = true) : IsReportedBy reported fault :=
  ⟨.configuration, List.contains_iff_mem.1 h, hreported⟩

/-! ## Looking up -/

theorem Registry.get_faultsIn (hreported : .configuration ∈ reported) (r : Registry)
    (name : String) : FaultsIn (IsReportedBy reported) (r.get name) := by
  rw [Registry.get]
  split
  · exact .error (.of_isConfiguration hreported rfl)
  · exact .ok _

namespace Network

theorem contract_faultsIn (hreported : .configuration ∈ reported) (n : Network)
    (contract : String) : FaultsIn (IsReportedBy reported) (n.contract contract) := by
  rw [Network.contract]
  split
  · exact .error (.of_isConfiguration hreported rfl)
  · exact .ok _

theorem resolveUrl_faultsIn (hreported : .configuration ∈ reported) (n : Network)
    (given : Option String) (protocol : Protocol) (env : Variables) :
    FaultsIn (IsReportedBy reported) (n.resolveUrl given protocol env) := by
  intro fault hfault
  obtain ⟨-, -, -, rfl⟩ := resolveUrl_eq_error_iff.1 hfault
  exact .of_isConfiguration hreported rfl

end Network

theorem CommandLine.Selection.registry_faultsIn (hreported : .configuration ∈ reported)
    (selection : Selection) (env : Variables) :
    FaultsIn (IsReportedBy reported) (selection.registry env) := by
  rw [Selection.registry]
  split
  · exact (Catalog.loadSelected_faultsIn env).mono fun _ => .of_isConfiguration hreported
  · exact (Catalog.load_faultsIn _).mono fun _ => .of_isConfiguration hreported

/-! ## Operations -/

namespace Operation

theorem ofMethod_faultsIn (hreported : .configuration ∈ reported) (method : String) :
    FaultsIn (IsReportedBy reported) (ofMethod method) := by
  intro fault hfault
  refine .of_isConfiguration hreported ?_
  rw [Fault.isConfiguration, kind_of_ofMethod hfault]
  rfl

/-- **Encoding has faults of values only.** -/
theorem encode_faultsIn (hreported : .value ∈ reported) (op : Operation) (value : Option String) :
    FaultsIn (IsReportedBy reported) (op.encode value) := by
  intro fault hfault
  rcases kind_of_encode hfault with ⟨hkind, -⟩ | hkind
  · exact .of_kind_eq .malformedAddress hkind (by decide) hreported
  · exact .of_kind_eq .value hkind (by decide) hreported

end Operation

/-! ## Endpoints -/

namespace Probe

/-- A reply is lost on the way or cannot be used, if there is a fault of it. -/
theorem classify_faultsIn (hruntime : .runtime ∈ reported) (hvalue : .value ∈ reported)
    (reply : Reply) : FaultsIn (IsReportedBy reported) (classify reply) := by
  intro fault hfault
  rcases group_of_fault hfault with ⟨-, hkind⟩ | ⟨-, hkind⟩
  · exact .of_kind_eq .runtime hkind (by decide) hruntime
  · exact .of_kind_eq .value hkind (by decide) hvalue

theorem confirm_faultsIn (hreported : .value ∈ reported) (n : Network) (url : String) (served : ℤ) :
    FaultsIn (IsReportedBy reported) (confirm n url served) := by
  rw [confirm]
  split
  · exact .ok _
  · rw [mismatch]
    split
    · exact .error (.of_kind_eq .chainIdMismatch rfl (by decide) hreported)
    · exact .error (.of_kind_eq .value rfl (by decide) hreported)

/-- **Verifying a network has faults of the configuration, of the surroundings and of values.** -/
theorem outcome_verify_faultsIn (hconfiguration : .configuration ∈ reported)
    (hruntime : .runtime ∈ reported) (hvalue : .value ∈ reported) (n : Network)
    (given : Option String) (env : Variables) (timeout : Json) (reply : Reply) :
    FaultsIn (IsReportedBy reported) (verify n given env timeout reply).outcome := by
  cases hurl : n.resolveUrl given .http env with
  | error fault =>
    rw [verify_of_error hurl]
    exact .error (Network.resolveUrl_faultsIn hconfiguration n given .http env fault hurl)
  | ok url =>
    rw [verify_of_ok hurl]
    exact .bind (classify_faultsIn hruntime hvalue reply) fun served =>
      confirm_faultsIn hvalue n url served

end Probe
end ChainAtlas
