import MeshDoctor.Proofs.Catalogue.Closure
import MeshDoctor.Proofs.Inquiry.Faults

/-!
# Catalogue — every check surfaces failures

* `surfaces_definitionMissing`: the one request whose failure may be an answer.
* **`Diagnostic.surfaces_evaluate`**: the failure of a request is not swallowed by any check.
-/

namespace MeshDoctor

open Inquiry

/-- Only the answer that a definition does not exist is not passed on. -/
theorem surfaces_definitionMissing (name : String) :
    (Catalogue.definitionMissing name).run.Surfaces Failure.cause? := by
  refine ⟨fun f hf => ⟨f, ?_, rfl⟩, fun answer => ?_⟩
  · change done (if f.isNotFound then Except.ok true else Except.error f) = _
    rw [hf]
    rfl
  · cases answer <;> trivial

theorem closed_surfaces :
    Catalogue.Closed (·.run.Surfaces Failure.cause?) (·.run.Surfaces Problem.cause?) where
  request _ := .request _
  definition := surfaces_definitionMissing
  done _ := trivial
  bind hx hf := .bind hx hf
  within hx context := .within hx context
  diagnose hx := .diagnose hx
  verdict _ := trivial
  andThen hx hf := .bind hx hf

/-- **Every check of the catalogue surfaces failures.** -/
theorem Diagnostic.surfaces_evaluate (d : Diagnostic) : d.evaluate.run.Surfaces Problem.cause? :=
  d.closed_evaluate closed_surfaces

end MeshDoctor
