import MeshDoctor.Check.Basic
import MeshDoctor.Cluster.Typed

/-!
# Catalogue — pods

Whether a pod runs a sidecar that the control plane knows, and whether it is ready.
-/

namespace MeshDoctor.Catalogue

/-- The pod runs a sidecar. -/
def sidecarPresent (ref : PodRef) : Diagnosis Outcome := do
  let pod ← getPod ref
  if pod.hasSidecar then pure (.pass none) else throw (.sidecarMissing ref.text)

/-- The pod carries the label by which the control plane knows its sidecar. -/
def proxyUuidLabelled (ref : PodRef) : Diagnosis Outcome := do
  let pod ← getPod ref
  if (pod.label? Pod.proxyUuidLabel).getD "" = "" then throw (.proxyUuidMissing ref.text)
  else pure (.pass none)

/-- The pod runs with all its containers ready. -/
def podReady (ref : PodRef) : Diagnosis Outcome := do
  let pod ← getPod ref
  match pod.readiness with
  | .ok () => pure (.pass none)
  | .error reason => throw (.podNotReady ref.text reason)

end MeshDoctor.Catalogue
