import MeshDoctor.Check.Basic
import MeshDoctor.Cluster.Mesh

/-!
# Catalogue — the control plane

Whether the components of the mesh run, in a release that the checks know, and are configured.
-/

namespace MeshDoctor.Catalogue

/-- The deployment has all the replicas it wants. -/
def deploymentAvailable (ns name : String) : Diagnosis Outcome := do
  let deployment ← getDeployment ns name
  let desired := deployment.desired.getD 1
  let available := deployment.available.getD 0
  let counts := toString available ++ "/" ++ toString desired ++ " replicas available"
  if desired ≤ available then pure (.passWith counts)
  else throw (.componentUnavailable name counts)

/-- The first pod that is not ready, with the reason. -/
def firstUnready? (pods : List Pod) : Option (Pod × String) :=
  pods.findSome? fun pod =>
    match pod.readiness with
    | .ok () => none
    | .error reason => some (pod, reason)

/-- The controller has pods and all of them are ready. -/
def controllerPodsReady (mesh : Mesh) : Diagnosis Outcome := do
  let pods ← mesh.controllerPods
  if pods.isEmpty then
    throw (.componentUnavailable mesh.controllerName
      ("no pods match " ++ mesh.controllerSelector ++ " in namespace " ++ mesh.namespace))
  else
    match firstUnready? pods with
    | some (pod, reason) =>
      throw (.componentUnavailable mesh.controllerName ("pod " ++ pod.ref.text ++ ": " ++ reason))
    | none => pure (.passWith (toString pods.length ++ " pods ready"))

/-- The checks know the release line of the controller. -/
def controllerVersionSupported (mesh : Mesh) : Diagnosis Outcome := do
  let release ← mesh.controllerVersion
  if isSupported release.text then pure (.passWith release.text)
  else throw (.unrecognizedVersion release.text)

/-- A boolean as a word. -/
def boolWord (b : Bool) : String := if b then "true" else "false"

/-- The mesh has a configuration. -/
def meshConfigPresent (mesh : Mesh) : Diagnosis Outcome := do
  let config ← mesh.config
  let traffic := config.spec.traffic
  pure (.passWith
    ("permissive mode: " ++ boolWord traffic.permissive ++ ", egress: " ++ boolWord traffic.egress))

/-- The mesh lets traffic out. -/
def egressEnabled (mesh : Mesh) : Diagnosis Outcome := do
  let config ← mesh.config
  if config.spec.traffic.egress then pure (.pass none) else throw .egressDisabled

end MeshDoctor.Catalogue
