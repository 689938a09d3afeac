import MeshDoctor.PodRef
import MeshDoctor.Resource.Shapes.Pod

/-!
# Resources — pods

* `Pod`, `Pod.decode`: the parts of a pod that the checks read.
* `Pod.readiness`: why a pod is not running with all its containers ready.
* `Pod.appContainer?`: the first container that is not the sidecar.
-/

namespace MeshDoctor

open Json

/-- A container of a pod. -/
structure Container where
  name : String
  image : Option String
  deriving DecidableEq, Repr

/-- What a pod should run. -/
structure PodSpec where
  containers : List Container
  serviceAccount : Option String
  deriving DecidableEq, Repr

/-- Whether a container of a pod is ready. -/
structure ContainerStatus where
  name : String
  ready : Bool
  deriving DecidableEq, Repr

/-- What a pod runs: its phase, its address and the statuses of its containers. -/
structure PodStatus where
  phase : Option String
  ip : Option String
  containers : Option (List ContainerStatus)
  deriving DecidableEq, Repr

/-- A pod. -/
structure Pod where
  metadata : Metadata
  spec : Option PodSpec
  status : Option PodStatus
  deriving DecidableEq, Repr

def Container.decode : Decoder Container := fun v => do
  let field ← v.members?
  some ⟨← lenient "" asText (field "name"), ← optional asText (field "image")⟩

/-- Reads what a pod should run. -/
def PodSpec.decode : Decoder PodSpec := fun v => do
  let field ← v.members?
  some
    ⟨← lenient [] (asList Container.decode) (field "containers"),
      ← optional asText (field "serviceAccountName")⟩

/-- Reads whether a container is ready. -/
def ContainerStatus.decode : Decoder ContainerStatus := fun v => do
  let field ← v.members?
  some ⟨← lenient "" asText (field "name"), ← lenient false asBool (field "ready")⟩

/-- Reads what a pod runs. -/
def PodStatus.decode : Decoder PodStatus := fun v => do
  let field ← v.members?
  some
    ⟨← optional asText (field "phase"), ← optional asText (field "podIP"),
      ← optional (asList ContainerStatus.decode) (field "containerStatuses")⟩

namespace Pod

/-- Reads a pod. The parts that are not kept must have their shapes as well. -/
def decode : Decoder Pod := fun v => do
  let field ← membersOfType "Pod" "v1" Shapes.pod v
  some
    ⟨← lenient {} Metadata.decode (field "metadata"), ← optional PodSpec.decode (field "spec"),
      ← optional PodStatus.decode (field "status")⟩

/-- The name of the container that the mesh injects. -/
def sidecarName : String := "envoy"

/-- The label by which the control plane knows a sidecar. -/
def proxyUuidLabel : String := "osm-proxy-uuid"

/-- The address of a pod, empty where the pod has no name. -/
def ref (pod : Pod) : PodRef :=
  ⟨pod.metadata.namespace.getD "", pod.metadata.name.getD ""⟩

/-- The containers of a pod. -/
def containers (pod : Pod) : List Container :=
  match pod.spec with
  | some spec => spec.containers
  | none => []

/-- What is known of the containers of a pod. -/
def containerStatuses (pod : Pod) : List ContainerStatus :=
  (pod.status.bind (·.containers)).getD []

/-- Has the pod a container of this name? -/
def hasContainer (pod : Pod) (name : String) : Bool :=
  pod.containers.any (·.name = name)

/-- Has the pod a sidecar? -/
def hasSidecar (pod : Pod) : Bool :=
  pod.hasContainer sidecarName

/-- The value of a label. -/
def label? (pod : Pod) (key : String) : Option String :=
  pod.metadata.label? key

/-- The value of an annotation. -/
def annotation? (pod : Pod) (key : String) : Option String :=
  pod.metadata.annotation? key

/-- The address the pod serves at. -/
def ip? (pod : Pod) : Option String :=
  pod.status.bind (·.ip)

/-- The account the pod runs as. -/
def serviceAccount (pod : Pod) : String :=
  (pod.spec.bind (·.serviceAccount)).getD "default"

/-- The first container that is not the sidecar. -/
def appContainer? (pod : Pod) : Option String :=
  (pod.containers.map (·.name)).find? (· ≠ sidecarName)

/-- Why a pod is not running with all its containers ready. -/
def readiness (pod : Pod) : Except String Unit :=
  match pod.status with
  | none => .error "pod has no status"
  | some status =>
    let phase := status.phase.getD "Unknown"
    if phase ≠ "Running" then .error ("phase is " ++ phase)
    else
      let expected := pod.containers.length
      let ready := pod.containerStatuses.countP (·.ready)
      if ready < expected then
        .error (toString ready ++ "/" ++ toString expected ++ " containers ready")
      else .ok ()

end Pod

end MeshDoctor
