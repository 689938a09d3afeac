import MeshDoctor.Resource.Shapes.Builtin

/-!
# Resources — services, namespaces, events and deployments

Only the parts that the checks read are kept; the others must have their shapes as well.

* `selects`: does a selector, which has to ask for something, pick these labels?
* `Namespace.injection?`, `isEnabled`: the sidecar injection that a namespace asks for.
-/

namespace MeshDoctor

open Json

/-! ## Services -/

/-- A service. -/
structure Service where
  metadata : Metadata
  selector : Option Labels
  deriving DecidableEq, Repr

def Service.decode : Decoder Service := fun v => do
  let field ← membersOfType "Service" "v1" Shapes.service v
  let spec ← optional (fun v => do
    let field ← v.members?
    optional asMap (field "selector")) (field "spec")
  some ⟨← lenient {} Metadata.decode (field "metadata"), spec.join⟩

/-- Does a selector pick these labels? An empty selector picks nothing. -/
def selects (selector labels : Labels) : Bool :=
  !selector.isEmpty && selector.all fun (key, value) => labels.lookup key = some value

/-! ## Namespaces -/

/-- A namespace. -/
structure Namespace where
  metadata : Metadata
  deriving DecidableEq, Repr

def Namespace.decode : Decoder Namespace := fun v => do
  let field ← membersOfType "Namespace" "v1" Shapes.namespaceShape v
  some ⟨← lenient {} Metadata.decode (field "metadata")⟩

/-- The label that names the mesh which monitors a namespace. -/
def monitoredByLabel : String := "openservicemesh.io/monitored-by"

/-- The annotation that asks for sidecars. -/
def injectionAnnotation : String := "openservicemesh.io/sidecar-injection"

/-- The mesh that monitors a namespace. -/
def Namespace.monitoredBy? (ns : Namespace) : Option String :=
  ns.metadata.label? monitoredByLabel

/-- What a namespace says about sidecar injection. -/
def Namespace.injection? (ns : Namespace) : Option String :=
  ns.metadata.annotation? injectionAnnotation

/-- A text in lower-case ASCII letters. -/
def lowerAscii (text : String) : String :=
  String.ofList (text.toList.map Char.toLower)

/-- Does the value of an injection annotation ask for sidecars? -/
def isEnabled (value : String) : Bool :=
  ["enabled", "yes", "true"].contains (lowerAscii value)

/-! ## Events -/

/-- An event. -/
structure Event where
  metadata : Metadata
  involved : Option String
  reason : Option String
  message : Option String
  count : Option Int
  deriving DecidableEq, Repr

def Event.decode : Decoder Event := fun v => do
  let field ← membersOfType "Event" "v1" Shapes.event v
  let involved ← optional (fun v => do
    let field ← v.members?
    optional asText (field "name")) (field "involvedObject")
  some
    ⟨← lenient {} Metadata.decode (field "metadata"), involved.join,
      ← optional asText (field "reason"), ← optional asText (field "message"),
      ← optional asInt32 (field "count")⟩

/-! ## Deployments -/

/-- A deployment: the replicas it wants and those that are available. -/
structure Deployment where
  metadata : Metadata
  desired : Option Int
  available : Option Int
  deriving DecidableEq, Repr

def Deployment.decode : Decoder Deployment := fun v => do
  let field ← membersOfType "Deployment" "apps/v1" Shapes.deployment v
  let count (name : String) : Decoder (Option Int) := fun v => do
    let field ← v.members?
    optional asInt32 (field name)
  let spec ← optional (count "replicas") (field "spec")
  let status ← optional (count "availableReplicas") (field "status")
  some ⟨← lenient {} Metadata.decode (field "metadata"), spec.join, status.join⟩

end MeshDoctor
