import MeshDoctor.Cluster.Mesh
import MeshDoctor.Json.Decode

/-!
# Configuration

* `Config`: the settings of a run; every one has a default.
* `Config.validate`: some settings must not be empty or zero; of several faults the first counts.
* `Config.overrideNamespace`: an environment variable that is not empty replaces the namespace.
* `Config.decode`, `Config.encode`: the JSON form.
-/

namespace MeshDoctor

open Json

/-- The settings of a run. -/
structure Config where
  /-- The namespace of the control plane. -/
  meshNamespace : String := "osm-system"
  meshName : String := "osm"
  controllerName : String := "osm-controller"
  injectorName : String := "osm-injector"
  bootstrapName : String := "osm-bootstrap"
  meshConfigName : String := "osm-mesh-config"
  /-- The port of the admin interface inside a pod. -/
  adminPort : UInt16 := 15000
  /-- The seconds to wait for an admin interface. -/
  adminTimeout : UInt64 := 30
  kubectlPath : String := "kubectl"
  kubeconfig : Option String := none
  kubeContext : Option String := none
  deriving DecidableEq, Repr

namespace Config

/-- The settings of a new configuration file. -/
def sample : Config := { kubeContext := some "my-cluster" }

/-- The names by which the parts of the mesh are found. -/
def mesh (c : Config) : Mesh where
  «namespace» := c.meshNamespace
  name := c.meshName
  controllerName := c.controllerName
  configName := c.meshConfigName

/-- The deployments of the control plane. -/
def components (c : Config) : List String :=
  [c.controllerName, c.injectorName, c.bootstrapName]

/-! ## Validity -/

/-- What can be wrong with settings. -/
inductive Fault where
  | emptyNamespace
  | emptyName
  | zeroPort
  | zeroTimeout
  deriving DecidableEq, Repr

/-- The wording of a fault. -/
def Fault.message : Fault → String
  | .emptyNamespace => "mesh_namespace cannot be empty"
  | .emptyName => "mesh_name cannot be empty"
  | .zeroPort => "envoy_admin_port must be non-zero"
  | .zeroTimeout => "admin_timeout_secs must be non-zero"

/-- The first fault of the settings. -/
def fault? (c : Config) : Option Fault :=
  if c.meshNamespace.isEmpty then some .emptyNamespace
  else if c.meshName.isEmpty then some .emptyName
  else if c.adminPort = 0 then some .zeroPort
  else if c.adminTimeout = 0 then some .zeroTimeout
  else none

/-- Valid settings pass; others fail with their first fault. -/
def validate (c : Config) : Except Failure Config :=
  match c.fault? with
  | none => .ok c
  | some fault => .error (.say fault.message)

/-! ## Overrides -/

/-- The variable that selects the namespace. -/
def namespaceVariable : String := "OSM_NAMESPACE"

/-- The settings with the namespace of the variable, unless that is unset or empty. -/
def overrideNamespace (c : Config) (value : Option String) : Config :=
  match value.filter (fun ns => !ns.isEmpty) with
  | some ns => { c with meshNamespace := ns }
  | none => c

/-! ## JSON form -/

/-- The names of the settings, in order. -/
def fieldNames : List String :=
  ["mesh_namespace", "mesh_name", "controller_name", "injector_name", "bootstrap_name",
    "mesh_config_name", "envoy_admin_port", "admin_timeout_secs", "kubectl_path", "kubeconfig",
    "kube_context"]

/-- A port. -/
def asPort : Decoder UInt16 := fun v => (asNat UInt16.size v).map UInt16.ofNat

/-- A number of seconds. -/
def asSeconds : Decoder UInt64 := fun v => (asNat UInt64.size v).map UInt64.ofNat

/-- The settings that a value states; the others have their defaults. -/
def decode : Decoder Config := fun v => do
  let field ← v.fields? fieldNames
  let dflt : Config := {}
  some {
    meshNamespace := ← withDefault dflt.meshNamespace asText (field "mesh_namespace")
    meshName := ← withDefault dflt.meshName asText (field "mesh_name")
    controllerName := ← withDefault dflt.controllerName asText (field "controller_name")
    injectorName := ← withDefault dflt.injectorName asText (field "injector_name")
    bootstrapName := ← withDefault dflt.bootstrapName asText (field "bootstrap_name")
    meshConfigName := ← withDefault dflt.meshConfigName asText (field "mesh_config_name")
    adminPort := ← withDefault dflt.adminPort asPort (field "envoy_admin_port")
    adminTimeout := ← withDefault dflt.adminTimeout asSeconds (field "admin_timeout_secs")
    kubectlPath := ← withDefault dflt.kubectlPath asText (field "kubectl_path")
    kubeconfig := ← optional asText (field "kubeconfig")
    kubeContext := ← optional asText (field "kube_context") }

/-- The members of the JSON form; settings that are not there are left out. -/
def members (c : Config) : List (String × Value) :=
  [("mesh_namespace", .string c.meshNamespace), ("mesh_name", .string c.meshName),
    ("controller_name", .string c.controllerName), ("injector_name", .string c.injectorName),
    ("bootstrap_name", .string c.bootstrapName), ("mesh_config_name", .string c.meshConfigName),
    ("envoy_admin_port", .int c.adminPort.toNat), ("admin_timeout_secs", .int c.adminTimeout.toNat),
    ("kubectl_path", .string c.kubectlPath)]
    ++ (c.kubeconfig.toList.map fun path => ("kubeconfig", .string path))
    ++ c.kubeContext.toList.map fun name => ("kube_context", .string name)

/-- The JSON form. -/
def encode (c : Config) : Value :=
  .ofMembers c.members

/-- The settings with some fields replaced, if they still decode. -/
def merge (c : Config) (fields : List (String × Value)) : Option Config :=
  decode (.ofMembers (c.members ++ fields))

end Config

end MeshDoctor
