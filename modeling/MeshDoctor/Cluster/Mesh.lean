import MeshDoctor.Cluster.Typed
import MeshDoctor.Version

/-!
# Clusters — the mesh

* `Mesh`: the names by which the parts of one mesh are found.
* `Mesh.controllerPods`, `Mesh.controllerVersion`: the pods of the controller and their release line.
-/

namespace MeshDoctor

/-- The names by which the parts of a mesh are found. -/
structure Mesh where
  «namespace» : String
  name : String
  controllerName : String
  configName : String
  deriving DecidableEq, Repr

namespace Mesh

/-- The labels of the controller's pods. -/
def controllerSelector (m : Mesh) : String :=
  "app=" ++ m.controllerName

/-- The labels of the namespaces that the mesh monitors. -/
def monitoredSelector (m : Mesh) : String :=
  monitoredByLabel ++ "=" ++ m.name

/-- The pods of the controller. -/
def controllerPods (m : Mesh) : Lookup (List Pod) :=
  listPods ((ListQuery.inNamespace m.namespace).withLabels m.controllerSelector)

/-- The release line of the first controller pod that has one. -/
def versionAmong (m : Mesh) (pods : List Pod) : Except Failure ReleaseLine :=
  match pods.findSome? ReleaseLine.ofPod? with
  | some release => .ok release
  | none =>
    .error (.say
      ("Could not determine " ++ m.controllerName ++ " version in namespace " ++ m.namespace))

/-- The release line of the running controller. -/
def controllerVersion (m : Mesh) : Lookup ReleaseLine := do
  let pods ← m.controllerPods
  .ofResult (m.versionAmong pods)

/-- The configuration of the mesh. -/
def config (m : Mesh) : Lookup MeshConfig :=
  getMeshConfig m.namespace m.configName

/-- The namespaces that the mesh monitors. -/
def monitoredNamespaces (m : Mesh) : Lookup (List Namespace) :=
  listNamespaces m.monitoredSelector

end Mesh

end MeshDoctor
