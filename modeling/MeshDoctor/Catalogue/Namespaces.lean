import MeshDoctor.Check.Basic
import MeshDoctor.Cluster.Mesh

/-!
# Catalogue — namespaces

Which mesh monitors a namespace, and whether its pods get sidecars.
-/

namespace MeshDoctor.Catalogue

/-- The mesh monitors the namespace. -/
def namespaceMonitored (ns mesh : String) : Diagnosis Outcome := do
  let found ← getNamespace ns
  if found.monitoredBy? = some mesh then pure (.pass none)
  else throw (.namespaceNotMonitored ns mesh)

/-- The pod gets a sidecar: it asks for one itself, or says nothing and its namespace does. -/
def sidecarInjection (ref : PodRef) : Diagnosis Outcome := do
  let pod ← getPod ref
  match pod.annotation? injectionAnnotation with
  | some value =>
    if isEnabled value then pure (.passWith "enabled by pod annotation")
    else throw (.injectionDisabled ("pod " ++ ref.text))
  | none =>
    let ns ← getNamespace ref.namespace
    if ns.injection?.any isEnabled then pure (.pass none)
    else throw (.injectionDisabled ("namespace " ++ ref.namespace))

/-- A mesh by name, or the word for none. -/
def meshOrNone (mesh : String) : String :=
  if mesh = "" then "<none>" else mesh

/-- One mesh monitors both namespaces. -/
def sameMesh (source destination : String) : Diagnosis Outcome := do
  let sourceNs ← getNamespace source
  let destinationNs ← getNamespace destination
  let sourceMesh := sourceNs.monitoredBy?.getD ""
  let destinationMesh := destinationNs.monitoredBy?.getD ""
  if sourceMesh ≠ "" ∧ sourceMesh = destinationMesh then
    pure (.passWith ("both in mesh " ++ sourceMesh))
  else throw (.meshMismatch (meshOrNone sourceMesh) (meshOrNone destinationMesh))

/-- Every namespace that the mesh monitors asks for sidecars. -/
def monitoredNamespacesInjected (mesh : Mesh) : Diagnosis Outcome := do
  let monitored ← mesh.monitoredNamespaces
  if monitored.isEmpty then
    pure (.info ("no namespaces are monitored by mesh " ++ mesh.name))
  else
    let disabled :=
      (monitored.filter fun ns => !ns.injection?.any isEnabled).filterMap (·.metadata.name)
    if disabled.isEmpty then
      pure (.passWith (toString monitored.length ++ " monitored namespaces"))
    else throw (.injectionDisabled ("namespaces " ++ Text.commaList disabled))

end MeshDoctor.Catalogue
