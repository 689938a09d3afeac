import MeshDoctor.Catalogue.Diagnostic
import MeshDoctor.Check.Record

/-!
# Suites

The diagnostics of each command, in the order of its report. All of them need the tool and the
cluster.

* `Suite`: the mesh, the components of its control plane and what is known about prerequisites.
* `Suite.podToPod`, `Suite.podToUrl`, `Suite.controlPlane`, `Suite.ingressToPod`, `Suite.validate`:
  the diagnostics of a command.
* `Suite.records`: their records.
-/

namespace MeshDoctor

open Envoy

/-- What every suite is about. -/
structure Suite where
  mesh : Mesh
  components : List String
  ledger : Ledger

namespace Suite

/-- The diagnostics on a pod. -/
def podChecks (pod : PodRef) : List Diagnostic :=
  [.sidecarPresent pod, .proxyUuidLabelled pod, .podReady pod,
    .warningEvents pod.namespace (some pod.name)]

/-- The diagnostics on the namespace of a pod. -/
def namespaceChecks (s : Suite) (pod : PodRef) : List Diagnostic :=
  [.namespaceMonitored pod.namespace s.mesh.name, .sidecarInjection pod]

/-- From one pod of the mesh to another. -/
def podToPod (s : Suite) (source destination : PodRef)
    (sourceGetter destinationGetter : Option Getter) : List Diagnostic :=
  podChecks source ++ podChecks destination ++ s.namespaceChecks source
    ++ s.namespaceChecks destination
    ++ [.sameMesh source.namespace destination.namespace,
      .trafficPolicy s.mesh source destination,
      .trafficSplits destination,
      .hasListener s.mesh source sourceGetter .outbound,
      .hasCluster source destination sourceGetter,
      .hasOutboundRoute s.mesh source destination sourceGetter,
      .hasDestinationEndpoints source sourceGetter,
      .hasSpecificEndpoint source destination sourceGetter,
      .hasListener s.mesh destination destinationGetter .inbound,
      .noWarmingSecrets source sourceGetter,
      .noWarmingSecrets destination destinationGetter]

/-- From a pod of the mesh to a URL outside. -/
def podToUrl (s : Suite) (source : PodRef) (url : String) (getter : Option Getter) :
    List Diagnostic :=
  [.sidecarPresent source, .podReady source, .namespaceMonitored source.namespace s.mesh.name,
    .egressEnabled s.mesh, .hasListener s.mesh source getter .outbound,
    .noWarmingSecrets source getter, .httpProbe source url]

/-- The control plane. -/
def controlPlane (s : Suite) : List Diagnostic :=
  s.components.map (.deploymentAvailable s.mesh.namespace ·)
    ++ [.controllerPodsReady s.mesh, .controllerVersionSupported s.mesh,
      .meshConfigPresent s.mesh, .warningEvents s.mesh.namespace none]

/-- From outside to a pod of the mesh. -/
def ingressToPod (s : Suite) (destination : PodRef) (getter : Option Getter) : List Diagnostic :=
  [.sidecarPresent destination, .podReady destination,
    .namespaceMonitored destination.namespace s.mesh.name, .ingressBackendExists destination,
    .hasListener s.mesh destination getter .inbound, .noWarmingSecrets destination getter]

/-- The configuration of the mesh as a whole. -/
def validate (s : Suite) : List Diagnostic :=
  [.definitionsInstalled, .meshConfigPresent s.mesh, .monitoredNamespacesInjected s.mesh]

/-- Runs diagnostics, each skipped when the tool or the cluster is not available. -/
def records (s : Suite) (diagnostics : List Diagnostic) : Inquiry (List Record) :=
  runChecks (diagnostics.map fun d => d.check.guarded s.ledger)

end Suite

end MeshDoctor
