import MeshDoctor.Catalogue.ControlPlane
import MeshDoctor.Catalogue.Events
import MeshDoctor.Catalogue.Namespaces
import MeshDoctor.Catalogue.Pods
import MeshDoctor.Catalogue.Policies
import MeshDoctor.Catalogue.Probes
import MeshDoctor.Catalogue.Sidecars

/-!
# Catalogue — every diagnostic

* `Diagnostic`: the checks of the catalogue with what they are about.
* `Diagnostic.evaluate`, `Diagnostic.description`, `Diagnostic.suggestion`: their parts.
* `Diagnostic.check`: the check.
-/

namespace MeshDoctor

open Envoy

/-- A check of the catalogue. -/
inductive Diagnostic where
  | sidecarPresent (pod : PodRef)
  | proxyUuidLabelled (pod : PodRef)
  | podReady (pod : PodRef)
  | warningEvents («namespace» : String) (involved : Option String)
  | namespaceMonitored («namespace» mesh : String)
  | sidecarInjection (pod : PodRef)
  | sameMesh (source destination : String)
  | monitoredNamespacesInjected (mesh : Mesh)
  | deploymentAvailable («namespace» name : String)
  | controllerPodsReady (mesh : Mesh)
  | controllerVersionSupported (mesh : Mesh)
  | meshConfigPresent (mesh : Mesh)
  | egressEnabled (mesh : Mesh)
  | trafficPolicy (mesh : Mesh) (source destination : PodRef)
  | trafficSplits (destination : PodRef)
  | ingressBackendExists (destination : PodRef)
  | definitionsInstalled
  | hasCluster (pod destination : PodRef) (getter : Option Getter)
  | hasListener (mesh : Mesh) (pod : PodRef) (getter : Option Getter) (direction : Direction)
  | noWarmingSecrets (pod : PodRef) (getter : Option Getter)
  | hasDestinationEndpoints (pod : PodRef) (getter : Option Getter)
  | hasSpecificEndpoint (pod destination : PodRef) (getter : Option Getter)
  | hasOutboundRoute (mesh : Mesh) (pod destination : PodRef) (getter : Option Getter)
  | httpProbe (source : PodRef) (url : String)

namespace Diagnostic

/-- What a check finds out. -/
def evaluate : Diagnostic → Diagnosis Outcome
  | sidecarPresent pod => Catalogue.sidecarPresent pod
  | proxyUuidLabelled pod => Catalogue.proxyUuidLabelled pod
  | podReady pod => Catalogue.podReady pod
  | warningEvents ns involved => Catalogue.warningEvents ns involved
  | namespaceMonitored ns mesh => Catalogue.namespaceMonitored ns mesh
  | sidecarInjection pod => Catalogue.sidecarInjection pod
  | sameMesh source destination => Catalogue.sameMesh source destination
  | monitoredNamespacesInjected mesh => Catalogue.monitoredNamespacesInjected mesh
  | deploymentAvailable ns name => Catalogue.deploymentAvailable ns name
  | controllerPodsReady mesh => Catalogue.controllerPodsReady mesh
  | controllerVersionSupported mesh => Catalogue.controllerVersionSupported mesh
  | meshConfigPresent mesh => Catalogue.meshConfigPresent mesh
  | egressEnabled mesh => Catalogue.egressEnabled mesh
  | trafficPolicy mesh source destination => Catalogue.trafficPolicy mesh source destination
  | trafficSplits destination => Catalogue.trafficSplits destination
  | ingressBackendExists destination => Catalogue.ingressBackendExists destination
  | definitionsInstalled => Catalogue.definitionsInstalled
  | hasCluster _ destination getter => Catalogue.hasCluster destination getter
  | hasListener mesh _ getter direction => Catalogue.hasListener mesh getter direction
  | noWarmingSecrets _ getter => Catalogue.noWarmingSecrets getter
  | hasDestinationEndpoints _ getter => Catalogue.hasDestinationEndpoints getter
  | hasSpecificEndpoint _ destination getter => Catalogue.hasSpecificEndpoint destination getter
  | hasOutboundRoute mesh _ destination getter => Catalogue.hasOutboundRoute mesh destination getter
  | httpProbe source url => Catalogue.httpProbe source url

/-- What is being checked. -/
def description : Diagnostic → String
  | sidecarPresent pod => "Checking whether pod " ++ pod.text ++ " has an Envoy sidecar"
  | proxyUuidLabelled pod =>
    "Checking whether pod " ++ pod.text ++ " has the " ++ Pod.proxyUuidLabel ++ " label"
  | podReady pod => "Checking whether pod " ++ pod.text ++ " is running and ready"
  | warningEvents ns (some name) => "Checking for warning events on " ++ ns ++ "/" ++ name
  | warningEvents ns none => "Checking for warning events in namespace " ++ ns
  | namespaceMonitored ns mesh =>
    "Checking whether namespace " ++ ns ++ " is monitored by mesh " ++ mesh
  | sidecarInjection pod => "Checking whether sidecar injection is enabled for pod " ++ pod.text
  | sameMesh source destination =>
    "Checking whether namespaces " ++ source ++ " and " ++ destination ++ " are in the same mesh"
  | monitoredNamespacesInjected mesh =>
    "Checking sidecar injection across namespaces monitored by " ++ mesh.name
  | deploymentAvailable ns name =>
    "Checking whether deployment " ++ ns ++ "/" ++ name ++ " is available"
  | controllerPodsReady mesh => "Checking whether " ++ mesh.controllerName ++ " pods are ready"
  | controllerVersionSupported mesh =>
    "Checking whether the " ++ mesh.controllerName ++ " version is supported"
  | meshConfigPresent mesh =>
    "Checking whether MeshConfig " ++ mesh.namespace ++ "/" ++ mesh.configName ++ " exists"
  | egressEnabled _ => "Checking whether egress is enabled in the mesh"
  | trafficPolicy _ source destination =>
    "Checking whether a traffic policy allows " ++ source.text ++ " to reach " ++ destination.text
  | trafficSplits destination => "Checking traffic splits involving " ++ destination.text
  | ingressBackendExists destination =>
    "Checking whether an ingress backend routes to " ++ destination.text
  | definitionsInstalled => "Checking whether the SMI custom resource definitions are installed"
  | hasCluster pod destination _ =>
    "Checking whether " ++ pod.text ++ " is configured with the Envoy cluster for "
      ++ destination.text
  | hasListener _ pod _ direction =>
    "Checking whether " ++ pod.text ++ " has an " ++ direction.word ++ " listener"
  | noWarmingSecrets pod _ => "Checking whether " ++ pod.text ++ " has no warming secrets"
  | hasDestinationEndpoints pod _ => "Checking whether " ++ pod.text ++ " has destination endpoints"
  | hasSpecificEndpoint pod destination _ =>
    "Checking whether " ++ pod.text ++ " has an endpoint for " ++ destination.text
  | hasOutboundRoute _ pod destination _ =>
    "Checking whether " ++ pod.text ++ " has an outbound route to " ++ destination.text
  | httpProbe source url => "Probing " ++ url ++ " from " ++ source.text

/-- Advice for a failure. -/
def suggestion : Diagnostic → Except Problem String
  | sidecarPresent pod =>
    .ok ("Enable sidecar injection for namespace " ++ pod.namespace
      ++ " and restart the pod so the sidecar is injected")
  | podReady pod =>
    .ok ("Inspect the pod with: kubectl describe pod -n " ++ pod.namespace ++ " " ++ pod.name)
  | namespaceMonitored ns mesh =>
    .ok ("Add the namespace to the mesh: osm namespace add " ++ ns ++ " --mesh-name " ++ mesh)
  | sidecarInjection pod =>
    .ok ("Annotate the namespace: kubectl annotate namespace " ++ pod.namespace ++ " "
      ++ injectionAnnotation ++ "=enabled")
  | deploymentAvailable ns name => .ok ("kubectl describe deployment -n " ++ ns ++ " " ++ name)
  | controllerVersionSupported _ => .ok ("Supported releases: " ++ Text.commaList supportedVersions)
  | egressEnabled mesh =>
    .ok ("kubectl patch meshconfig " ++ mesh.configName ++ " -n " ++ mesh.namespace
      ++ " --type=merge -p '\x7b\"spec\":\x7b\"traffic\":\x7b\"enableEgress\":true\x7d\x7d\x7d'")
  | trafficPolicy _ source destination =>
    .ok ("Create a TrafficTarget in namespace " ++ destination.namespace
      ++ " whose sources include the service account of " ++ source.text)
  | definitionsInstalled =>
    .ok "Reinstall the mesh control plane, which installs the SMI CRDs"
  | hasCluster pod destination _ =>
    .ok ("Verify a traffic policy allows " ++ pod.text ++ " to reach " ++ destination.text
      ++ " and check the controller logs")
  | noWarmingSecrets _ _ =>
    .ok "Warming secrets usually mean certificate issuance is failing; check the osm-controller logs"
  | httpProbe _ _ =>
    .ok "Check that egress is enabled and that an egress policy allows this destination"
  | _ => .error .notImplemented

/-- The check: a problem on the way is its failure. -/
def check (d : Diagnostic) : Check where
  description := d.description
  run := d.evaluate.run.bind fun result => .done (some (Outcome.ofResult result))
  suggestion := d.suggestion

end Diagnostic

end MeshDoctor
