import MeshDoctor.Failure
import MeshDoctor.Text.Pieces

/-!
# Problems

What a failed check found. A request that failed on the way is a problem too, with its failure.

* `Problem`: one constructor for each condition that a check recognises.
* `Problem.message`: the wording, for a failed request its outermost context.
* `Problem.fullText`: the wording, for a failed request its whole chain.
-/

namespace MeshDoctor

/-- What a failed check found. -/
inductive Problem where
  | notImplemented
  | noConfigGetter
  | noDestinationEndpoints
  | endpointNotFound (ip : String)
  | dynamicWarmingSecretsNotEmpty (names : List String)
  | unrecognizedVersion (version : String)
  | clusterNotFound (expected found : List String)
  | listenerNotFound (name : String)
  | routeDomainNotFound (routeConfig : String) (domains : List String)
  | noServicesForPod (pod : String)
  | sidecarMissing (pod : String)
  | proxyUuidMissing (pod : String)
  | namespaceNotMonitored («namespace» mesh : String)
  | injectionDisabled (target : String)
  | meshMismatch (sourceMesh destinationMesh : String)
  | noTrafficTarget (sourceAccount destinationAccount : String)
  | trafficTargetVersion (name found expected : String)
  | podNotReady (pod reason : String)
  | egressDisabled
  | noIngressBackend (service : String)
  | componentUnavailable (component reason : String)
  | crdMissing (name : String)
  | probeStatus (status : Nat)
  /-- A request failed, so nothing was found out. -/
  | failedRequest (failure : Failure)
  deriving DecidableEq, Repr

namespace Problem

/-- The wording of a problem. -/
def message : Problem → String
  | notImplemented => "not implemented"
  | noConfigGetter => "no Envoy config getter is available for this check"
  | noDestinationEndpoints => "no destination endpoints"
  | endpointNotFound ip => "endpoint not found: " ++ ip
  | dynamicWarmingSecretsNotEmpty names =>
    "dynamic warming secrets not empty: " ++ Text.commaList names
  | unrecognizedVersion version => "unrecognized version: " ++ version
  | clusterNotFound expected found =>
    "cluster not found: expected [" ++ Text.commaList expected ++ "], found ["
      ++ Text.commaList found ++ "]"
  | listenerNotFound name => "listener not found: " ++ name
  | routeDomainNotFound routeConfig domains =>
    "route configuration " ++ routeConfig ++ " has no virtual host for any of ["
      ++ Text.commaList domains ++ "]"
  | noServicesForPod pod => "no services select pod " ++ pod
  | sidecarMissing pod => "pod " ++ pod ++ " has no Envoy sidecar container"
  | proxyUuidMissing pod => "pod " ++ pod ++ " is missing the proxy UUID label"
  | namespaceNotMonitored ns mesh => "namespace " ++ ns ++ " is not monitored by mesh " ++ mesh
  | injectionDisabled target => "sidecar injection is not enabled for " ++ target
  | meshMismatch source destination =>
    "namespaces are monitored by different meshes: " ++ source ++ " and " ++ destination
  | noTrafficTarget source destination =>
    "no traffic target allows " ++ source ++ " to reach " ++ destination
  | trafficTargetVersion name found expected =>
    "traffic target " ++ name ++ " uses API version " ++ found ++ ", controller supports "
      ++ expected
  | podNotReady pod reason => "pod " ++ pod ++ " is not ready: " ++ reason
  | egressDisabled => "egress is disabled in the mesh configuration"
  | noIngressBackend service => "no ingress backend references service " ++ service
  | componentUnavailable component reason => component ++ " is unavailable: " ++ reason
  | crdMissing name => "custom resource definition not installed: " ++ name
  | probeStatus status => "probe returned HTTP status " ++ toString status
  | failedRequest failure => failure.headline

/-- The wording of a problem, with every context of a failed request. -/
def fullText : Problem → String
  | failedRequest failure => failure.text
  | p => p.message

/-- Does the problem only say that there is no suggestion or remedy yet? -/
def isNotImplemented : Problem → Bool
  | notImplemented => true
  | _ => false

end Problem

end MeshDoctor
