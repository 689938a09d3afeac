import MeshDoctor.Check.Basic
import MeshDoctor.Cluster.Mesh
import MeshDoctor.Envoy.Getter

/-!
# Catalogue — sidecars

Whether a sidecar is configured to take and to send traffic.
-/

namespace MeshDoctor.Catalogue

open Envoy

/-- Is the domain that of the service, with nothing, a longer name or a port after it? -/
def domainMatches (domain serviceDomain : String) : Bool :=
  match Text.dropWord? serviceDomain domain.toList with
  | some [] => true
  | some (c :: _) => c = '.' || c = ':'
  | none => false

/-- The configuration of a sidecar. -/
def loadConfig : Option Getter → Diagnosis ConfigDump
  | none => throw .noConfigGetter
  | some getter => getter.config.diagnose

/-- The sidecar knows a cluster for every service of the destination. -/
def hasCluster (destination : PodRef) (getter : Option Getter) : Diagnosis Outcome := do
  let dump ← loadConfig getter
  let pod ← getPod destination
  let expected ← serviceNamesFor pod
  if expected.isEmpty then throw (.noServicesForPod destination.text)
  else if expected.all dump.clusterNames.contains then pure (.pass none)
  else throw (.clusterNotFound expected dump.clusterNames)

/-- The sidecar serves the listener that the controller programs for a direction. -/
def hasListener (mesh : Mesh) (getter : Option Getter) (direction : Direction) :
    Diagnosis Outcome := do
  let release ← mesh.controllerVersion
  let name ← Diagnosis.ofResult (listenerName release.text direction)
  let dump ← loadConfig getter
  if dump.activeListenerNames.contains name then pure (.pass none)
  else throw (.listenerNotFound name)

/-- No secret of the sidecar is still warming. -/
def noWarmingSecrets (getter : Option Getter) : Diagnosis Outcome := do
  let dump ← loadConfig getter
  if dump.warmingSecretNames.isEmpty then pure (.pass none)
  else throw (.dynamicWarmingSecretsNotEmpty dump.warmingSecretNames)

/-- The sidecar has an endpoint to send traffic to. -/
def hasDestinationEndpoints (getter : Option Getter) : Diagnosis Outcome := do
  let dump ← loadConfig getter
  let count := dump.lbEndpoints.length
  if count = 0 then throw .noDestinationEndpoints
  else pure (.passWith (toString count ++ " endpoints"))

/-- The sidecar has an endpoint at the address of the destination. -/
def hasSpecificEndpoint (destination : PodRef) (getter : Option Getter) : Diagnosis Outcome := do
  let dump ← loadConfig getter
  let pod ← getPod destination
  match pod.ip? with
  | none => throw (.failedRequest (.say ("Pod " ++ destination.text ++ " has no IP address")))
  | some ip =>
    if dump.lbEndpoints.any (·.ip? = some ip) then pure (.pass none)
    else throw (.endpointNotFound ip)

/-- Does a virtual host of the route configuration serve one of the domains? -/
def routesTo (config : RouteConfig) (domains : List String) : Bool :=
  (config.virtualHosts.flatMap (·.domains)).any fun domain => domains.any (domainMatches domain)

/-- The outbound routes of the sidecar serve a domain of the destination. -/
def hasOutboundRoute (mesh : Mesh) (destination : PodRef) (getter : Option Getter) :
    Diagnosis Outcome := do
  let release ← mesh.controllerVersion
  let routeConfig ← Diagnosis.ofResult (routeConfigName release.text .outbound)
  let dump ← loadConfig getter
  let pod ← getPod destination
  let services ← servicesSelecting pod
  let domains := (serviceNames services).map fun name => name ++ "." ++ destination.namespace
  if domains.isEmpty then throw (.noServicesForPod destination.text)
  else if (dump.routeConfig? routeConfig).any (routesTo · domains) then pure (.pass none)
  else throw (.routeDomainNotFound routeConfig domains)

end MeshDoctor.Catalogue
