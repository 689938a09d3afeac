import MeshDoctor.Inquiry.Basic
import MeshDoctor.Resource.Builtin
import MeshDoctor.Resource.Pod
import MeshDoctor.Resource.Policy

/-!
# Clusters — typed access

Resources come as JSON; here they are decoded. One that does not decode fails the whole request.

* `getAs`, `listAs`: one resource and all resources of a kind.
* `getPod`, `getNamespace`, `servicesSelecting`, …: the resources that the checks read.
-/

namespace MeshDoctor

open Json

/-! ## Kinds -/

/-- The kinds of resources, by the names that requests use. -/
inductive Kind where
  | pods
  | namespaces
  | services
  | events
  | deployments
  | definitions
  | meshConfigs
  | trafficTargets
  | trafficSplits
  | routeGroups
  | ingressBackends
  deriving DecidableEq, Repr

/-- The name of a kind in requests. -/
def Kind.name : Kind → String
  | .pods => "pods"
  | .namespaces => "namespaces"
  | .services => "services"
  | .events => "events"
  | .deployments => "deployments"
  | .definitions => "customresourcedefinitions"
  | .meshConfigs => "meshconfigs.config.openservicemesh.io"
  | .trafficTargets => "traffictargets.access.smi-spec.io"
  | .trafficSplits => "trafficsplits.split.smi-spec.io"
  | .routeGroups => "httproutegroups.specs.smi-spec.io"
  | .ingressBackends => "ingressbackends.policy.openservicemesh.io"

/-! ## Requests with decoded answers -/

section

variable {α : Type}

/-- Decodes a resource; `what` says which one. -/
def decodeAs (d : Decoder α) (what : String) (v : Value) : Except Failure α :=
  match d v with
  | some a => .ok a
  | none => .error ⟨["Failed to decode " ++ what], .malformedJson⟩

/-- One resource. -/
def getAs (d : Decoder α) (kind : Kind) (ns : Option String) (name : String) : Lookup α := do
  let v ← request (.get kind.name ns name)
  .ofResult (decodeAs d (kind.name ++ " " ++ name) v)

/-- All resources of a kind, in the order of the answer. -/
def listAs (d : Decoder α) (kind : Kind) (query : ListQuery) : Lookup (List α) := do
  let vs ← request (.list kind.name query)
  .ofResult (vs.mapM (decodeAs d kind.name))

end

/-! ## The resources that the checks read -/

/-- A pod. -/
def getPod (pod : PodRef) : Lookup Pod :=
  (getAs Pod.decode .pods (some pod.namespace) pod.name).within ("Failed to get pod " ++ pod.text)

/-- Pods. -/
def listPods (query : ListQuery) : Lookup (List Pod) :=
  listAs Pod.decode .pods query

/-- A namespace. -/
def getNamespace (name : String) : Lookup Namespace :=
  (getAs Namespace.decode .namespaces none name).within ("Failed to get namespace " ++ name)

/-- The namespaces with these labels. -/
def listNamespaces (labels : String) : Lookup (List Namespace) :=
  listAs Namespace.decode .namespaces { labels := some labels }

/-- The services of the namespace of a pod that select the pod. -/
def servicesSelecting (pod : Pod) : Lookup (List Service) := do
  let services ← listAs Service.decode .services (.inNamespace pod.ref.namespace)
  pure <| services.filter fun service =>
    match service.selector with
    | some selector => selects selector (pod.metadata.labels.getD [])
    | none => false

/-- The names of services; one without a name is passed over. -/
def serviceNames (services : List Service) : List String :=
  services.filterMap (·.metadata.name)

/-- The services that select a pod, as `namespace/service`. -/
def serviceNamesFor (pod : Pod) : Lookup (List String) := do
  let services ← servicesSelecting pod
  pure ((serviceNames services).map fun name => pod.ref.namespace ++ "/" ++ name)

/-- A deployment. -/
def getDeployment (ns name : String) : Lookup Deployment :=
  (getAs Deployment.decode .deployments (some ns) name).within
    ("Failed to get deployment " ++ ns ++ "/" ++ name)

/-- Events. -/
def listEvents (query : ListQuery) : Lookup (List Event) :=
  listAs Event.decode .events query

/-- The configuration of a mesh. -/
def getMeshConfig (ns name : String) : Lookup MeshConfig :=
  (getAs MeshConfig.decode .meshConfigs (some ns) name).within
    ("Failed to get MeshConfig " ++ ns ++ "/" ++ name)

/-- The traffic targets of a namespace. -/
def listTrafficTargets (ns : String) : Lookup (List TrafficTarget) :=
  listAs TrafficTarget.decode .trafficTargets (.inNamespace ns)

/-- The traffic splits of a namespace. -/
def listTrafficSplits (ns : String) : Lookup (List TrafficSplit) :=
  listAs TrafficSplit.decode .trafficSplits (.inNamespace ns)

/-- The ingress backends of a namespace. -/
def listIngressBackends (ns : String) : Lookup (List IngressBackend) :=
  listAs IngressBackend.decode .ingressBackends (.inNamespace ns)

end MeshDoctor
