import MeshDoctor.Check.Basic
import MeshDoctor.Cluster.Mesh

/-!
# Catalogue — policies

Whether policies allow traffic, and where they send it.
-/

namespace MeshDoctor.Catalogue

/-! ## Traffic targets -/

/-- A service account. -/
structure Account where
  «namespace» : String
  name : String
  deriving DecidableEq, Repr

/-- The written account. -/
def Account.text (a : Account) : String :=
  a.namespace ++ "/" ++ a.name

/-- Does the target allow traffic between the accounts? References without a namespace mean that of
the target. -/
def allows (target : TrafficTarget) (source destination : Account) : Bool :=
  let home := target.metadata.namespace.getD destination.namespace
  target.spec.destination.isServiceAccount destination.namespace destination.name home
    && target.spec.sources.any (·.isServiceAccount source.namespace source.name home)

/-- What the targets that match the accounts say, when one of a version is expected. -/
def targetVerdict (matching : List TrafficTarget) (expected : String)
    (source destination : Account) : Except Problem Outcome :=
  match matching.find? fun t => versionOf t.apiVersion = expected with
  | some target =>
    .ok (.passWith ("allowed by traffic target " ++ target.metadata.name.getD ""))
  | none =>
    match matching with
    | target :: _ =>
      .error (.trafficTargetVersion (target.metadata.name.getD "") (versionOf target.apiVersion)
        expected)
    | [] => .error (.noTrafficTarget source.text destination.text)

/-- Traffic from one pod to the other is allowed: by permissive mode, or by a traffic target of the
version that the controller supports. -/
def trafficPolicy (mesh : Mesh) (source destination : PodRef) : Diagnosis Outcome := do
  let config ← mesh.config
  if config.spec.traffic.permissive then
    pure (.passWith "permissive traffic policy mode is enabled")
  else
    let sourcePod ← getPod source
    let destinationPod ← getPod destination
    let sourceAccount : Account := ⟨source.namespace, sourcePod.serviceAccount⟩
    let destinationAccount : Account := ⟨destination.namespace, destinationPod.serviceAccount⟩
    let release ← mesh.controllerVersion
    let expected ← Diagnosis.ofResult (trafficTargetVersion release.text)
    let targets ← listTrafficTargets destination.namespace
    let matching := targets.filter (allows · sourceAccount destinationAccount)
    Diagnosis.ofResult (targetVerdict matching expected sourceAccount destinationAccount)

/-! ## Traffic splits and ingress backends -/

/-- The splits that route to or through the services of the pod. -/
def trafficSplits (destination : PodRef) : Diagnosis Outcome := do
  let pod ← getPod destination
  let services ← servicesSelecting pod
  let splits ← listTrafficSplits destination.namespace
  let lines :=
    (splits.filter fun split => (serviceNames services).any split.involves).map (·.describe)
  if lines.isEmpty then pure (.pass none) else pure (.info (String.intercalate "\n" lines))

/-- The first backend of a policy that is one of the services, with the policy. -/
def backendAmong? (names : List String) (policy : IngressBackend) :
    Option (IngressBackend × BackendRef) :=
  (policy.spec.backends.find? fun b => names.contains b.name).map fun b => (policy, b)

/-- A policy lets ingress traffic to a service of the pod. -/
def ingressBackendExists (destination : PodRef) : Diagnosis Outcome := do
  let pod ← getPod destination
  let services ← servicesSelecting pod
  let names := serviceNames services
  if names.isEmpty then throw (.noServicesForPod destination.text)
  else
    let policies ← listIngressBackends destination.namespace
    match policies.findSome? (backendAmong? names) with
    | some (policy, backend) =>
      pure (.passWith
        ("service " ++ backend.name ++ " is backed by ingress backend "
          ++ policy.metadata.name.getD ""))
    | none => throw (.noIngressBackend (Text.commaList names))

/-! ## Definitions -/

/-- The kinds of policies that the mesh relies on. -/
def policyKinds : List Kind := [.trafficTargets, .trafficSplits, .routeGroups]

/-- Is a definition missing? Only the answer that it does not exist says so. -/
def definitionMissing (name : String) : Lookup Bool :=
  ExceptT.mk <| (request (.get Kind.definitions.name none name)).run.bind fun
    | .ok _ => .done (.ok false)
    | .error failure => .done (if failure.isNotFound then .ok true else .error failure)

/-- The definitions that are missing. -/
def missingDefinitions : List Kind → Lookup (List String)
  | [] => pure []
  | kind :: rest => do
    let missing ← definitionMissing kind.name
    let others ← missingDefinitions rest
    pure (if missing then kind.name :: others else others)

/-- The definitions of the policies are installed. -/
def definitionsInstalled : Diagnosis Outcome := do
  let missing ← missingDefinitions policyKinds
  if missing.isEmpty then pure (.pass none) else throw (.crdMissing (Text.commaList missing))

end MeshDoctor.Catalogue
