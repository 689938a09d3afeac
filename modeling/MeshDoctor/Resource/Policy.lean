import MeshDoctor.Resource.Metadata
import MeshDoctor.Text.Pieces

/-!
# Resources — mesh policies

The custom resources of the mesh. Each has a reader and a writer; the writer writes every field,
null where there is nothing.

* `IdentityRef.isServiceAccount`: does a reference name this account?
* `TrafficTarget`, `TrafficSplit`, `IngressBackend`, `MeshConfig`: the resources.
* `TrafficSplit.involves`: does a split route to or through a service?
* `versionOf`: the version in a text such as `access.smi-spec.io/v1alpha3`.
-/

namespace MeshDoctor

open Json

/-- The part of an API version after its last slash. -/
def versionOf (apiVersion : String) : String :=
  match Text.cutLast '/' apiVersion.toList with
  | some (_, version) => String.ofList version
  | none => apiVersion

/-! ## Identities -/

/-- A reference to the identity of a workload. -/
structure IdentityRef where
  kind : String := ""
  name : String := ""
  «namespace» : Option String := none
  deriving DecidableEq, Repr, Inhabited

namespace IdentityRef

def decode : Decoder IdentityRef := fun v => do
  let field ← v.fields? ["kind", "name", "namespace"]
  some
    ⟨← withDefault "" asText (field "kind"), ← withDefault "" asText (field "name"),
      ← optional asText (field "namespace")⟩

def encode (r : IdentityRef) : Value :=
  .object
    [("kind", .string r.kind), ("name", .string r.name), ("namespace", .ofOptionText r.namespace)]

/-- Does the reference name the service account `name` of `ns`? Without a namespace of its own it
means `home`. -/
def isServiceAccount (r : IdentityRef) (ns name home : String) : Bool :=
  r.kind = "ServiceAccount" && r.name = name && r.namespace.getD home = ns

end IdentityRef

/-! ## Traffic targets -/

/-- A rule of a traffic target. -/
structure TrafficTargetRule where
  kind : String := ""
  name : String := ""
  routes : List String := []
  deriving DecidableEq, Repr

def TrafficTargetRule.decode : Decoder TrafficTargetRule := fun v => do
  let field ← v.fields? ["kind", "name", "matches"]
  some
    ⟨← withDefault "" asText (field "kind"), ← withDefault "" asText (field "name"),
      ← withDefault [] (asList asText) (field "matches")⟩

def TrafficTargetRule.encode (r : TrafficTargetRule) : Value :=
  .object [("kind", .string r.kind), ("matches", .ofTexts r.routes), ("name", .string r.name)]

/-- Who may reach whom, and by which rules. -/
structure TrafficTargetSpec where
  destination : IdentityRef := {}
  sources : List IdentityRef := []
  rules : List TrafficTargetRule := []
  deriving DecidableEq, Repr

/-- Reads who may reach whom. -/
def TrafficTargetSpec.decode : Decoder TrafficTargetSpec := fun v => do
  let field ← v.fields? ["destination", "sources", "rules"]
  some
    ⟨← withDefault {} IdentityRef.decode (field "destination"),
      ← withDefault [] (asList IdentityRef.decode) (field "sources"),
      ← withDefault [] (asList TrafficTargetRule.decode) (field "rules")⟩

/-- Writes who may reach whom. -/
def TrafficTargetSpec.encode (s : TrafficTargetSpec) : Value :=
  .object
    [("destination", s.destination.encode), ("rules", .array (s.rules.map (·.encode))),
      ("sources", .array (s.sources.map (·.encode)))]

/-- A policy that allows traffic between service accounts. -/
structure TrafficTarget where
  apiVersion : String := ""
  metadata : Metadata := {}
  spec : TrafficTargetSpec := {}
  deriving DecidableEq, Repr

def TrafficTarget.decode : Decoder TrafficTarget := fun v => do
  let field ← v.fields? ["apiVersion", "metadata", "spec"]
  some
    ⟨← withDefault "" asText (field "apiVersion"), ← withDefault {} Metadata.decode (field "metadata"),
      ← withDefault {} TrafficTargetSpec.decode (field "spec")⟩

def TrafficTarget.encode (t : TrafficTarget) : Value :=
  .object
    [("apiVersion", .string t.apiVersion), ("metadata", t.metadata.encode), ("spec", t.spec.encode)]

/-! ## Traffic splits -/

/-- A weight. -/
def asWeight : Decoder Int64 := fun v => (asInt64 v).map Int64.ofInt

/-- A share of a split. -/
structure SplitBackend where
  service : String
  weight : Int64 := 0
  deriving DecidableEq, Repr

def SplitBackend.decode : Decoder SplitBackend := fun v => do
  let field ← v.fields? ["service", "weight"]
  some ⟨← needed asText (field "service"), ← withDefault 0 asWeight (field "weight")⟩

def SplitBackend.encode (b : SplitBackend) : Value :=
  .object [("service", .string b.service), ("weight", .int b.weight.toInt)]

/-- The service that clients address and the services behind it. -/
structure TrafficSplitSpec where
  service : String := ""
  backends : List SplitBackend := []
  deriving DecidableEq, Repr

def TrafficSplitSpec.decode : Decoder TrafficSplitSpec := fun v => do
  let field ← v.fields? ["service", "backends"]
  some
    ⟨← withDefault "" asText (field "service"),
      ← withDefault [] (asList SplitBackend.decode) (field "backends")⟩

def TrafficSplitSpec.encode (s : TrafficSplitSpec) : Value :=
  .object [("backends", .array (s.backends.map (·.encode))), ("service", .string s.service)]

/-- A policy that splits the traffic of a service. -/
structure TrafficSplit where
  apiVersion : String := ""
  metadata : Metadata := {}
  spec : TrafficSplitSpec := {}
  deriving DecidableEq, Repr

namespace TrafficSplit

def decode : Decoder TrafficSplit := fun v => do
  let field ← v.fields? ["apiVersion", "metadata", "spec"]
  some
    ⟨← withDefault "" asText (field "apiVersion"), ← withDefault {} Metadata.decode (field "metadata"),
      ← withDefault {} TrafficSplitSpec.decode (field "spec")⟩

def encode (t : TrafficSplit) : Value :=
  .object
    [("apiVersion", .string t.apiVersion), ("metadata", t.metadata.encode), ("spec", t.spec.encode)]

/-- Does the split route to or through a service? -/
def involves (t : TrafficSplit) (service : String) : Bool :=
  t.spec.service = service || t.spec.backends.any (·.service = service)

/-- The split on one line. -/
def describe (t : TrafficSplit) : String :=
  let shares := t.spec.backends.map fun b => b.service ++ "=" ++ toString b.weight
  t.metadata.name.getD "" ++ ": " ++ t.spec.service ++ " -> " ++ Text.commaList shares

end TrafficSplit

/-! ## Ingress backends -/

/-- The number of a port. -/
def asPortNumber : Decoder Int32 := fun v => (asInt32 v).map Int32.ofInt

/-- The port of a backend. -/
structure BackendPort where
  number : Int32
  protocol : Option String := none
  deriving DecidableEq, Repr

def BackendPort.decode : Decoder BackendPort := fun v => do
  let field ← v.fields? ["number", "protocol"]
  some ⟨← needed asPortNumber (field "number"), ← optional asText (field "protocol")⟩

def BackendPort.encode (p : BackendPort) : Value :=
  .object [("number", .int p.number.toInt), ("protocol", .ofOptionText p.protocol)]

/-- A service that ingress traffic goes to. -/
structure BackendRef where
  name : String
  port : Option BackendPort := none
  deriving DecidableEq, Repr

def BackendRef.decode : Decoder BackendRef := fun v => do
  let field ← v.fields? ["name", "port"]
  some ⟨← needed asText (field "name"), ← optional BackendPort.decode (field "port")⟩

def BackendRef.encode (b : BackendRef) : Value :=
  .object [("name", .string b.name), ("port", .ofOption BackendPort.encode b.port)]

/-- Where ingress traffic may go and where it may come from. -/
structure IngressBackendSpec where
  backends : List BackendRef := []
  sources : List IdentityRef := []
  deriving DecidableEq, Repr

def IngressBackendSpec.decode : Decoder IngressBackendSpec := fun v => do
  let field ← v.fields? ["backends", "sources"]
  some
    ⟨← withDefault [] (asList BackendRef.decode) (field "backends"),
      ← withDefault [] (asList IdentityRef.decode) (field "sources")⟩

def IngressBackendSpec.encode (s : IngressBackendSpec) : Value :=
  .object
    [("backends", .array (s.backends.map (·.encode))),
      ("sources", .array (s.sources.map (·.encode)))]

/-- A policy that lets ingress traffic in. -/
structure IngressBackend where
  metadata : Metadata := {}
  spec : IngressBackendSpec := {}
  deriving DecidableEq, Repr

def IngressBackend.decode : Decoder IngressBackend := fun v => do
  let field ← v.fields? ["metadata", "spec"]
  some
    ⟨← withDefault {} Metadata.decode (field "metadata"),
      ← withDefault {} IngressBackendSpec.decode (field "spec")⟩

def IngressBackend.encode (b : IngressBackend) : Value :=
  .object [("metadata", b.metadata.encode), ("spec", b.spec.encode)]

/-! ## Mesh configuration -/

/-- The settings on traffic. -/
structure TrafficSettings where
  egress : Bool := false
  permissive : Bool := false
  deriving DecidableEq, Repr

def TrafficSettings.decode : Decoder TrafficSettings := fun v => do
  let field ← v.fields? ["enableEgress", "enablePermissiveTrafficPolicyMode"]
  some
    ⟨← withDefault false asBool (field "enableEgress"),
      ← withDefault false asBool (field "enablePermissiveTrafficPolicyMode")⟩

def TrafficSettings.encode (t : TrafficSettings) : Value :=
  .object [("enableEgress", .bool t.egress), ("enablePermissiveTrafficPolicyMode", .bool t.permissive)]

/-- The settings of a mesh. -/
structure MeshConfigSpec where
  traffic : TrafficSettings := {}
  deriving DecidableEq, Repr

def MeshConfigSpec.decode : Decoder MeshConfigSpec := fun v => do
  let field ← v.fields? ["traffic"]
  some ⟨← withDefault {} TrafficSettings.decode (field "traffic")⟩

def MeshConfigSpec.encode (s : MeshConfigSpec) : Value :=
  .object [("traffic", s.traffic.encode)]

/-- The configuration of a mesh. -/
structure MeshConfig where
  metadata : Metadata := {}
  spec : MeshConfigSpec := {}
  deriving DecidableEq, Repr

def MeshConfig.decode : Decoder MeshConfig := fun v => do
  let field ← v.fields? ["metadata", "spec"]
  some
    ⟨← withDefault {} Metadata.decode (field "metadata"),
      ← withDefault {} MeshConfigSpec.decode (field "spec")⟩

def MeshConfig.encode (c : MeshConfig) : Value :=
  .object [("metadata", c.metadata.encode), ("spec", c.spec.encode)]

end MeshDoctor
