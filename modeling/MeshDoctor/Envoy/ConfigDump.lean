import MeshDoctor.Failure
import MeshDoctor.Json.Decode
import MeshDoctor.Json.Reader
import MeshDoctor.Text.Pieces

/-!
# Envoy — configuration dumps

A sidecar shows its configuration as a list of entries. Each entry names its kind after the last
dot of its type; six kinds are read, the others are passed over, and the last entry of a kind
counts.

* The parts of the six sections, each with a reader and a writer.
* `SectionKind`, `SectionKind.ofEntry?`: the kind of an entry.
* `ConfigDump.ofEntries`, `ConfigDump.ofText`: a dump from its entries and from a document.
* `clusterNames`, `activeListenerNames`, `routeConfig?`, `lbEndpoints`: what the checks ask.
-/

namespace MeshDoctor.Envoy

open Json

/-! ## Parts of sections -/

/-- Something with a name. -/
structure Named where
  name : String := ""
  deriving DecidableEq, Repr, Inhabited

def Named.decode : Decoder Named := fun v => do
  let field ← v.fields? ["name"]
  some ⟨← withDefault "" asText (field "name")⟩

def Named.encode (n : Named) : Value :=
  .object [("name", .string n.name)]

/-- The node that a sidecar says it is. -/
structure Node where
  id : String := ""
  deriving DecidableEq, Repr

def Node.decode : Decoder Node := fun v => do
  let field ← v.fields? ["id"]
  some ⟨← withDefault "" asText (field "id")⟩

def Node.encode (n : Node) : Value :=
  .object [("id", .string n.id)]

/-- What a sidecar started with. -/
structure Bootstrap where
  node : Option Node := none
  deriving DecidableEq, Repr

/-- Reads what a sidecar started with. -/
def Bootstrap.decode : Decoder Bootstrap := fun v => do
  let field ← v.fields? ["node"]
  some ⟨← optional Node.decode (field "node")⟩

/-- Writes what a sidecar started with. -/
def Bootstrap.encode (b : Bootstrap) : Value :=
  .object [("node", .ofOption Node.encode b.node)]

/-- A cluster in the list of clusters. -/
structure ClusterEntry where
  cluster : Named := {}
  deriving DecidableEq, Repr

def ClusterEntry.decode : Decoder ClusterEntry := fun v => do
  let field ← v.fields? ["cluster"]
  some ⟨← withDefault {} Named.decode (field "cluster")⟩

def ClusterEntry.encode (c : ClusterEntry) : Value :=
  .object [("cluster", c.cluster.encode)]

/-- The listener in one of its states. -/
structure ListenerState where
  listener : Named := {}
  deriving DecidableEq, Repr

def ListenerState.decode : Decoder ListenerState := fun v => do
  let field ← v.fields? ["listener"]
  some ⟨← withDefault {} Named.decode (field "listener")⟩

def ListenerState.encode (s : ListenerState) : Value :=
  .object [("listener", s.listener.encode)]

/-- A listener; without an active state it serves no traffic. -/
structure DynamicListener where
  name : String := ""
  active : Option ListenerState := none
  deriving DecidableEq, Repr

def DynamicListener.decode : Decoder DynamicListener := fun v => do
  let field ← v.fields? ["name", "active_state"]
  some
    ⟨← withDefault "" asText (field "name"), ← optional ListenerState.decode (field "active_state")⟩

def DynamicListener.encode (l : DynamicListener) : Value :=
  .object [("active_state", .ofOption ListenerState.encode l.active), ("name", .string l.name)]

/-- A virtual host and the domains it serves. -/
structure VirtualHost where
  name : String := ""
  domains : List String := []
  deriving DecidableEq, Repr

def VirtualHost.decode : Decoder VirtualHost := fun v => do
  let field ← v.fields? ["name", "domains"]
  some ⟨← withDefault "" asText (field "name"), ← withDefault [] (asList asText) (field "domains")⟩

def VirtualHost.encode (h : VirtualHost) : Value :=
  .object [("domains", .ofTexts h.domains), ("name", .string h.name)]

/-- A route configuration. -/
structure RouteConfig where
  name : String := ""
  virtualHosts : List VirtualHost := []
  deriving DecidableEq, Repr

def RouteConfig.decode : Decoder RouteConfig := fun v => do
  let field ← v.fields? ["name", "virtual_hosts"]
  some
    ⟨← withDefault "" asText (field "name"),
      ← withDefault [] (asList VirtualHost.decode) (field "virtual_hosts")⟩

def RouteConfig.encode (r : RouteConfig) : Value :=
  .object [("name", .string r.name), ("virtual_hosts", .array (r.virtualHosts.map (·.encode)))]

/-- A route configuration in the list of routes. -/
structure RouteEntry where
  routeConfig : RouteConfig := {}
  deriving DecidableEq, Repr

def RouteEntry.decode : Decoder RouteEntry := fun v => do
  let field ← v.fields? ["route_config"]
  some ⟨← withDefault {} RouteConfig.decode (field "route_config")⟩

def RouteEntry.encode (r : RouteEntry) : Value :=
  .object [("route_config", r.routeConfig.encode)]

/-- A port. -/
def asPort : Decoder UInt32 := fun v => (asNat UInt32.size v).map UInt32.ofNat

/-- A socket address. -/
structure SocketAddress where
  address : String := ""
  port : UInt32 := 0
  deriving DecidableEq, Repr

def SocketAddress.decode : Decoder SocketAddress := fun v => do
  let field ← v.fields? ["address", "port_value"]
  some
    ⟨← withDefault "" asText (field "address"), ← withDefault 0 asPort (field "port_value")⟩

def SocketAddress.encode (s : SocketAddress) : Value :=
  .object [("address", .string s.address), ("port_value", .int s.port.toNat)]

/-- An address. -/
structure Address where
  socket : Option SocketAddress := none
  deriving DecidableEq, Repr

def Address.decode : Decoder Address := fun v => do
  let field ← v.fields? ["socket_address"]
  some ⟨← optional SocketAddress.decode (field "socket_address")⟩

def Address.encode (a : Address) : Value :=
  .object [("socket_address", .ofOption SocketAddress.encode a.socket)]

/-- An endpoint. -/
structure Endpoint where
  address : Option Address := none
  deriving DecidableEq, Repr

def Endpoint.decode : Decoder Endpoint := fun v => do
  let field ← v.fields? ["address"]
  some ⟨← optional Address.decode (field "address")⟩

def Endpoint.encode (e : Endpoint) : Value :=
  .object [("address", .ofOption Address.encode e.address)]

/-- An endpoint that traffic is spread over. -/
structure LbEndpoint where
  endpoint : Option Endpoint := none
  deriving DecidableEq, Repr

def LbEndpoint.decode : Decoder LbEndpoint := fun v => do
  let field ← v.fields? ["endpoint"]
  some ⟨← optional Endpoint.decode (field "endpoint")⟩

def LbEndpoint.encode (e : LbEndpoint) : Value :=
  .object [("endpoint", .ofOption Endpoint.encode e.endpoint)]

/-- The address of an endpoint, if it is a socket. -/
def LbEndpoint.ip? (e : LbEndpoint) : Option String := do
  let endpoint ← e.endpoint
  let address ← endpoint.address
  let socket ← address.socket
  some socket.address

/-- The endpoints of a locality. -/
structure Locality where
  endpoints : List LbEndpoint := []
  deriving DecidableEq, Repr

def Locality.decode : Decoder Locality := fun v => do
  let field ← v.fields? ["lb_endpoints"]
  some ⟨← withDefault [] (asList LbEndpoint.decode) (field "lb_endpoints")⟩

def Locality.encode (l : Locality) : Value :=
  .object [("lb_endpoints", .array (l.endpoints.map (·.encode)))]

/-- The endpoints of a cluster, by locality. -/
structure LoadAssignment where
  clusterName : String := ""
  localities : List Locality := []
  deriving DecidableEq, Repr

def LoadAssignment.decode : Decoder LoadAssignment := fun v => do
  let field ← v.fields? ["cluster_name", "endpoints"]
  some
    ⟨← withDefault "" asText (field "cluster_name"),
      ← withDefault [] (asList Locality.decode) (field "endpoints")⟩

def LoadAssignment.encode (l : LoadAssignment) : Value :=
  .object
    [("cluster_name", .string l.clusterName), ("endpoints", .array (l.localities.map (·.encode)))]

/-- The endpoints of a load assignment. -/
def LoadAssignment.lbEndpoints (l : LoadAssignment) : List LbEndpoint :=
  l.localities.flatMap (·.endpoints)

/-- A load assignment in the list of endpoints. -/
structure EndpointEntry where
  endpointConfig : LoadAssignment := {}
  deriving DecidableEq, Repr

def EndpointEntry.decode : Decoder EndpointEntry := fun v => do
  let field ← v.fields? ["endpoint_config"]
  some ⟨← withDefault {} LoadAssignment.decode (field "endpoint_config")⟩

def EndpointEntry.encode (e : EndpointEntry) : Value :=
  .object [("endpoint_config", e.endpointConfig.encode)]

/-! ## Sections -/

/-- The section on what the sidecar started with. -/
structure BootstrapSection where
  bootstrap : Bootstrap := {}
  deriving DecidableEq, Repr

def BootstrapSection.decode : Decoder BootstrapSection := fun v => do
  let field ← v.fields? ["bootstrap"]
  some ⟨← withDefault {} Bootstrap.decode (field "bootstrap")⟩

/-- The members of the section on the start. -/
def BootstrapSection.members (s : BootstrapSection) : List (String × Value) :=
  [("bootstrap", s.bootstrap.encode)]

/-- The section on clusters. -/
structure ClustersSection where
  fixed : List ClusterEntry := []
  active : List ClusterEntry := []
  deriving DecidableEq, Repr

def ClustersSection.decode : Decoder ClustersSection := fun v => do
  let field ← v.fields? ["static_clusters", "dynamic_active_clusters"]
  some
    ⟨← withDefault [] (asList ClusterEntry.decode) (field "static_clusters"),
      ← withDefault [] (asList ClusterEntry.decode) (field "dynamic_active_clusters")⟩

/-- The members of the section on clusters. -/
def ClustersSection.members (s : ClustersSection) : List (String × Value) :=
  [("dynamic_active_clusters", .array (s.active.map (·.encode))),
    ("static_clusters", .array (s.fixed.map (·.encode)))]

/-- The section on listeners. -/
structure ListenersSection where
  dynamic : List DynamicListener := []
  deriving DecidableEq, Repr

def ListenersSection.decode : Decoder ListenersSection := fun v => do
  let field ← v.fields? ["dynamic_listeners"]
  some ⟨← withDefault [] (asList DynamicListener.decode) (field "dynamic_listeners")⟩

/-- The members of the section on listeners. -/
def ListenersSection.members (s : ListenersSection) : List (String × Value) :=
  [("dynamic_listeners", .array (s.dynamic.map (·.encode)))]

/-- The section on routes. -/
structure RoutesSection where
  fixed : List RouteEntry := []
  dynamic : List RouteEntry := []
  deriving DecidableEq, Repr

def RoutesSection.decode : Decoder RoutesSection := fun v => do
  let field ← v.fields? ["static_route_configs", "dynamic_route_configs"]
  some
    ⟨← withDefault [] (asList RouteEntry.decode) (field "static_route_configs"),
      ← withDefault [] (asList RouteEntry.decode) (field "dynamic_route_configs")⟩

/-- The members of the section on routes. -/
def RoutesSection.members (s : RoutesSection) : List (String × Value) :=
  [("dynamic_route_configs", .array (s.dynamic.map (·.encode))),
    ("static_route_configs", .array (s.fixed.map (·.encode)))]

/-- The section on secrets. -/
structure SecretsSection where
  active : List Named := []
  warming : List Named := []
  deriving DecidableEq, Repr

def SecretsSection.decode : Decoder SecretsSection := fun v => do
  let field ← v.fields? ["dynamic_active_secrets", "dynamic_warming_secrets"]
  some
    ⟨← withDefault [] (asList Named.decode) (field "dynamic_active_secrets"),
      ← withDefault [] (asList Named.decode) (field "dynamic_warming_secrets")⟩

/-- The members of the section on secrets. -/
def SecretsSection.members (s : SecretsSection) : List (String × Value) :=
  [("dynamic_active_secrets", .array (s.active.map (·.encode))),
    ("dynamic_warming_secrets", .array (s.warming.map (·.encode)))]

/-- The section on endpoints. -/
structure EndpointsSection where
  dynamic : List EndpointEntry := []
  deriving DecidableEq, Repr

def EndpointsSection.decode : Decoder EndpointsSection := fun v => do
  let field ← v.fields? ["dynamic_endpoint_configs"]
  some ⟨← withDefault [] (asList EndpointEntry.decode) (field "dynamic_endpoint_configs")⟩

/-- The members of the section on endpoints. -/
def EndpointsSection.members (s : EndpointsSection) : List (String × Value) :=
  [("dynamic_endpoint_configs", .array (s.dynamic.map (·.encode)))]

/-! ## Dumps -/

/-- The configuration of a sidecar. -/
structure ConfigDump where
  bootstrap : BootstrapSection := {}
  clusters : ClustersSection := {}
  listeners : ListenersSection := {}
  routes : RoutesSection := {}
  secrets : SecretsSection := {}
  endpoints : EndpointsSection := {}
  deriving DecidableEq, Repr

/-- The kinds of entries that are read. -/
inductive SectionKind where
  | bootstrap
  | clusters
  | listeners
  | routes
  | secrets
  | endpoints
  deriving DecidableEq, Repr

namespace SectionKind

/-- Every kind. -/
def all : List SectionKind := [bootstrap, clusters, listeners, routes, secrets, endpoints]

/-- The name of a kind at the end of a type. -/
def name : SectionKind → String
  | bootstrap => "BootstrapConfigDump"
  | clusters => "ClustersConfigDump"
  | listeners => "ListenersConfigDump"
  | routes => "RoutesConfigDump"
  | secrets => "SecretsConfigDump"
  | endpoints => "EndpointsConfigDump"

/-- The part of a type after its last dot. -/
def tailOf (typeUrl : String) : String :=
  match Text.cutLast '.' typeUrl.toList with
  | some (_, tail) => String.ofList tail
  | none => typeUrl

/-- The kind that a type ends with. -/
def ofType? (typeUrl : String) : Option SectionKind :=
  all.find? (·.name = tailOf typeUrl)

/-- The kind of an entry, if it is one that is read. -/
def ofEntry? (entry : Value) : Option SectionKind :=
  ((entry.member? "@type").bind Value.text?).bind ofType?

end SectionKind

namespace ConfigDump

/-- Puts the section that an entry denotes into a dump. -/
def readSection (kind : SectionKind) (entry : Value) (dump : ConfigDump) : Option ConfigDump :=
  match kind with
  | .bootstrap => (BootstrapSection.decode entry).map fun s => { dump with bootstrap := s }
  | .clusters => (ClustersSection.decode entry).map fun s => { dump with clusters := s }
  | .listeners => (ListenersSection.decode entry).map fun s => { dump with listeners := s }
  | .routes => (RoutesSection.decode entry).map fun s => { dump with routes := s }
  | .secrets => (SecretsSection.decode entry).map fun s => { dump with secrets := s }
  | .endpoints => (EndpointsSection.decode entry).map fun s => { dump with endpoints := s }

/-- Takes one entry into a dump; one of another kind changes nothing. -/
def addEntry (dump : ConfigDump) (entry : Value) : Except Failure ConfigDump :=
  match SectionKind.ofEntry? entry with
  | none => .ok dump
  | some kind =>
    match readSection kind entry dump with
    | some dump => .ok dump
    | none => .error ⟨["Failed to parse " ++ kind.name ++ " section"], .malformedJson⟩

/-- The dump that a list of entries denotes. -/
def ofEntries (entries : List Value) : Except Failure ConfigDump :=
  entries.foldlM addEntry {}

/-- The entries of a document, which may name its list once. -/
def entriesOf : Document → Option (List Value)
  | .object members =>
    if 1 < (members.filter (·.1 = "configs")).length then none
    else withDefault [] (asList some) (members.lookup "configs")
  | .other v => do
    let field ← v.fields? ["configs"]
    withDefault [] (asList some) (field "configs")

/-- The dump that a document denotes. -/
def ofText (text : String) : Except Failure ConfigDump :=
  match (Document.read? ["configs"] text).bind entriesOf with
  | some entries => ofEntries entries
  | none => .error ⟨["Invalid config_dump document"], .malformedJson⟩

/-- The members of the section of a kind. -/
def sectionMembers (dump : ConfigDump) : SectionKind → List (String × Value)
  | .bootstrap => dump.bootstrap.members
  | .clusters => dump.clusters.members
  | .listeners => dump.listeners.members
  | .routes => dump.routes.members
  | .secrets => dump.secrets.members
  | .endpoints => dump.endpoints.members

/-- The section of a kind as an entry of a document, under a type. -/
def entry (dump : ConfigDump) (typeUrl : String) (kind : SectionKind) : Value :=
  .object (("@type", .string typeUrl) :: dump.sectionMembers kind)

/-- The sections side by side. -/
def encode (dump : ConfigDump) : Value :=
  .object
    [("bootstrap", .object dump.bootstrap.members), ("clusters", .object dump.clusters.members),
      ("endpoints", .object dump.endpoints.members), ("listeners", .object dump.listeners.members),
      ("routes", .object dump.routes.members), ("secrets", .object dump.secrets.members)]

/-! ## What the checks ask -/

/-- The node that the sidecar says it is. -/
def nodeId? (dump : ConfigDump) : Option String :=
  dump.bootstrap.bootstrap.node.map (·.id)

/-- The names of the clusters that take traffic. -/
def clusterNames (dump : ConfigDump) : List String :=
  (dump.clusters.fixed ++ dump.clusters.active).map (·.cluster.name)

/-- The names of the listeners that serve traffic. -/
def activeListenerNames (dump : ConfigDump) : List String :=
  dump.listeners.dynamic.filterMap fun l => l.active.map (·.listener.name)

/-- The first route configuration of a name. -/
def routeConfig? (dump : ConfigDump) (name : String) : Option RouteConfig :=
  ((dump.routes.fixed ++ dump.routes.dynamic).map (·.routeConfig)).find? (·.name = name)

/-- The load assignments. -/
def loadAssignments (dump : ConfigDump) : List LoadAssignment :=
  dump.endpoints.dynamic.map (·.endpointConfig)

/-- Every endpoint that traffic is spread over. -/
def lbEndpoints (dump : ConfigDump) : List LbEndpoint :=
  dump.loadAssignments.flatMap (·.lbEndpoints)

/-- The names of the secrets that are still warming. -/
def warmingSecretNames (dump : ConfigDump) : List String :=
  dump.secrets.warming.map (·.name)

end ConfigDump

end MeshDoctor.Envoy
