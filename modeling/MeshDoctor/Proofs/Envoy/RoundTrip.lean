import MeshDoctor.Proofs.Envoy.Document
import MeshDoctor.Proofs.Json.Codec

/-!
# Envoy — reading back a configuration dump

* `Named.inverts` to `EndpointEntry.inverts`: each part is decoded from what it is written as.
* `Named.readable` to `EndpointEntry.readable`: what a part is written as can be printed and read.
* `ConfigDump.decode_entry`, `ConfigDump.readable_entry`: so it is for the sections.
* **`ConfigDump.ofText_printed`**: the printed sections of a dump, in any order, are read as the
  dump.
* `ConfigDump.shown`: a text that shows a dump.
-/

namespace MeshDoctor.Envoy

open Json

/-! ## Parts are decoded -/

theorem Named.inverts : Inverts Named.decode Named.encode := by
  intro n
  simp [Named.decode, Named.encode]

theorem Node.inverts : Inverts Node.decode Node.encode := by
  intro n
  simp [Node.decode, Node.encode]

theorem Bootstrap.inverts : Inverts Bootstrap.decode Bootstrap.encode := by
  intro b
  have hnode := optional_ofOption Node.inverts (fun _ => Value.noConfusion) b.node
  simp [Bootstrap.decode, Bootstrap.encode, hnode]

theorem ClusterEntry.inverts : Inverts ClusterEntry.decode ClusterEntry.encode := by
  intro c
  simp [ClusterEntry.decode, ClusterEntry.encode, Named.inverts c.cluster]

theorem ListenerState.inverts : Inverts ListenerState.decode ListenerState.encode := by
  intro s
  simp [ListenerState.decode, ListenerState.encode, Named.inverts s.listener]

theorem DynamicListener.inverts : Inverts DynamicListener.decode DynamicListener.encode := by
  intro l
  have hactive := optional_ofOption ListenerState.inverts (fun _ => Value.noConfusion) l.active
  simp [DynamicListener.decode, DynamicListener.encode, List.lookup_cons, hactive]

theorem VirtualHost.inverts : Inverts VirtualHost.decode VirtualHost.encode := by
  intro h
  simp [VirtualHost.decode, VirtualHost.encode, List.lookup_cons]

theorem RouteConfig.inverts : Inverts RouteConfig.decode RouteConfig.encode := by
  intro r
  have hhosts := asList_map VirtualHost.inverts r.virtualHosts
  simp [RouteConfig.decode, RouteConfig.encode, List.lookup_cons, hhosts]

theorem RouteEntry.inverts : Inverts RouteEntry.decode RouteEntry.encode := by
  intro r
  simp [RouteEntry.decode, RouteEntry.encode, RouteConfig.inverts r.routeConfig]

theorem asPort_toNat (port : UInt32) : asPort (.int port.toNat) = some port := by
  rw [asPort, asNat_natCast port.toNat_lt_size, Option.map_some, UInt32.ofNat_toNat]

theorem SocketAddress.inverts : Inverts SocketAddress.decode SocketAddress.encode := by
  intro s
  simp [SocketAddress.decode, SocketAddress.encode, List.lookup_cons, asPort_toNat]

theorem Address.inverts : Inverts Address.decode Address.encode := by
  intro a
  have hsocket := optional_ofOption SocketAddress.inverts (fun _ => Value.noConfusion) a.socket
  simp [Address.decode, Address.encode, hsocket]

theorem Endpoint.inverts : Inverts Endpoint.decode Endpoint.encode := by
  intro e
  have haddress := optional_ofOption Address.inverts (fun _ => Value.noConfusion) e.address
  simp [Endpoint.decode, Endpoint.encode, haddress]

theorem LbEndpoint.inverts : Inverts LbEndpoint.decode LbEndpoint.encode := by
  intro e
  have hendpoint := optional_ofOption Endpoint.inverts (fun _ => Value.noConfusion) e.endpoint
  simp [LbEndpoint.decode, LbEndpoint.encode, hendpoint]

theorem Locality.inverts : Inverts Locality.decode Locality.encode := by
  intro l
  simp [Locality.decode, Locality.encode, asList_map LbEndpoint.inverts l.endpoints]

theorem LoadAssignment.inverts : Inverts LoadAssignment.decode LoadAssignment.encode := by
  intro l
  have hlocalities := asList_map Locality.inverts l.localities
  simp [LoadAssignment.decode, LoadAssignment.encode, List.lookup_cons, hlocalities]

theorem EndpointEntry.inverts : Inverts EndpointEntry.decode EndpointEntry.encode := by
  intro e
  simp [EndpointEntry.decode, EndpointEntry.encode, LoadAssignment.inverts e.endpointConfig]

/-! ## Sections are decoded

A section is an entry of a document next to the type of the entry, which no section looks at. -/

section Sections

variable (type : Value)

theorem BootstrapSection.decode_members (s : BootstrapSection) :
    decode (.object (("@type", type) :: s.members)) = some s := by
  simp [decode, members, List.lookup_cons, Bootstrap.inverts s.bootstrap]

theorem ClustersSection.decode_members (s : ClustersSection) :
    decode (.object (("@type", type) :: s.members)) = some s := by
  have hfixed := asList_map ClusterEntry.inverts s.fixed
  have hactive := asList_map ClusterEntry.inverts s.active
  simp [decode, members, List.lookup_cons, hfixed, hactive]

theorem ListenersSection.decode_members (s : ListenersSection) :
    decode (.object (("@type", type) :: s.members)) = some s := by
  simp [decode, members, List.lookup_cons, asList_map DynamicListener.inverts s.dynamic]

theorem RoutesSection.decode_members (s : RoutesSection) :
    decode (.object (("@type", type) :: s.members)) = some s := by
  have hfixed := asList_map RouteEntry.inverts s.fixed
  have hdynamic := asList_map RouteEntry.inverts s.dynamic
  simp [decode, members, List.lookup_cons, hfixed, hdynamic]

theorem SecretsSection.decode_members (s : SecretsSection) :
    decode (.object (("@type", type) :: s.members)) = some s := by
  have hactive := asList_map Named.inverts s.active
  have hwarming := asList_map Named.inverts s.warming
  simp [decode, members, List.lookup_cons, hactive, hwarming]

theorem EndpointsSection.decode_members (s : EndpointsSection) :
    decode (.object (("@type", type) :: s.members)) = some s := by
  simp [decode, members, List.lookup_cons, asList_map EndpointEntry.inverts s.dynamic]

end Sections

/-! ## Parts are readable -/

section Readable

variable (levels : Nat)

theorem Named.readable (n : Named) : Readable (levels + 1) n.encode :=
  .ofNames ["name"] rfl (by decide) (by simp [Readable.string])

theorem Node.readable (n : Node) : Readable (levels + 1) n.encode :=
  .ofNames ["id"] rfl (by decide) (by simp [Readable.string])

theorem Bootstrap.readable (b : Bootstrap) : Readable (levels + 2) b.encode :=
  .ofNames ["node"] rfl (by decide) (by simp [Readable.ofOption (Node.readable levels)])

theorem ClusterEntry.readable (c : ClusterEntry) : Readable (levels + 2) c.encode :=
  .ofNames ["cluster"] rfl (by decide) (by simp [Named.readable levels])

theorem ListenerState.readable (s : ListenerState) : Readable (levels + 2) s.encode :=
  .ofNames ["listener"] rfl (by decide) (by simp [Named.readable levels])

theorem DynamicListener.readable (l : DynamicListener) : Readable (levels + 3) l.encode :=
  .ofNames ["active_state", "name"] rfl (by decide)
    (by simp [Readable.string, Readable.ofOption (ListenerState.readable levels)])

theorem VirtualHost.readable (h : VirtualHost) : Readable (levels + 2) h.encode :=
  .ofNames ["domains", "name"] rfl (by decide) (by simp [Readable.string, Readable.ofTexts])

theorem RouteConfig.readable (r : RouteConfig) : Readable (levels + 4) r.encode :=
  .ofNames ["name", "virtual_hosts"] rfl (by decide)
    (by simp [Readable.string, Readable.map (VirtualHost.readable levels)])

theorem RouteEntry.readable (r : RouteEntry) : Readable (levels + 5) r.encode :=
  .ofNames ["route_config"] rfl (by decide) (by simp [RouteConfig.readable levels])

theorem readable_port (port : UInt32) : Readable levels (.int port.toNat) := by
  have hlt : port.toNat < 4294967296 := port.toNat_lt
  have hword : 4294967296 ≤ maxWord := by decide
  exact .int (by omega) (by omega)

theorem SocketAddress.readable (s : SocketAddress) : Readable (levels + 1) s.encode :=
  .ofNames ["address", "port_value"] rfl (by decide) (by simp [Readable.string, readable_port])

theorem Address.readable (a : Address) : Readable (levels + 2) a.encode :=
  .ofNames ["socket_address"] rfl (by decide)
    (by simp [Readable.ofOption (SocketAddress.readable levels)])

theorem Endpoint.readable (e : Endpoint) : Readable (levels + 3) e.encode :=
  .ofNames ["address"] rfl (by decide) (by simp [Readable.ofOption (Address.readable levels)])

theorem LbEndpoint.readable (e : LbEndpoint) : Readable (levels + 4) e.encode :=
  .ofNames ["endpoint"] rfl (by decide) (by simp [Readable.ofOption (Endpoint.readable levels)])

theorem Locality.readable (l : Locality) : Readable (levels + 6) l.encode :=
  .ofNames ["lb_endpoints"] rfl (by decide) (by simp [Readable.map (LbEndpoint.readable levels)])

theorem LoadAssignment.readable (l : LoadAssignment) : Readable (levels + 8) l.encode :=
  .ofNames ["cluster_name", "endpoints"] rfl (by decide)
    (by simp [Readable.string, Readable.map (Locality.readable levels)])

theorem EndpointEntry.readable (e : EndpointEntry) : Readable (levels + 9) e.encode :=
  .ofNames ["endpoint_config"] rfl (by decide) (by simp [LoadAssignment.readable levels])

variable (typeUrl : String)

theorem BootstrapSection.readable_members (s : BootstrapSection) :
    Readable (levels + 3) (.object (("@type", .string typeUrl) :: s.members)) :=
  .ofNames ["@type", "bootstrap"] rfl (by decide)
    (by simp [members, Readable.string, Bootstrap.readable levels])

theorem ClustersSection.readable_members (s : ClustersSection) :
    Readable (levels + 4) (.object (("@type", .string typeUrl) :: s.members)) :=
  .ofNames ["@type", "dynamic_active_clusters", "static_clusters"] rfl (by decide)
    (by simp [members, Readable.string, Readable.map (ClusterEntry.readable levels)])

theorem ListenersSection.readable_members (s : ListenersSection) :
    Readable (levels + 5) (.object (("@type", .string typeUrl) :: s.members)) :=
  .ofNames ["@type", "dynamic_listeners"] rfl (by decide)
    (by simp [members, Readable.string, Readable.map (DynamicListener.readable levels)])

theorem RoutesSection.readable_members (s : RoutesSection) :
    Readable (levels + 7) (.object (("@type", .string typeUrl) :: s.members)) :=
  .ofNames ["@type", "dynamic_route_configs", "static_route_configs"] rfl (by decide)
    (by simp [members, Readable.string, Readable.map (RouteEntry.readable levels)])

theorem SecretsSection.readable_members (s : SecretsSection) :
    Readable (levels + 3) (.object (("@type", .string typeUrl) :: s.members)) :=
  .ofNames ["@type", "dynamic_active_secrets", "dynamic_warming_secrets"] rfl (by decide)
    (by simp [members, Readable.string, Readable.map (Named.readable levels)])

theorem EndpointsSection.readable_members (s : EndpointsSection) :
    Readable (levels + 11) (.object (("@type", .string typeUrl) :: s.members)) :=
  .ofNames ["@type", "dynamic_endpoint_configs"] rfl (by decide)
    (by simp [members, Readable.string, Readable.map (EndpointEntry.readable levels)])

end Readable

/-! ## Dumps -/

namespace ConfigDump

variable (dump : ConfigDump)

theorem decode_entry (typeUrl : String) (kind : SectionKind) :
    kind.decode (dump.entry typeUrl kind) = some (dump.get kind) := by
  cases kind with
  | bootstrap => exact BootstrapSection.decode_members _ dump.bootstrap
  | clusters => exact ClustersSection.decode_members _ dump.clusters
  | listeners => exact ListenersSection.decode_members _ dump.listeners
  | routes => exact RoutesSection.decode_members _ dump.routes
  | secrets => exact SecretsSection.decode_members _ dump.secrets
  | endpoints => exact EndpointsSection.decode_members _ dump.endpoints

/-- A section nests eleven levels at most. -/
theorem readable_entry (levels : Nat) (typeUrl : String) (kind : SectionKind) :
    Readable (levels + 11) (dump.entry typeUrl kind) := by
  cases kind with
  | bootstrap => exact BootstrapSection.readable_members (levels + 8) typeUrl dump.bootstrap
  | clusters => exact ClustersSection.readable_members (levels + 7) typeUrl dump.clusters
  | listeners => exact ListenersSection.readable_members (levels + 6) typeUrl dump.listeners
  | routes => exact RoutesSection.readable_members (levels + 4) typeUrl dump.routes
  | secrets => exact SecretsSection.readable_members (levels + 8) typeUrl dump.secrets
  | endpoints => exact EndpointsSection.readable_members levels typeUrl dump.endpoints

theorem hasKind_entry_iff {typeUrl : String} {kind kind' : SectionKind}
    (htype : IsTypeOf kind typeUrl) : HasKind kind' (dump.entry typeUrl kind) ↔ kind = kind' := by
  have hkind : HasKind kind (dump.entry typeUrl kind) := ⟨typeUrl, rfl, htype⟩
  constructor
  · exact hkind.unique
  · rintro rfl
    exact hkind

section Order

variable {types : SectionKind → String} (htypes : ∀ kind, IsTypeOf kind (types kind))
  {kinds : List SectionKind} (hperm : kinds.Perm SectionKind.all)
include htypes hperm

/-- Each kind has one entry, wherever it stands. -/
theorem filter_entries (kind : SectionKind) :
    (kinds.map fun kind => dump.entry (types kind) kind).filter (HasKind kind ·) =
      [dump.entry (types kind) kind] := by
  have hcount : kinds.count kind = 1 := by
    rw [hperm.count_eq]
    cases kind <;> rfl
  have hkinds : kinds.filter (· = kind) = [kind] := by
    rw [List.filter_eq, hcount]
    rfl
  simp [List.filter_map, Function.comp_def, hasKind_entry_iff dump (htypes _), hkinds]

theorem ofEntries_entries :
    ofEntries (kinds.map fun kind => dump.entry (types kind) kind) = .ok dump := by
  have hall : AllDecode (kinds.map fun kind => dump.entry (types kind) kind) := by
    rw [AllDecode, List.forall_mem_map]
    intro kind _ kind' hkind
    obtain rfl := (hasKind_entry_iff dump (htypes kind)).mp hkind
    rw [decode_entry]
    rfl
  obtain ⟨dump', hdump', hlatest⟩ := ofEntries_of_allDecode hall
  have hsame : dump' = dump := by
    refine ext_get fun kind => Option.some.inj ?_
    rw [← hlatest kind, SectionKind.latest?, filter_entries dump htypes hperm kind,
      ← decode_entry dump (types kind)]
    rfl
  rw [hdump', hsame]

/-- **The printed sections of a dump, in any order, are read as the dump**, and so is every text
that lists them. -/
theorem ofText_printed :
    ofText (Value.object
        [("configs", .array (kinds.map fun kind => dump.entry (types kind) kind))]).compact =
          .ok dump ∧
      ∀ text, ListsEntries text (kinds.map fun kind => dump.entry (types kind) kind) →
        ofText text = .ok dump := by
  have htext : ∀ text, ListsEntries text (kinds.map fun kind => dump.entry (types kind) kind) →
      ofText text = .ok dump := by
    intro text hlists
    rw [ofText_of_listsEntries hlists]
    exact ofEntries_entries dump htypes hperm
  refine ⟨htext _ (listsEntries_printed ?_), htext⟩
  rw [List.forall_mem_map]
  exact fun kind _ => readable_entry dump 114 (types kind) kind

end Order

/-- A text that shows the dump. -/
def shown : String := document (SectionKind.all.map fun kind => dump.entry kind.name kind)

theorem ofText_shown : ofText dump.shown = .ok dump := by
  have hreadable : ∀ entry ∈ SectionKind.all.map fun kind => dump.entry kind.name kind,
      Readable (nestingLimit - 2) entry := by
    rw [List.forall_mem_map]
    exact fun kind _ => readable_entry dump 114 kind.name kind
  rw [shown, document, ofText_of_listsEntries (listsEntries_printed hreadable)]
  exact ofEntries_entries dump (fun kind => .inl rfl) (List.Perm.refl SectionKind.all)

/-! ## A dump of the bookstore -/

/-- A listener that is not active, a name with quotes, and an endpoint without an address. -/
def bookstoreDump : ConfigDump where
  bootstrap := ⟨⟨some ⟨"shop/\"buyer\""⟩⟩⟩
  listeners := ⟨[⟨"outbound", none⟩]⟩
  endpoints :=
    ⟨[⟨⟨"stock/store", [⟨[⟨some ⟨some ⟨some ⟨"10.0.0.7", 4294967295⟩⟩⟩⟩, ⟨none⟩]⟩]⟩⟩]⟩

/-- The sections of the bookstore are read from the last kind to the first. -/
theorem ofText_printed_bookstore :
    (∀ kind, IsTypeOf kind ("type.googleapis.com/envoy.admin.v3." ++ kind.name)) ∧
      SectionKind.all.reverse.Perm SectionKind.all ∧
      ofText (Value.object
        [("configs", .array (SectionKind.all.reverse.map fun kind => bookstoreDump.entry
          ("type.googleapis.com/envoy.admin.v3." ++ kind.name) kind))]).compact =
            .ok bookstoreDump := by
  have htypes : ∀ kind, IsTypeOf kind ("type.googleapis.com/envoy.admin.v3." ++ kind.name) :=
    fun kind => .inr ⟨"type.googleapis.com/envoy.admin.v3", rfl⟩
  have hperm : SectionKind.all.reverse.Perm SectionKind.all := List.reverse_perm _
  exact ⟨htypes, hperm, (ofText_printed bookstoreDump htypes hperm).1⟩

end ConfigDump

end MeshDoctor.Envoy
