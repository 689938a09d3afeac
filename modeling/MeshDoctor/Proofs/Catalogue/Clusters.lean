import MeshDoctor.Cluster.Snapshot
import MeshDoctor.Proofs.Catalogue.Outcomes
import MeshDoctor.Proofs.Cluster.Services
import MeshDoctor.Proofs.Envoy.RoundTrip

/-!
# Catalogue — clusters of a destination

A sidecar sends traffic to a service through the cluster of its namespace and its name.

* `ConfigDump.HasCluster`: a fixed or an active cluster of the dump has the name.
* `Pod.clustersAmong`: the clusters of the services that select a pod.
* `ofEntries_warmingClusters`: clusters that are still warming are not read.
* **`Diagnostic.hasCluster_verdict`**: what the check of the clusters says, and why.
-/

namespace MeshDoctor

open Catalogue Envoy Json

/-! ## Names of clusters -/

/-- A fixed or an active cluster of the dump has the name. -/
def Envoy.ConfigDump.HasCluster (dump : ConfigDump) (name : String) : Prop :=
  ∃ entry, (entry ∈ dump.clusters.fixed ∨ entry ∈ dump.clusters.active) ∧
    entry.cluster.name = name

/-- The cluster of a service. -/
def clusterOf (ns name : String) : String := ns ++ "/" ++ name

/-- The clusters of the services that select the pod, in the order of the services. -/
def Pod.clustersAmong (pod : Pod) (services : List Service) : List String :=
  (pod.servicesAmong services).map (clusterOf pod.ref.namespace)

theorem mem_clusterNames_iff {dump : ConfigDump} {name : String} :
    name ∈ dump.clusterNames ↔ dump.HasCluster name := by
  simp only [ConfigDump.clusterNames, ConfigDump.HasCluster, List.mem_map, List.mem_append]

theorem Envoy.ConfigDump.HasCluster.mono {dump dump' : ConfigDump} {name : String}
    (h : dump.HasCluster name) (hfixed : dump.clusters.fixed ⊆ dump'.clusters.fixed)
    (hactive : dump.clusters.active ⊆ dump'.clusters.active) : dump'.HasCluster name := by
  obtain ⟨entry, hentry, hname⟩ := h
  exact ⟨entry, hentry.imp (fun h => hfixed h) (fun h => hactive h), hname⟩

/-! ## Clusters that are warming -/

section Warming

variable {members more : List (String × Value)} {v : Value}

theorem lookup_warmingClusters {name : String} (h : name ≠ "dynamic_warming_clusters") :
    (members ++ ("dynamic_warming_clusters", v) :: more).lookup name =
      (members ++ more).lookup name := by
  rw [List.lookup_append, List.lookup_append, List.lookup_cons, beq_eq_false_iff_ne.mpr h]

/-- No section is read from the clusters that are warming. -/
theorem readSection_warmingClusters (kind : SectionKind) (dump : ConfigDump) :
    ConfigDump.readSection kind
        (.object (members ++ ("dynamic_warming_clusters", v) :: more)) dump =
      ConfigDump.readSection kind (.object (members ++ more)) dump := by
  cases kind <;>
    simp [ConfigDump.readSection, BootstrapSection.decode, ClustersSection.decode,
      ListenersSection.decode, RoutesSection.decode, SecretsSection.decode, EndpointsSection.decode,
      lookup_warmingClusters]

theorem addEntry_warmingClusters (dump : ConfigDump) :
    dump.addEntry (.object (members ++ ("dynamic_warming_clusters", v) :: more)) =
      dump.addEntry (.object (members ++ more)) := by
  have hkind : SectionKind.ofEntry? (.object (members ++ ("dynamic_warming_clusters", v) :: more)) =
      SectionKind.ofEntry? (.object (members ++ more)) := by
    rw [SectionKind.ofEntry?, SectionKind.ofEntry?, Value.member?, Value.member?,
      lookup_warmingClusters (by decide)]
  rw [ConfigDump.addEntry, ConfigDump.addEntry, hkind]
  simp only [readSection_warmingClusters]

theorem ofEntries_warmingClusters (front back : List Value) :
    ConfigDump.ofEntries
        (front ++ .object (members ++ ("dynamic_warming_clusters", v) :: more) :: back) =
      ConfigDump.ofEntries (front ++ .object (members ++ more) :: back) := by
  simp only [ConfigDump.ofEntries, List.foldlM_append, List.foldlM_cons, addEntry_warmingClusters]

end Warming

/-! ## The check -/

namespace Catalogue

variable {w : World} {destination : PodRef} {getter : Option Getter} {dump : ConfigDump} {pod : Pod}
  {services : List Service}

/-- The services that select the pod and the clusters of the dump decide on the verdict. -/
theorem verdict_hasCluster (hdump : w.finds (loadConfig getter) = .ok dump)
    (hpod : w.finds (getPod destination) = .ok pod)
    (hservices : w.finds (listAs Service.decode .services (.inNamespace pod.ref.namespace)) =
      .ok services) :
    w.verdict (hasCluster destination getter) =
      if pod.clustersAmong services = [] then .fail (.noServicesForPod destination.text)
      else if pod.clustersAmong services ⊆ dump.clusterNames then .pass none
      else .fail (.clusterNotFound (pod.clustersAmong services) dump.clusterNames) := by
  have hnames : w.finds (serviceNamesFor pod) = .ok (pod.clustersAmong services) :=
    finds_serviceNamesFor hservices
  have hall : (pod.clustersAmong services).all dump.clusterNames.contains = true ↔
      pod.clustersAmong services ⊆ dump.clusterNames := by
    simp [List.subset_def]
  rw [hasCluster, World.verdict_bind_of_ok hdump, World.verdict_lookup_of_ok hpod,
    World.verdict_lookup_of_ok hnames]
  simp only [hall, List.isEmpty_iff]
  split_ifs <;> rfl

/-- The configuration is all that the check reads of a getter. -/
theorem verdict_hasCluster_congr {getter' : Option Getter}
    (h : w.finds (loadConfig getter') = w.finds (loadConfig getter)) :
    w.verdict (hasCluster destination getter') = w.verdict (hasCluster destination getter) := by
  rw [World.verdict, World.verdict, hasCluster, hasCluster, World.finds_bind, World.finds_bind, h]

end Catalogue

theorem clustersAmong_eq_nil_iff {pod : Pod} {services : List Service} :
    pod.clustersAmong services = [] ↔
      ¬ ∃ name, ∃ service ∈ services, service.metadata.name = some name ∧ service.Selects pod := by
  rw [Pod.clustersAmong, List.map_eq_nil_iff, List.eq_nil_iff_forall_not_mem, not_exists]
  exact forall_congr' fun name => not_congr mem_servicesAmong

theorem clustersAmong_subset_iff {pod : Pod} {services : List Service} {dump : ConfigDump} :
    pod.clustersAmong services ⊆ dump.clusterNames ↔
      ∀ name, (∃ service ∈ services, service.metadata.name = some name ∧ service.Selects pod) →
        dump.HasCluster (clusterOf pod.ref.namespace name) := by
  rw [Pod.clustersAmong, List.subset_def, List.forall_mem_map]
  exact forall_congr' fun name => imp_congr mem_servicesAmong mem_clusterNames_iff

/-- **The check passes if there is a cluster of every service that selects the pod.** Without such a
service it gives up, and without one of the clusters it reports those it needs and those there are.
Further clusters do not make it fail, and clusters that are warming do not matter. -/
theorem Diagnostic.hasCluster_verdict (w : World) (source destination : PodRef)
    (getter : Option Getter) {dump : ConfigDump} {pod : Pod} {services : List Service}
    (hdump : w.finds (loadConfig getter) = .ok dump)
    (hpod : w.finds (getPod destination) = .ok pod)
    (hservices : w.finds (listAs Service.decode .services (.inNamespace pod.ref.namespace)) =
      .ok services) :
    let outcome (getter : Option Getter) := (hasCluster source destination getter).outcome? w
    let hasService (name : String) :=
      ∃ service ∈ services, service.metadata.name = some name ∧ service.Selects pod
    let hasClusterOf (name : String) := dump.HasCluster (clusterOf pod.ref.namespace name)
    (outcome getter = some (.fail (.noServicesForPod destination.text)) ↔
      ¬ ∃ name, hasService name) ∧
    (outcome getter = some (.pass none) ↔
      (∃ name, hasService name) ∧ ∀ name, hasService name → hasClusterOf name) ∧
    ((∃ name, hasService name ∧ ¬ hasClusterOf name) →
      outcome getter = some (.fail (.clusterNotFound (pod.clustersAmong services)
        (dump.clusters.fixed.map (·.cluster.name) ++ dump.clusters.active.map (·.cluster.name))))) ∧
    (∀ getter' dump', w.finds (loadConfig getter') = .ok dump' →
      dump.clusters.fixed ⊆ dump'.clusters.fixed → dump.clusters.active ⊆ dump'.clusters.active →
      outcome getter = some (.pass none) → outcome getter' = some (.pass none)) ∧
    ∀ ref text text' front back members more v,
      ListsEntries text (front ++ .object (members ++ more) :: back) →
      ListsEntries text'
        (front ++ .object (members ++ ("dynamic_warming_clusters", v) :: more) :: back) →
      outcome (some (.canned ref (.ok text'))) = outcome (some (.canned ref (.ok text))) := by
  intro outcome hasService hasClusterOf
  have houtcome (g : Option Getter) :
      outcome g = some (w.verdict (Catalogue.hasCluster destination g)) :=
    outcome?_eq _ _
  have hverdict {g : Option Getter} {dump : ConfigDump} (h : w.finds (loadConfig g) = .ok dump) :=
    (houtcome g).trans (congrArg some (verdict_hasCluster h hpod hservices))
  have hserved : pod.clustersAmong services = [] ↔ ¬ ∃ name, hasService name :=
    clustersAmong_eq_nil_iff
  have hpass {g : Option Getter} {dump : ConfigDump} (h : w.finds (loadConfig g) = .ok dump) :
      outcome g = some (.pass none) ↔ (∃ name, hasService name) ∧
        ∀ name, hasService name → dump.HasCluster (clusterOf pod.ref.namespace name) := by
    rw [hverdict h, ← clustersAmong_subset_iff, ← not_iff_comm.mp hserved.symm]
    split_ifs with hnone hall
    · simp [hnone]
    · simp [hnone, hall]
    · simp [hall]
  refine ⟨?_, hpass hdump, ?_, ?_, ?_⟩
  · rw [hverdict hdump, ← hserved]
    split_ifs with hnone <;> simp [hnone]
  · rintro ⟨name, hname, hmissing⟩
    have hnone : pod.clustersAmong services ≠ [] := fun hnone => hserved.mp hnone ⟨name, hname⟩
    have hall : ¬ pod.clustersAmong services ⊆ dump.clusterNames := fun hall =>
      hmissing (clustersAmong_subset_iff.mp hall name hname)
    rw [hverdict hdump, if_neg hnone, if_neg hall, ConfigDump.clusterNames, List.map_append]
  · intro getter' dump' hdump' hfixed hactive h
    obtain ⟨hsome, hall⟩ := (hpass hdump).mp h
    exact (hpass hdump').mpr ⟨hsome, fun name hname => (hall name hname).mono hfixed hactive⟩
  · intro ref text text' front back members more v hlists hlists'
    have htext : ConfigDump.ofText text' = ConfigDump.ofText text := by
      rw [ConfigDump.ofText_of_listsEntries hlists', ConfigDump.ofText_of_listsEntries hlists,
        ofEntries_warmingClusters]
    have hfinds : w.finds (loadConfig (some (.canned ref (.ok text')))) =
        w.finds (loadConfig (some (.canned ref (.ok text)))) := by
      rw [finds_loadConfig_text, finds_loadConfig_text, Getter.decode, Getter.decode, htext]
    rw [houtcome, houtcome, verdict_hasCluster_congr hfinds]

/-! ## Two releases of a store -/

/-- A store with two services that select it, and another service. -/
def servedShop : Snapshot where
  objects :=
    let metadata (name : String) : String × Value := ("metadata", .object
      [("labels", .object [("app", .string "store"), ("release", .string "v1")]),
        ("name", .string name), ("namespace", .string "stock")])
    let service (name : String) (selector : List (String × Value)) : String × Value :=
      (Kind.services.name, .object
        [metadata name, ("spec", .object [("selector", .object selector)])])
    [(Kind.pods.name, .object [metadata "store-0"]),
      service "store" [("app", .string "store")],
      service "cache" [("app", .string "cache")],
      service "store-v1" [("app", .string "store"), ("release", .string "v1")]]

/-- A dump with the cluster of the store and active ones. -/
def clustersOver (active : List String) : ConfigDump where
  clusters := { fixed := [⟨⟨"stock/store"⟩⟩], active := active.map fun name => ⟨⟨name⟩⟩ }

/-- The check passes once the cluster of the second service is active. -/
theorem Diagnostic.hasCluster_verdict_served :
    let outcome (active : List String) :=
      (hasCluster ⟨"shop", "buyer"⟩ ⟨"stock", "store-0"⟩
        (some (.canned ⟨"shop", "buyer"⟩ (.ok (clustersOver active).shown)))).outcome?
          servedShop.world
    (∀ active, servedShop.world.finds (loadConfig
        (some (.canned ⟨"shop", "buyer"⟩ (.ok (clustersOver active).shown)))) =
          .ok (clustersOver active)) ∧
      outcome [] = some (.fail
        (.clusterNotFound ["stock/store", "stock/store-v1"] ["stock/store"])) ∧
      outcome ["stock/store-v1"] = some (.pass none) := by
  intro outcome
  have hdump (active : List String) : servedShop.world.finds (loadConfig
      (some (.canned ⟨"shop", "buyer"⟩ (.ok (clustersOver active).shown)))) =
        .ok (clustersOver active) :=
    finds_loadConfig_canned (ConfigDump.ofText_shown _)
  obtain ⟨pod, services, hpod, hservices, hns, hnames⟩ : ∃ pod services,
      servedShop.world.finds (getPod ⟨"stock", "store-0"⟩) = .ok pod ∧
        servedShop.world.finds
          (listAs Service.decode .services (.inNamespace pod.ref.namespace)) = .ok services ∧
        pod.ref.namespace = "stock" ∧ pod.servicesAmong services = ["store", "store-v1"] :=
    ⟨_, _, rfl, rfl, rfl, rfl⟩
  have hverdict (active : List String) := hasCluster_verdict servedShop.world ⟨"shop", "buyer"⟩
    ⟨"stock", "store-0"⟩ _ (hdump active) hpod hservices
  have hservice (name : String) : (∃ service ∈ services, service.metadata.name = some name ∧
      service.Selects pod) ↔ name = "store" ∨ name = "store-v1" := by
    rw [← mem_servicesAmong, hnames, List.mem_cons, List.mem_singleton]
  simp only [hservice, hns, Pod.clustersAmong, hnames] at hverdict
  refine ⟨hdump, ?_, ?_⟩
  · obtain ⟨-, -, hmissing, -⟩ := hverdict []
    refine hmissing ⟨"store-v1", .inr rfl, ?_⟩
    rintro ⟨entry, hentry, hname⟩
    obtain rfl : entry = ⟨⟨"stock/store"⟩⟩ := by simpa [clustersOver] using hentry
    exact absurd hname (by decide)
  · obtain ⟨-, hpass, -⟩ := hverdict ["stock/store-v1"]
    refine hpass.mpr ⟨⟨"store", .inl rfl⟩, ?_⟩
    rintro name (rfl | rfl)
    · exact ⟨⟨⟨"stock/store"⟩⟩, .inl (by decide), rfl⟩
    · exact ⟨⟨⟨"stock/store-v1"⟩⟩, .inr (by decide), rfl⟩

end MeshDoctor
