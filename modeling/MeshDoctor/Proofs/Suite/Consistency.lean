import MeshDoctor.Proofs.Catalogue.Agreement
import MeshDoctor.Proofs.Catalogue.TrafficPolicy
import MeshDoctor.Proofs.Session.Connect
import MeshDoctor.Proofs.Suite.Records

/-!
# Suites — records that do not contradict each other

The checks between two pods read some facts more than once, each in its own way.

* `Session.Consistent`: what their records never say together.
* **`Session.podToPod_consistent`**: with valid settings and all prerequisites, the records of one
  run between two pods are consistent, whatever the cluster and the sidecars answer.
-/

namespace MeshDoctor

open Envoy

/-- The mesh of valid settings has a name. -/
theorem Config.meshName_ne_empty {c : Config} (h : c.validate = .ok c) : c.meshName ≠ "" := by
  intro hempty
  rw [validate] at h
  cases hfault : c.fault? with
  | some fault =>
    rw [hfault] at h
    cases h
  | none =>
    rw [fault?] at hfault
    split at hfault
    · cases hfault
    · rw [hempty] at hfault
      cases hfault

/-- A request failed, says the record. -/
def Record.IsFailedRequest (r : Record) : Prop := ∃ e, r.problem = some (.failedRequest e)

namespace Session

/-- The checks that read nothing but the pod. -/
def podReadings (pod : PodRef) : List Diagnostic :=
  [.sidecarPresent pod, .proxyUuidLabelled pod, .podReady pod]

/-- The records of the checks between two pods do not contradict each other. -/
structure Consistent (s : Session) (source destination : PodRef) (getter : Option Getter)
    (record : Diagnostic → Record) : Prop where
  /-- Namespaces that the mesh monitors are in the same mesh. -/
  sameMesh :
    (record (.namespaceMonitored source.namespace s.config.meshName)).status = .pass →
    (record (.namespaceMonitored destination.namespace s.config.meshName)).status = .pass →
    (record (.sameMesh source.namespace destination.namespace)).status = .pass
  /-- The endpoint of the destination is an endpoint. -/
  endpoints :
    (record (.hasSpecificEndpoint source destination getter)).status = .pass →
    (record (.hasDestinationEndpoints source getter)).status = .pass
  /-- Where the check of the cluster found services, that of the route does not miss them. -/
  services :
    (record (.hasCluster source destination getter)).status = .pass ∨
        (∃ expected found, (record (.hasCluster source destination getter)).problem =
          some (.clusterNotFound expected found)) →
    ∀ pod, (record (.hasOutboundRoute s.config.mesh source destination getter)).problem ≠
      some (.noServicesForPod pod)
  /-- Where the check of the cluster found no services, that of the route does not use any. -/
  noServices :
    (∃ pod, (record (.hasCluster source destination getter)).problem =
      some (.noServicesForPod pod)) →
    (record (.hasOutboundRoute s.config.mesh source destination getter)).status ≠ .pass ∧
      ∀ config domains,
        (record (.hasOutboundRoute s.config.mesh source destination getter)).problem ≠
          some (.routeDomainNotFound config domains)
  /-- A pod can be read for all checks that read nothing else, or for none. -/
  unreadable :
    ∀ pod ∈ [source, destination],
      (∀ d ∈ podReadings pod, (record d).IsFailedRequest) ∨
        ∀ d ∈ podReadings pod, ¬ (record d).IsFailedRequest

variable {w : World} {source destination : PodRef} {getter : Option Getter}

/-! ## Services -/

section Services

variable (mesh : Mesh)

/-- Unless something is in their way, the checks of the cluster and of the route agree on whether
there are services. -/
theorem lacksServices_hasCluster_iff
    (hcluster : (w.verdict (Catalogue.hasCluster destination getter)).isObstructed = false)
    (hroute :
      (w.verdict (Catalogue.hasOutboundRoute mesh destination getter)).isObstructed = false) :
    (w.verdict (Catalogue.hasCluster destination getter)).LacksServices ↔
      (w.verdict (Catalogue.hasOutboundRoute mesh destination getter)).LacksServices :=
  Catalogue.readsServices_hasCluster.lacksServices_iff Catalogue.readsServices_hasOutboundRoute
    hcluster hroute

theorem hasOutboundRoute_of_services
    (h : (w.verdict (Catalogue.hasCluster destination getter)).status = .pass ∨
      ∃ expected found, (w.verdict (Catalogue.hasCluster destination getter)).problem? =
        some (.clusterNotFound expected found)) :
    ¬ (w.verdict (Catalogue.hasOutboundRoute mesh destination getter)).LacksServices := by
  intro hroute
  have hcluster : (w.verdict (Catalogue.hasCluster destination getter)).isObstructed = false := by
    rcases h with hpass | ⟨expected, found, hproblem⟩
    · exact Outcome.isObstructed_of_pass hpass
    · exact Outcome.isObstructed_of_problem hproblem rfl
  have hlacks := (lacksServices_hasCluster_iff mesh hcluster hroute.isObstructed).mpr hroute
  rcases h with hpass | ⟨expected, found, hproblem⟩
  · exact Outcome.not_lacksServices_of_pass hpass hlacks
  · exact Outcome.not_lacksServices_of_problem hproblem (fun _ hne => nomatch hne) hlacks

theorem hasOutboundRoute_of_noServices
    (h : (w.verdict (Catalogue.hasCluster destination getter)).LacksServices) :
    (w.verdict (Catalogue.hasOutboundRoute mesh destination getter)).status ≠ .pass ∧
      ∀ config domains,
        (w.verdict (Catalogue.hasOutboundRoute mesh destination getter)).problem? ≠
          some (.routeDomainNotFound config domains) := by
  have hagree := lacksServices_hasCluster_iff mesh h.isObstructed
  constructor
  · intro hpass
    exact Outcome.not_lacksServices_of_pass hpass
      ((hagree (Outcome.isObstructed_of_pass hpass)).mp h)
  · intro config domains hproblem
    exact Outcome.not_lacksServices_of_problem hproblem (fun _ hne => nomatch hne)
      ((hagree (Outcome.isObstructed_of_problem hproblem rfl)).mp h)

end Services

/-! ## Readings of a pod -/

theorem isFailedRequest_podReadings_iff {pod : PodRef} {d : Diagnostic}
    (hd : d ∈ podReadings pod) :
    (d.check.recordIn w).IsFailedRequest ↔ ∃ e, w.finds (getPod pod) = .error e := by
  rw [Record.IsFailedRequest, d.problem_recordIn]
  simp only [podReadings, List.mem_cons, List.not_mem_nil, or_false] at hd
  rcases hd with rfl | rfl | rfl
  · exact Catalogue.failedRequest_sidecarPresent_iff
  · exact Catalogue.failedRequest_proxyUuidLabelled_iff
  · exact Catalogue.failedRequest_podReady_iff

/-! ## The run -/

/-- **The records of a run between two pods are consistent**, and they are all there: one for each
check, in order. -/
theorem podToPod_consistent (s : Session) (hvalid : s.config.validate = .ok s.config)
    (hready : s.isReady) (w : World) (source destination : PodRef)
    (sourceGetter destinationGetter : Option Getter) :
    let ds := s.suite.podToPod source destination sourceGetter destinationGetter
    let record (d : Diagnostic) := d.check.recordIn w
    (s.suite.records ds).run w = ds.map record ∧
      ([.namespaceMonitored source.namespace s.config.meshName,
        .namespaceMonitored destination.namespace s.config.meshName,
        .sameMesh source.namespace destination.namespace,
        .hasSpecificEndpoint source destination sourceGetter,
        .hasDestinationEndpoints source sourceGetter,
        .hasCluster source destination sourceGetter,
        .hasOutboundRoute s.config.mesh source destination sourceGetter] ++ podReadings source
          ++ podReadings destination) ⊆ ds ∧
      s.Consistent source destination sourceGetter record := by
  intro ds record
  refine ⟨Suite.run_records_of_met w (s.isReady_iff.mp hready) ds, ?_, ?_⟩
  · simp only [ds, Suite.podToPod, Suite.podChecks, Suite.namespaceChecks, podReadings, suite,
      Config.mesh, List.append_subset, List.cons_subset, List.nil_subset, List.mem_append,
      List.mem_cons, true_or, or_true, and_self]
  -- A record says what its check comes to, so the clauses are about verdicts in one world.
  have hstatus (d : Diagnostic) : (record d).status = (w.verdict d.evaluate).status :=
    d.status_recordIn w
  have hproblem (d : Diagnostic) : (record d).problem = (w.verdict d.evaluate).problem? :=
    d.problem_recordIn w
  constructor
  case sameMesh =>
    simp only [hstatus]
    exact Catalogue.sameMesh_of_namespaceMonitored (Config.meshName_ne_empty hvalid)
  case endpoints =>
    simp only [hstatus]
    exact Catalogue.hasDestinationEndpoints_of_hasSpecificEndpoint
  case services =>
    intro hcluster pod hlacks
    simp only [hstatus, hproblem] at hcluster hlacks
    exact hasOutboundRoute_of_services _ hcluster ⟨pod, hlacks⟩
  case noServices =>
    simp only [hstatus, hproblem]
    exact hasOutboundRoute_of_noServices _
  case unreadable =>
    intro pod _
    by_cases hpod : ∃ e, w.finds (getPod pod) = .error e
    · exact .inl fun d hd => (isFailedRequest_podReadings_iff hd).mpr hpod
    · exact .inr fun d hd hfailed => hpod ((isFailedRequest_podReadings_iff hd).mp hfailed)

/-! ## The bookstore -/

/-- The bookstore, whose namespaces the mesh monitors. -/
def monitoredBookstore : Snapshot :=
  bookstore.withObjects <| bookstore.objects ++
    ["shop", "stock"].map fun ns =>
      (Kind.namespaces.name, .object
        [("metadata", .object
          [("labels", .object [(monitoredByLabel, .string "osm")]), ("name", .string ns)])])

/-- The buyer and the store are in the same mesh, as the checks of their namespaces say. -/
theorem podToPod_consistent_bookstore :
    let s : Session := ⟨{}, .ofConfig {}, {}⟩
    s.config.validate = .ok s.config ∧ s.isReady ∧
      (s.suite.records
          (s.suite.podToPod ⟨"shop", "buyer"⟩ ⟨"stock", "store"⟩ none none)).run
          monitoredBookstore.world =
        (s.suite.podToPod ⟨"shop", "buyer"⟩ ⟨"stock", "store"⟩ none none).map
          (·.check.recordIn monitoredBookstore.world) ∧
      ((Diagnostic.sameMesh "shop" "stock").check.recordIn monitoredBookstore.world).status =
        .pass := by
  intro s
  have hvalid : s.config.validate = .ok s.config := rfl
  have hready : s.isReady := by decide
  obtain ⟨hrun, -, hconsistent⟩ := podToPod_consistent s hvalid hready monitoredBookstore.world
    ⟨"shop", "buyer"⟩ ⟨"stock", "store"⟩ none none
  exact ⟨hvalid, hready, hrun, hconsistent.sameMesh (by decide +kernel) (by decide +kernel)⟩

end Session

end MeshDoctor
