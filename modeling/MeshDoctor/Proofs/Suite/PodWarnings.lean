import MeshDoctor.Config.Basic
import MeshDoctor.Proofs.Catalogue.Events
import MeshDoctor.Proofs.Suite.Records

/-!
# Suites — the warnings on a pod

Between two pods, the warnings on each of them are reported. They are listed by the name of the pod
and its namespace, whatever else has this name there.

* `IsOnPod`: the event is on the pod.
* `Suite.getElem?_podToPod_warnings`: the places of the warnings in the report.
* `Snapshot.forall_isOnPod_iff`: when all warnings on objects of the name are on the pod.
* **`Suite.podToPod_warnings`**: what is reported, and exactly when it is on the pod.
-/

namespace MeshDoctor

open Catalogue Envoy Json

/-! ## Events on a pod -/

/-- The event is on the pod: on an object of its kind, its namespace and its name. -/
structure IsOnPod (pod : PodRef) (v : Value) : Prop where
  kind_eq : v.textAt? ["involvedObject", "kind"] = some "Pod"
  namespace_eq : v.textAt? ["involvedObject", "namespace"] = some pod.namespace
  name_eq : v.textAt? ["involvedObject", "name"] = some pod.name

/-- The query for the warnings on a pod. -/
def PodRef.warningQuery (pod : PodRef) : ListQuery :=
  (ListQuery.inNamespace pod.namespace).withFields (warningSelector (some pod.name))

namespace Snapshot

variable {c : Snapshot} {pod : PodRef}

theorem list_warningQuery (hname : ',' ∉ pod.name.toList) :
    c.list Kind.events.name pod.warningQuery = c.warnings pod.namespace (some pod.name) :=
  list_warningSelector fun _ hmem => Option.some.inj hmem ▸ hname

/-- The name is asked for, so all warnings are on the pod if their objects are pods there. -/
theorem forall_isOnPod_iff : (∀ v ∈ c.warnings pod.namespace (some pod.name), IsOnPod pod v) ↔
    ∀ v ∈ c.warnings pod.namespace (some pod.name),
      v.textAt? ["involvedObject", "kind"] = some "Pod" ∧
        v.textAt? ["involvedObject", "namespace"] = some pod.namespace := by
  refine forall₂_congr fun v hv => ⟨fun h => ⟨h.kind_eq, h.namespace_eq⟩, fun ⟨hkind, hns⟩ => ?_⟩
  exact ⟨hkind, hns, (Snapshot.mem_warnings.mp hv).2.name_eq pod.name rfl⟩

end Snapshot

/-! ## The report -/

namespace Suite

variable (s : Suite) {source destination : PodRef} {sourceGetter destinationGetter : Option Getter}

/-- The warnings on the source and on the destination stand behind the other checks of each. -/
theorem getElem?_podToPod_warnings {place : Nat} {pod : PodRef}
    (h : (place, pod) ∈ [(3, source), (7, destination)]) :
    (s.podToPod source destination sourceGetter destinationGetter)[place]? =
      some (.warningEvents pod.namespace (some pod.name)) := by
  simp only [List.mem_cons, Prod.mk.injEq, List.not_mem_nil, or_false] at h
  rcases h with ⟨rfl, rfl⟩ | ⟨rfl, rfl⟩ <;> rfl

/-- **The warnings that are reported on a pod are those on objects of its name in its namespace**, if
there is no comma in the name. So all of them are on the pod exactly if all these objects are pods
there. If there is a comma in the name, none of them is on the pod. -/
theorem podToPod_warnings (hmet : s.ledger.firstMissing? [toolName, clusterName] = none)
    (c : Snapshot) (source destination : PodRef) (sourceGetter destinationGetter : Option Getter) :
    let ds := s.podToPod source destination sourceGetter destinationGetter
    ∀ place pod, (place, pod) ∈ [(3, source), (7, destination)] →
      let check := (Diagnostic.warningEvents pod.namespace (some pod.name)).check
      let listed := c.list Kind.events.name pod.warningQuery
      let named := (c.ofKind Kind.events.name).filter (IsWarning pod.namespace (some pod.name))
      (∀ events, c.world.finds (listEvents pod.warningQuery) = .ok events →
        listed.map Event.decode = events.map some ∧
          ((s.records ds).run c.world)[place]? = some (.of check
            (if events = [] then .pass none
              else .info (String.intercalate "\n" (warningLines events))))) ∧
      (',' ∉ pod.name.toList → listed = named ∧
        ((∀ v ∈ listed, IsOnPod pod v) ↔
          ∀ v ∈ named, v.textAt? ["involvedObject", "kind"] = some "Pod" ∧
            v.textAt? ["involvedObject", "namespace"] = some pod.namespace)) ∧
      (',' ∈ pod.name.toList → ∀ v ∈ listed, ¬ IsOnPod pod v) := by
  intro ds place pod hpod check listed named
  refine ⟨fun events hevents => ⟨?_, ?_⟩, fun hname => ?_, fun hcomma v hv hon => ?_⟩
  · exact (mapM_decodeAs_eq_ok_iff_map _).mp (Snapshot.finds_listAs_eq_ok_iff.mp hevents).2
  · rw [run_records_of_met c.world hmet, List.getElem?_map, s.getElem?_podToPod_warnings hpod,
      Option.map_some, Diagnostic.recordIn_check, Diagnostic.evaluate,
      verdict_warningEvents hevents]
  · have hlisted : listed = named := Snapshot.list_warningQuery hname
    rw [hlisted]
    exact ⟨rfl, Snapshot.forall_isOnPod_iff⟩
  · exact Snapshot.name_ne_of_comma hcomma hv hon.name_eq

/-! ## A stock with a warned service -/

/-- The endpoints of the service of the store cannot be updated. -/
def serviceWarning : Value :=
  .object
    [("metadata", .object [("name", .string "store.17a1c0de"), ("namespace", .string "stock")]),
      ("involvedObject", .object
        [("kind", .string "Service"), ("namespace", .string "stock"), ("name", .string "store")]),
      ("type", .string "Warning"), ("reason", .string "FailedToUpdateEndpoint"),
      ("message", .string "Failed to update endpoint stock/store"), ("count", .int 3)]

/-- A buyer and a store, which is a pod and a service. The warning is on the service. -/
def stockWithWarnedService : Snapshot where
  objects :=
    let pod (ns name : String) : String × Value :=
      (Kind.pods.name, .object
        [("metadata", .object
            [("name", .string name), ("namespace", .string ns),
              ("labels", .object [("app", .string name)])]),
          ("spec", .object [("containers", .array [.object [("name", .string name)]])])])
    [pod "shop" "buyer", pod "stock" "store",
      (Kind.services.name, .object
        [("metadata", .object [("name", .string "store"), ("namespace", .string "stock")]),
          ("spec", .object [("selector", .object [("app", .string "store")])])]),
      (Kind.events.name, serviceWarning)]

/-- The warning on the service is reported on the pod of its name, so not all that is reported is on
the pod. -/
theorem podToPod_warnings_stock :
    let s : Suite := ⟨({} : Config).mesh, [], {}⟩
    s.ledger.firstMissing? [toolName, clusterName] = none ∧
      ((s.records (s.podToPod ⟨"shop", "buyer"⟩ ⟨"stock", "store"⟩ none none)).run
        stockWithWarnedService.world)[7]?.map (·.diagnostics) =
          some "store FailedToUpdateEndpoint: Failed to update endpoint stock/store (x3)" ∧
      ¬ ∀ v ∈ stockWithWarnedService.list Kind.events.name
        (PodRef.warningQuery ⟨"stock", "store"⟩), IsOnPod ⟨"stock", "store"⟩ v := by
  intro s
  have hmet : s.ledger.firstMissing? [toolName, clusterName] = none := by decide
  obtain ⟨hreport, hnamed, -⟩ := podToPod_warnings s hmet stockWithWarnedService
    ⟨"shop", "buyer"⟩ ⟨"stock", "store"⟩ none none 7 ⟨"stock", "store"⟩ (by decide)
  refine ⟨hmet, ?_, fun hall => ?_⟩
  · obtain ⟨-, hrecord⟩ := hreport
      [⟨{ name := "store.17a1c0de", «namespace» := "stock" }, some "store",
        some "FailedToUpdateEndpoint", some "Failed to update endpoint stock/store", some 3⟩] (by rfl)
    rw [hrecord]
    rfl
  · obtain ⟨-, hiff⟩ := hnamed (by decide)
    have hpods := hiff.mp hall _ (List.mem_filter.mpr ⟨List.mem_singleton_self _, by decide +kernel⟩)
    exact absurd hpods.1 (by decide +kernel)

/-- What is reported on the pod of the store is a warning on the service. -/
theorem warnings_of_service :
    let s : Suite := ⟨({} : Config).mesh, [], {}⟩
    s.ledger.firstMissing? [toolName, clusterName] = none ∧
      stockWithWarnedService.list Kind.events.name (PodRef.warningQuery ⟨"stock", "store"⟩) =
        [serviceWarning] ∧
      serviceWarning.textAt? ["involvedObject", "kind"] = some "Service" ∧
      ¬ IsOnPod ⟨"stock", "store"⟩ serviceWarning ∧
      ((s.records (s.podToPod ⟨"shop", "buyer"⟩ ⟨"stock", "store"⟩ none none)).run
        stockWithWarnedService.world)[7]?.map (fun r => (r.status, r.diagnostics)) = some
          (.info, "store FailedToUpdateEndpoint: Failed to update endpoint stock/store (x3)") := by
  intro s
  have hkind : serviceWarning.textAt? ["involvedObject", "kind"] = some "Service" := by decide +kernel
  refine ⟨by decide, by decide +kernel, hkind, fun h => ?_, ?_⟩
  · rw [h.kind_eq] at hkind
    exact absurd hkind (by decide)
  · rw [run_records_of_met _ (by decide), List.getElem?_map,
      s.getElem?_podToPod_warnings (by decide : (7, (⟨"stock", "store"⟩ : PodRef)) ∈
        [(3, ⟨"shop", "buyer"⟩), (7, ⟨"stock", "store"⟩)])]
    rfl

end Suite

end MeshDoctor
