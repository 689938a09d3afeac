import MeshDoctor.Proofs.Catalogue.Agreement
import MeshDoctor.Proofs.Cluster.Snapshot
import MeshDoctor.Proofs.Resource.Labels
import MeshDoctor.Proofs.Suite.Records

/-!
# Catalogue — sidecar injection, for the mesh and for a pod

Whether namespaces ask for sidecars is seen twice: the check of the mesh lists the namespaces that
the mesh monitors, that of a pod looks up the namespace of the pod.

* `Snapshot.mem_monitoredNamespaces`: a namespace that says it is monitored is among those listed.
* `Catalogue.isEnabled_of_monitoredNamespacesInjected`: each of these asks for sidecars, if the check
  of the mesh passes.
* **`Snapshot.sidecarInjection_of_monitoredNamespacesInjected`**: then so does the check of a pod
  there that leaves the matter to its namespace.
-/

namespace MeshDoctor

open Json

namespace Catalogue

variable {w : World}

/-- If the check of the mesh passes, each monitored namespace with a name asks for sidecars. -/
theorem isEnabled_of_monitoredNamespacesInjected {mesh : Mesh}
    (h : (w.verdict (monitoredNamespacesInjected mesh)).status = .pass) :
    ∃ monitored, w.finds mesh.monitoredNamespaces = .ok monitored ∧
      ∀ ns ∈ monitored, ns.metadata.name ≠ none → ns.injection?.any isEnabled := by
  rw [monitoredNamespacesInjected] at h
  cases hlisted : w.finds mesh.monitoredNamespaces with
  | error e =>
    rw [World.verdict_lookup_of_error hlisted] at h
    cases h
  | ok monitored =>
    refine ⟨monitored, rfl, fun ns hns hname => ?_⟩
    rw [World.verdict_lookup_of_ok hlisted] at h
    by_contra hdisabled
    have hmem : ns ∈ monitored.filter fun ns => !ns.injection?.any isEnabled :=
      List.mem_filter.mpr ⟨hns, by simpa using hdisabled⟩
    -- Some namespace is monitored and some name is listed as disabled, so the check fails.
    obtain ⟨name, hname⟩ := Option.ne_none_iff_exists'.mp hname
    have hnames : ((monitored.filter fun ns => !ns.injection?.any isEnabled).filterMap
        (·.metadata.name)) ≠ [] :=
      List.ne_nil_of_mem (List.mem_filterMap.mpr ⟨ns, hmem, hname⟩)
    simp [List.ne_nil_of_mem hns, hnames, Outcome.status] at h

/-- A pod that leaves the matter to its namespace gets a sidecar if the namespace asks for one. -/
theorem sidecarInjection_eq_pass {ref : PodRef} {pod : Pod} {ns : Namespace}
    (hpod : w.finds (getPod ref) = .ok pod) (hsilent : pod.annotation? injectionAnnotation = none)
    (hns : w.finds (getNamespace ref.namespace) = .ok ns) (henabled : ns.injection?.any isEnabled) :
    (w.verdict (sidecarInjection ref)).status = .pass := by
  rw [sidecarInjection, World.verdict_lookup_of_ok hpod]
  simp only [hsilent]
  rw [World.verdict_lookup_of_ok hns, if_pos henabled]
  rfl

end Catalogue

namespace Snapshot

variable {c : Snapshot} {mesh : Mesh}

/-- A namespace is listed as monitored if it says so itself, under the name it is looked up by. -/
theorem mem_monitoredNamespaces (hmesh : ',' ∉ mesh.name.toList) {name : String} {ns : Namespace}
    (hfound : c.world.finds (getNamespace name) = .ok ns)
    (hmonitored : ns.monitoredBy? = some mesh.name) {monitored : List Namespace}
    (hlisted : c.world.finds mesh.monitoredNamespaces = .ok monitored) :
    ns ∈ monitored ∧ ns.metadata.name = some name := by
  rw [getNamespace, World.finds_within, addContext_eq_ok] at hfound
  obtain ⟨v, hv, hdecode⟩ := finds_getAs_eq_ok hfound
  -- What is found by its name is one of the objects, with the label that the selector asks for.
  obtain ⟨hmem, hname, -⟩ := of_get hv
  have hlabel : v.textAt? ["metadata", "labels", monitoredByLabel] = some mesh.name := by
    rw [← Namespace.label?_of_decode hdecode]
    exact hmonitored
  have hselected : v ∈ c.list Kind.namespaces.name { labels := some mesh.monitoredSelector } :=
    mem_list.mpr ⟨hmem, rfl,
      (matchesLabels_iff monitoredByLabel (by decide) (by decide) hmesh v).mpr hlabel, rfl⟩
  obtain ⟨ns', hns', hdecode'⟩ := exists_mem_mapM (finds_listAs_eq_ok_iff.mp hlisted).2 hselected
  rw [decodeAs_eq_ok, hdecode] at hdecode'
  obtain rfl := Option.some.inj hdecode'
  exact ⟨hns', (Namespace.name_of_decode hdecode).trans hname⟩

/-- **The check of the mesh covers the check of each pod.** If all monitored namespaces are found to
ask for sidecars, a pod that says nothing about them itself, in a namespace that is found to be
monitored, is found to get one. -/
theorem sidecarInjection_of_monitoredNamespacesInjected (c : Snapshot) (mesh : Mesh)
    (hmesh : ',' ∉ mesh.name.toList)
    (hinjected : ((Diagnostic.monitoredNamespacesInjected mesh).check.recordIn c.world).status =
      .pass)
    (ref : PodRef) {pod : Pod} (hpod : c.world.finds (getPod ref) = .ok pod)
    (hsilent : pod.annotation? injectionAnnotation = none)
    (hmonitored : ((Diagnostic.namespaceMonitored ref.namespace mesh.name).check.recordIn
      c.world).status = .pass) :
    ((Diagnostic.sidecarInjection ref).check.recordIn c.world).status = .pass := by
  rw [Diagnostic.status_recordIn] at hinjected hmonitored ⊢
  obtain ⟨monitored, hlisted, henabled⟩ :=
    Catalogue.isEnabled_of_monitoredNamespacesInjected hinjected
  obtain ⟨ns, hns, hmonitoredBy⟩ := Catalogue.namespaceMonitored_eq_pass.mp hmonitored
  obtain ⟨hmem, hname⟩ := mem_monitoredNamespaces hmesh hns hmonitoredBy hlisted
  have hasks : ns.injection?.any isEnabled := henabled ns hmem (by simp [hname])
  exact Catalogue.sidecarInjection_eq_pass hpod hsilent hns hasks

/-- A shop whose namespace is there twice, next to one without a name that asks for nothing. The mesh
has the sign in its name that divides the terms of a selector. -/
def injectedShop : Snapshot where
  objects :=
    let monitored : String × Value :=
      ("labels", .object [(monitoredByLabel, .string "osm=eu"), ("tier", .string "shop")])
    let asking (answer : String) : String × Value :=
      ("annotations", .object [("openservicemesh.io/sidecar-injection", .string answer)])
    [(Kind.namespaces.name, .object [("metadata", .object [monitored])]),
      (Kind.namespaces.name, .object
        [("metadata", .object [asking "enabled", monitored, ("name", .string "shop")])]),
      (Kind.namespaces.name, .object
        [("metadata", .object [asking "Yes", monitored, ("name", .string "shop")])]),
      (Kind.pods.name, .object
        [("metadata", .object [("name", .string "buyer"), ("namespace", .string "shop")])])]

/-- The buyer gets a sidecar, as the check of the mesh promises. -/
theorem sidecarInjection_of_monitoredNamespacesInjected_shop :
    let mesh : Mesh := ⟨"osm-system", "osm=eu", "osm-controller", "osm-mesh-config"⟩
    let pod : Pod := ⟨{ name := "buyer", «namespace» := "shop" }, none, none⟩
    ',' ∉ mesh.name.toList ∧
      ((Diagnostic.monitoredNamespacesInjected mesh).check.recordIn injectedShop.world).status =
        .pass ∧
      injectedShop.world.finds (getPod ⟨"shop", "buyer"⟩) = .ok pod ∧
      pod.annotation? injectionAnnotation = none ∧
      ((Diagnostic.namespaceMonitored "shop" mesh.name).check.recordIn injectedShop.world).status =
        .pass ∧
      ((Diagnostic.sidecarInjection ⟨"shop", "buyer"⟩).check.recordIn injectedShop.world).status =
        .pass := by
  intro mesh pod
  have hmesh : ',' ∉ mesh.name.toList := by decide
  have hinjected : ((Diagnostic.monitoredNamespacesInjected mesh).check.recordIn
      injectedShop.world).status = .pass := by decide +kernel
  have hpod : injectedShop.world.finds (getPod ⟨"shop", "buyer"⟩) = .ok pod := rfl
  have hsilent : pod.annotation? injectionAnnotation = none := rfl
  have hmonitored : ((Diagnostic.namespaceMonitored "shop" mesh.name).check.recordIn
      injectedShop.world).status = .pass := by decide +kernel
  exact ⟨hmesh, hinjected, hpod, hsilent, hmonitored,
    sidecarInjection_of_monitoredNamespacesInjected injectedShop mesh hmesh hinjected
      ⟨"shop", "buyer"⟩ hpod hsilent hmonitored⟩

end Snapshot

end MeshDoctor
