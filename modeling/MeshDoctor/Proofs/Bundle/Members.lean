import Mathlib.Data.List.Nodup
import MeshDoctor.Proofs.Bundle.Cases
import MeshDoctor.Proofs.Bundle.Names
import MeshDoctor.Proofs.Cluster.Pods
import MeshDoctor.Proofs.Suite.Order

/-!
# Support bundles — the pods that a bundle is about

* `Snapshot.IsNamed`: namespaces and pods are named as in Kubernetes.
* `Snapshot.IsMeshed`: the pods of a cluster that have a sidecar of a mesh.
* **`Snapshot.IsNamed.members`**: what is found are these pods, each of them once.
-/

namespace MeshDoctor

open Json MeshDoctor.Bundle

/-! ## Pods of a snapshot -/

namespace Snapshot

/-- The pod has a sidecar and lies in a namespace that the mesh monitors. -/
def IsMeshed (c : Snapshot) (mesh : Mesh) (ref : PodRef) : Prop :=
  (∃ v pod, c.HasPod ref v ∧ Pod.decode v = some pod ∧ pod.hasSidecar) ∧
    ∃ ns ∈ c.ofKind Kind.namespaces.name, objectName? ns = some ref.namespace ∧
      ns.textAt? ["metadata", "labels", monitoredByLabel] = some mesh.name

/-- Namespaces and pods have names of their own, as Kubernetes asks for them; a namespace lies in no
namespace. -/
structure IsNamed (c : Snapshot) : Prop where
  distinct : c.HasDistinctObjects
  namespaces : ∀ v ∈ c.ofKind Kind.namespaces.name,
    objectNamespace? v = none ∧ ∃ name, objectName? v = some name ∧ IsKubernetesName name
  pods : ∀ v ∈ c.ofKind Kind.pods.name, ∃ name, objectName? v = some name ∧ IsKubernetesName name

/-- The lists have the pods of the controller and those of the mesh, each of them once. -/
structure Members (c : Snapshot) (mesh : Mesh) (controllers meshed : List PodRef) : Prop where
  nodup_controllers : controllers.Nodup
  mem_controllers (ref : PodRef) : ref ∈ controllers ↔ c.IsController mesh ref
  nodup_meshed : meshed.Nodup
  mem_meshed (ref : PodRef) : ref ∈ meshed ↔ c.IsMeshed mesh ref

end Snapshot

/-! ## What is listed -/

theorem Snapshot.HasDistinctObjects.pairwise_ofKind {c : Snapshot} (h : c.HasDistinctObjects)
    (kind : String) :
    (c.ofKind kind).Pairwise fun v v' => ¬ SameIdentity (kind, v) (kind, v') := by
  refine List.pairwise_map.mpr ?_
  refine (List.Pairwise.filter _ h).imp_of_mem fun {o o'} ho ho' hne => ?_
  have hkind : o.1 = kind := of_decide_eq_true (List.mem_filter.mp ho).2
  have hkind' : o'.1 = kind := of_decide_eq_true (List.mem_filter.mp ho').2
  exact fun hsame => hne ⟨hkind.trans hkind'.symm, hsame.2⟩

section Lists

variable {c : Snapshot} {w : World} {mesh : Mesh} {ref : PodRef} {ns : String} {q : ListQuery}

/-- A world that lists the objects of a snapshot lists what the snapshot does. -/
theorem exists_mapM_of_finds {α : Type} {d : Decoder α} {kind : Kind} {as : List α}
    (hlists : ∀ kind query, w (.list kind query) = c.world (.list kind query))
    (h : w.finds (listAs d kind q) = .ok as) :
    (c.list kind.name q).mapM (decodeAs d kind.name) = .ok as := by
  rw [finds_listAs, hlists, ← finds_listAs] at h
  exact (Snapshot.finds_listAs_eq_ok_iff.mp h).2

namespace Snapshot.IsNamed

variable (hnamed : c.IsNamed)
include hnamed

/-! ## Pods of one namespace -/

theorem hasNamedPods : c.HasNamedPods where
  named := by
    intro v hv
    obtain ⟨name, hname, -⟩ := hnamed.pods v hv
    exact Option.isSome_iff_exists.mpr ⟨name, hname⟩
  distinct := by
    refine (hnamed.distinct.pairwise_ofKind Kind.pods.name).imp_of_mem ?_
    rintro v v' hv - hne ⟨hns, hname⟩
    obtain ⟨name, hsome, -⟩ := hnamed.pods v hv
    exact hne ⟨rfl, hns, hname, Option.isSome_iff_exists.mpr ⟨name, hsome⟩⟩

theorem hasPod_of_mem {v : Value} (hv : v ∈ c.list Kind.pods.name q)
    (hq : q.namespace = some ns) : c.HasPod (objectRef v) v ∧ (objectRef v).namespace = ns := by
  obtain ⟨hmem, hns, -⟩ := mem_list.mp hv
  exact hnamed.hasNamedPods.hasPod_objectRef hmem (by simpa [hq, inNamespace] using hns)

theorem nodup_refs (hq : q.namespace = some ns) {pods : List Pod}
    (h : (c.list Kind.pods.name q).mapM (decodeAs Pod.decode Kind.pods.name) = .ok pods) :
    (pods.map (·.ref)).Nodup := by
  rw [map_eq_of_mapM h fun v pod hdecode => Pod.ref_of_decode ((decodeAs_eq_ok _).mp hdecode)]
  have hns : ∀ v ∈ c.list Kind.pods.name q, objectNamespace? v = some ns := by
    intro v hv
    obtain ⟨-, hns, -⟩ := mem_list.mp hv
    simpa [hq, inNamespace] using hns
  exact hnamed.hasNamedPods.nodup_map_objectRef List.filter_sublist hns

theorem name_isName (h : c.HasPod ref v) : IsKubernetesName ref.name := by
  obtain ⟨name, hname, hisName⟩ := hnamed.pods v h.mem
  obtain rfl := Option.some.inj (h.name_eq.symm.trans hname)
  exact hisName

theorem isName_of_isController (h : c.IsController mesh ref) : IsKubernetesName ref.name := by
  obtain ⟨-, v, hpod, -⟩ := h
  exact hnamed.name_isName hpod

theorem isNamed_of_isMeshed (h : c.IsMeshed mesh ref) : ref.IsNamed := by
  obtain ⟨⟨v, -, hpod, -, -⟩, ns, hns, hname, -⟩ := h
  obtain ⟨-, name, hname', hisName⟩ := hnamed.namespaces ns hns
  obtain rfl := Option.some.inj (hname.symm.trans hname')
  exact ⟨hisName, hnamed.name_isName hpod⟩

/-! ## The mesh -/

theorem of_finds_controllerPods (hcontroller : ',' ∉ mesh.controllerName.toList)
    (hlists : ∀ kind query, w (.list kind query) = c.world (.list kind query)) {pods : List Pod}
    (h : w.finds mesh.controllerPods = .ok pods) :
    (pods.map (·.ref)).Nodup ∧ ∀ ref, ref ∈ pods.map (·.ref) ↔ c.IsController mesh ref := by
  have hmapM := exists_mapM_of_finds hlists h
  rw [list_controllerSelector hcontroller] at hmapM
  have hrefs : pods.map (·.ref) = c.controllerRefs mesh := map_eq_of_mapM hmapM
    fun v pod hdecode => Pod.ref_of_decode ((decodeAs_eq_ok _).mp hdecode)
  rw [hrefs]
  exact ⟨hnamed.hasNamedPods.nodup_controllerRefs, fun ref =>
    hnamed.hasNamedPods.mem_controllerRefs⟩

theorem of_finds_listPods
    (hlists : ∀ kind query, w (.list kind query) = c.world (.list kind query)) {pods : List Pod}
    (h : w.finds (listPods (.inNamespace ns)) = .ok pods) :
    ((pods.filter (·.hasSidecar)).map (·.ref)).Nodup ∧
      ∀ ref, ref ∈ (pods.filter (·.hasSidecar)).map (·.ref) ↔
        ref.namespace = ns ∧ ∃ v pod, c.HasPod ref v ∧ Pod.decode v = some pod ∧ pod.hasSidecar := by
  have hmapM := exists_mapM_of_finds hlists h
  have hq : (ListQuery.inNamespace ns).namespace = some ns := rfl
  refine ⟨(List.filter_sublist.map _).nodup (hnamed.nodup_refs hq hmapM), fun ref => ?_⟩
  constructor
  · intro href
    obtain ⟨pod, hpod, rfl⟩ := List.mem_map.mp href
    obtain ⟨hpod, hsidecar⟩ := List.mem_filter.mp hpod
    obtain ⟨v, hv, hdecode⟩ := exists_of_mem_mapM hmapM hpod
    rw [decodeAs_eq_ok] at hdecode
    rw [Pod.ref_of_decode hdecode]
    obtain ⟨hhas, hns⟩ := hnamed.hasPod_of_mem hv hq
    exact ⟨hns, v, pod, hhas, hdecode, hsidecar⟩
  · rintro ⟨rfl, v, pod, hhas, hdecode, hsidecar⟩
    have hwithin : inNamespace (some ref.namespace) v := by
      simp [inNamespace, hhas.namespace_eq]
    obtain ⟨pod', hpod, hdecode'⟩ := exists_mem_mapM hmapM
      (mem_list.mpr ⟨hhas.mem, hwithin, rfl, rfl⟩)
    rw [decodeAs_eq_ok, hdecode] at hdecode'
    obtain rfl := Option.some.inj hdecode'
    refine List.mem_map.mpr ⟨pod, List.mem_filter.mpr ⟨hpod, hsidecar⟩, ?_⟩
    rw [Pod.ref_of_decode hdecode, hhas.objectRef_eq]

theorem of_finds_monitoredNamespaces (hmesh : ',' ∉ mesh.name.toList)
    (hlists : ∀ kind query, w (.list kind query) = c.world (.list kind query))
    {namespaces : List Namespace} (h : w.finds mesh.monitoredNamespaces = .ok namespaces) :
    (namespaces.filterMap (·.metadata.name)).Nodup ∧
      ∀ ns, ns ∈ namespaces.filterMap (·.metadata.name) ↔
        ∃ v ∈ c.ofKind Kind.namespaces.name, objectName? v = some ns ∧
          v.textAt? ["metadata", "labels", monitoredByLabel] = some mesh.name := by
  have hmapM := exists_mapM_of_finds hlists h
  have hlabels (v : Value) :=
    matchesLabels_iff monitoredByLabel (by decide) (by decide) hmesh v
  refine ⟨?_, fun ns => ?_⟩
  · have hnames := map_eq_of_mapM hmapM fun v ns hdecode =>
      Namespace.name_of_decode ((decodeAs_eq_ok _).mp hdecode)
    have hdifferent : (namespaces.map (·.metadata.name)).Nodup := by
      rw [hnames]
      refine List.pairwise_map.mpr ?_
      refine (List.Pairwise.filter _
        (hnamed.distinct.pairwise_ofKind Kind.namespaces.name)).imp_of_mem ?_
      intro v v' hv hv' hne heq
      obtain ⟨hnone, name, hname, -⟩ := hnamed.namespaces v (mem_list.mp hv).1
      obtain ⟨hnone', -⟩ := hnamed.namespaces v' (mem_list.mp hv').1
      refine hne ⟨rfl, hnone.trans hnone'.symm, heq, ?_⟩
      rw [hname]
      rfl
    refine List.pairwise_filterMap.mpr ((List.pairwise_map.mp hdifferent).imp ?_)
    intro decoded decoded' hne name hname name' hname' heq
    exact hne (by rw [hname, hname', heq])
  · constructor
    · intro hns
      obtain ⟨decoded, hdecoded, hname⟩ := List.mem_filterMap.mp hns
      obtain ⟨v, hv, hdecode⟩ := exists_of_mem_mapM hmapM hdecoded
      rw [decodeAs_eq_ok] at hdecode
      rw [Namespace.name_of_decode hdecode] at hname
      exact ⟨v, (mem_list.mp hv).1, hname, (hlabels v).mp (mem_list.mp hv).2.2.1⟩
    · rintro ⟨v, hv, hname, hlabel⟩
      obtain ⟨decoded, hdecoded, hdecode⟩ := exists_mem_mapM hmapM
        (mem_list.mpr ⟨hv, rfl, (hlabels v).mpr hlabel, rfl⟩)
      rw [decodeAs_eq_ok] at hdecode
      refine List.mem_filterMap.mpr ⟨decoded, hdecoded, ?_⟩
      rw [Namespace.name_of_decode hdecode, hname]

/-- The pods of the mesh are found, each of them once. -/
theorem of_finds_meshedPods (hmesh : ',' ∉ mesh.name.toList)
    (hlists : ∀ kind query, w (.list kind query) = c.world (.list kind query))
    {meshed : List PodRef} (h : w.finds (meshedPods mesh) = .ok meshed) :
    meshed.Nodup ∧ ∀ ref, ref ∈ meshed ↔ c.IsMeshed mesh ref := by
  obtain ⟨namespaces, hnamespaces, hpods, rfl⟩ := of_finds_meshedPods_ok h
  obtain ⟨hnodup, hmem⟩ := hnamed.of_finds_monitoredNamespaces hmesh hlists hnamespaces
  have hsidecars : ∀ ns ∈ namespaces.filterMap (·.metadata.name), (sidecarsIn w ns).Nodup ∧
      ∀ ref, ref ∈ sidecarsIn w ns ↔ ref.namespace = ns ∧
        ∃ v pod, c.HasPod ref v ∧ Pod.decode v = some pod ∧ pod.hasSidecar := by
    intro ns hns
    obtain ⟨pods, hfound⟩ := hpods ns hns
    rw [sidecarsIn, hfound]
    exact hnamed.of_finds_listPods hlists hfound
  refine ⟨List.nodup_flatMap.mpr ⟨fun ns hns => (hsidecars ns hns).1, ?_⟩, fun ref => ?_⟩
  · refine hnodup.imp_of_mem fun {ns ns'} hns hns' hne ref href href' => hne ?_
    have hin := ((hsidecars ns hns).2 ref).mp href
    have hin' := ((hsidecars ns' hns').2 ref).mp href'
    exact hin.1.symm.trans hin'.1
  · rw [List.mem_flatMap]
    constructor
    · rintro ⟨ns, hns, href⟩
      obtain ⟨rfl, hsidecar⟩ := ((hsidecars ns hns).2 ref).mp href
      exact ⟨hsidecar, (hmem _).mp hns⟩
    · rintro ⟨hsidecar, hmonitored⟩
      have hns := (hmem _).mpr hmonitored
      exact ⟨ref.namespace, hns, ((hsidecars _ hns).2 ref).mpr ⟨rfl, hsidecar⟩⟩

/-- **What is found are the members of the mesh.** -/
theorem members (hmesh : ',' ∉ mesh.name.toList) (hcontroller : ',' ∉ mesh.controllerName.toList)
    (hlists : ∀ kind query, w (.list kind query) = c.world (.list kind query)) {pods : List Pod}
    (hpods : w.finds mesh.controllerPods = .ok pods) {meshed : List PodRef}
    (hmeshed : w.finds (meshedPods mesh) = .ok meshed) :
    c.Members mesh (pods.map (·.ref)) meshed := by
  obtain ⟨hnodup, hmem⟩ := hnamed.of_finds_controllerPods hcontroller hlists hpods
  obtain ⟨hnodup', hmem'⟩ := hnamed.of_finds_meshedPods hmesh hlists hmeshed
  exact ⟨hnodup, hmem, hnodup', hmem'⟩

end Snapshot.IsNamed

end Lists

/-! ## A shop in a mesh -/

/-- An object with labels. -/
def labelled (name : String) (ns : Option String) (key value : String) : Value :=
  .object [("metadata", .object (("labels", .object [(key, .string value)]) ::
    ("name", .string name) :: (ns.map fun ns => ("namespace", .string ns)).toList))]

/-- A pod with a sidecar. -/
def podWithSidecar (name ns : String) : Value :=
  .object [("metadata", named name ns),
    ("spec", .object [("containers", .array [.object [("name", .string "envoy")]])])]

/-- A buyer and a seller in a namespace of a mesh, and the controller of the mesh. -/
def meshedShop : Snapshot where
  objects :=
    [(Kind.namespaces.name, labelled "shop" none monitoredByLabel "osm"),
      (Kind.pods.name, podWithSidecar "buyer" "shop"),
      (Kind.pods.name, podWithSidecar "seller" "shop"),
      (Kind.pods.name, labelled "controller-0" (some "osm-system") "app" "osm-controller")]
  logs := [("osm-system/controller-0", "started")]

theorem isNamed_meshedShop : meshedShop.IsNamed where
  distinct := by decide
  namespaces := by
    intro v hv
    obtain rfl := List.mem_singleton.mp hv
    exact ⟨rfl, "shop", rfl, by decide, by decide⟩
  pods := by
    intro v hv
    have hpods : meshedShop.ofKind Kind.pods.name = [podWithSidecar "buyer" "shop",
        podWithSidecar "seller" "shop",
        labelled "controller-0" (some "osm-system") "app" "osm-controller"] := rfl
    rw [hpods] at hv
    simp only [List.mem_cons, List.not_mem_nil, or_false] at hv
    rcases hv with rfl | rfl | rfl
    · exact ⟨"buyer", rfl, by decide, by decide⟩
    · exact ⟨"seller", rfl, by decide, by decide⟩
    · exact ⟨"controller-0", rfl, by decide, by decide⟩

/-- The time at which the shop is looked at. -/
def shopMoment : Moment := ⟨"20240101-000000", "2024-01-01T00:00:00Z"⟩

theorem bundlePath_shopMoment : bundlePath "out" shopMoment = "out/osm-doctor-20240101-000000" :=
  joinPath_eq_append (by decide) (by decide) (isPlainName_of_length (by decide) (by decide))

/-- A machine that reaches the cluster of the shop. -/
def shopMachine : Machine where
  world
    | .now => .ok shopMoment
    | r => meshedShop.world r

/-- The sidecar of the buyer can be read, that of the seller cannot. -/
def shopCollector : Collector where
  mesh := bookstoreMesh
  getter pod :=
    if pod.name = "buyer" then .ok (.canned pod (.ok "configured")) else .error (.say "no getter")

theorem members_meshedShop : meshedShop.Members bookstoreMesh [⟨"osm-system", "controller-0"⟩]
    [⟨"shop", "buyer"⟩, ⟨"shop", "seller"⟩] := by
  have hpods : ∃ pods, meshedShop.world.finds bookstoreMesh.controllerPods = .ok pods ∧
      pods.map (·.ref) = [⟨"osm-system", "controller-0"⟩] := ⟨_, rfl, rfl⟩
  obtain ⟨pods, hpods, hrefs⟩ := hpods
  rw [← hrefs]
  exact isNamed_meshedShop.members (by decide) (by decide) (fun _ _ => rfl) hpods rfl

end MeshDoctor
