import Mathlib.Data.List.Pairwise
import MeshDoctor.Proofs.Cluster.Snapshot

/-!
# Clusters — pods and their addresses

* `Snapshot.HasPod`: the object is the pod at an address; `objectRef`: the address of an object.
* `Snapshot.IsController`: the pods that belong to the controller of a mesh.
* `Snapshot.HasNamedPods`: pods have names, by which they can be told apart in a namespace.
* **`Snapshot.HasNamedPods.finds_getPod_eq_ok_iff`**: then a pod is found at its address.
* `Snapshot.controllerRefs`: the addresses of the controller's pods, in order;
  `Snapshot.HasNamedPods.mem_controllerRefs`: these are the pods that belong to it.
-/

namespace MeshDoctor

open Json

/-! ## Addresses -/

/-- The address of an object. -/
def objectRef (v : Value) : PodRef :=
  ⟨(objectNamespace? v).getD "", (objectName? v).getD ""⟩

theorem Pod.ref_of_decode {v : Value} {pod : Pod} (h : decode v = some pod) :
    pod.ref = objectRef v := by
  obtain ⟨hnamespace, hname⟩ := of_decode h
  rw [ref, objectRef, hnamespace, hname]

namespace Snapshot

/-- The object is the pod at an address. -/
structure HasPod (c : Snapshot) (ref : PodRef) (v : Value) : Prop where
  mem : v ∈ c.ofKind Kind.pods.name
  namespace_eq : objectNamespace? v = some ref.namespace
  name_eq : objectName? v = some ref.name

/-- The pod belongs to the controller of the mesh. -/
def IsController (c : Snapshot) (mesh : Mesh) (ref : PodRef) : Prop :=
  ref.namespace = mesh.namespace ∧
    ∃ v, c.HasPod ref v ∧ v.textAt? ["metadata", "labels", "app"] = some mesh.controllerName

/-- Every pod has a name, and no two pods have namespace and name in common. -/
structure HasNamedPods (c : Snapshot) : Prop where
  named : ∀ v ∈ c.ofKind Kind.pods.name, (objectName? v).isSome
  distinct : (c.ofKind Kind.pods.name).Pairwise fun v v' =>
    ¬ (objectNamespace? v = objectNamespace? v' ∧ objectName? v = objectName? v')

variable {c : Snapshot} {mesh : Mesh} {ref : PodRef} {ns : String} {v v' : Value}

theorem HasPod.objectRef_eq (h : c.HasPod ref v) : objectRef v = ref := by
  rw [objectRef, h.namespace_eq, h.name_eq]
  rfl

namespace HasNamedPods

variable (h : c.HasNamedPods)
include h

/-- A pod of a namespace has an address there. -/
theorem hasPod_objectRef (hv : v ∈ c.ofKind Kind.pods.name) (hns : objectNamespace? v = some ns) :
    c.HasPod (objectRef v) v ∧ (objectRef v).namespace = ns := by
  obtain ⟨name, hname⟩ := Option.isSome_iff_exists.mp (h.named v hv)
  refine ⟨⟨hv, ?_, ?_⟩, ?_⟩
  · simp [objectRef, hns]
  · simp [objectRef, hname]
  · simp [objectRef, hns]

/-- There is one pod at an address at most. -/
theorem eq_of_hasPod (hv : c.HasPod ref v) (hv' : c.HasPod ref v') : v = v' := by
  have hsymm : Std.Symm fun v v' : Value =>
      ¬ (objectNamespace? v = objectNamespace? v' ∧ objectName? v = objectName? v') :=
    ⟨fun _ _ hnot hsame => hnot ⟨hsame.1.symm, hsame.2.symm⟩⟩
  by_contra hne
  exact h.distinct.forall hv.mem hv'.mem hne
    ⟨hv.namespace_eq.trans hv'.namespace_eq.symm, hv.name_eq.trans hv'.name_eq.symm⟩

theorem nodup_map_objectRef {vs : List Value} (hvs : vs.Sublist (c.ofKind Kind.pods.name))
    (hns : ∀ v ∈ vs, objectNamespace? v = some ns) : (vs.map objectRef).Nodup := by
  refine List.pairwise_map.mpr ((h.distinct.sublist hvs).imp_of_mem ?_)
  intro v v' hv hv' hdistinct heq
  obtain ⟨hpod, -⟩ := h.hasPod_objectRef (hvs.mem hv) (hns v hv)
  obtain ⟨hpod', -⟩ := h.hasPod_objectRef (hvs.mem hv') (hns v' hv')
  rw [← heq] at hpod'
  exact hdistinct ⟨hpod.namespace_eq.trans hpod'.namespace_eq.symm,
    hpod.name_eq.trans hpod'.name_eq.symm⟩

/-! ## Pods by address -/

theorem get_eq_ok (hv : c.HasPod ref v) :
    c.get Kind.pods.name (some ref.namespace) ref.name = .ok v := by
  rw [get]
  split
  next found hfound =>
    have hmatch := List.find?_some hfound
    simp only [Bool.and_eq_true, decide_eq_true_eq] at hmatch
    have hpod : c.HasPod ref found := ⟨List.mem_of_find?_eq_some hfound, hmatch.2, hmatch.1⟩
    rw [h.eq_of_hasPod hpod hv]
  next hnone =>
    exact absurd (List.find?_eq_none.mp hnone v hv.mem) (by simp [hv.namespace_eq, hv.name_eq])

/-- **A pod is found at its address** if it decodes. -/
theorem finds_getPod_eq_ok_iff (hc : c.failures = []) (hv : c.HasPod ref v) {pod : Pod} :
    c.world.finds (getPod ref) = .ok pod ↔ Pod.decode v = some pod := by
  have hanswer : c.world (.get Kind.pods.name (some ref.namespace) ref.name) = .ok v := by
    rw [world_of_failures hc]
    exact h.get_eq_ok hv
  rw [getPod, World.finds_within, addContext_eq_ok, finds_getAs, hanswer]
  exact decodeAs_eq_ok _

end HasNamedPods

/-! ## Pods of the controller -/

/-- The objects of the controller's pods, in the order of the cluster. -/
def controllerObjects (c : Snapshot) (mesh : Mesh) : List Value :=
  (c.objectsIn Kind.pods.name mesh.namespace).filter fun v =>
    v.textAt? ["metadata", "labels", "app"] = some mesh.controllerName

/-- The addresses of the controller's pods, in the order of the cluster. -/
def controllerRefs (c : Snapshot) (mesh : Mesh) : List PodRef :=
  (c.controllerObjects mesh).map objectRef

theorem mem_controllerObjects : v ∈ c.controllerObjects mesh ↔
    v ∈ c.ofKind Kind.pods.name ∧ objectNamespace? v = some mesh.namespace ∧
      v.textAt? ["metadata", "labels", "app"] = some mesh.controllerName := by
  rw [controllerObjects, List.mem_filter, mem_objectsIn, decide_eq_true_eq, and_assoc]

/-- What the selector of the controller lists are its pods. -/
theorem list_controllerSelector (hcontroller : ',' ∉ mesh.controllerName.toList) :
    c.list Kind.pods.name
      ((ListQuery.inNamespace mesh.namespace).withLabels mesh.controllerSelector) =
        c.controllerObjects mesh := by
  rw [list_withLabels, controllerObjects]
  refine List.filter_congr fun v _ => ?_
  rw [Bool.eq_iff_iff, decide_eq_true_eq]
  exact matchesLabels_iff "app" (by decide) (by decide) hcontroller v

namespace HasNamedPods

variable (h : c.HasNamedPods)
include h

/-- A pod of the controller is found at the address of its object. -/
theorem finds_getPod_controller (hc : c.failures = []) (hv : v ∈ c.controllerObjects mesh)
    {pod : Pod} : c.world.finds (getPod (objectRef v)) = .ok pod ↔ Pod.decode v = some pod := by
  obtain ⟨hmem, hns, -⟩ := mem_controllerObjects.mp hv
  obtain ⟨hpod, -⟩ := h.hasPod_objectRef hmem hns
  exact h.finds_getPod_eq_ok_iff hc hpod

theorem nodup_controllerRefs : (c.controllerRefs mesh).Nodup :=
  h.nodup_map_objectRef (List.filter_sublist.trans List.filter_sublist) fun _ hv =>
    (mem_controllerObjects.mp hv).2.1

/-- **The addresses are those of the pods that belong to the controller.** -/
theorem mem_controllerRefs : ref ∈ c.controllerRefs mesh ↔ c.IsController mesh ref := by
  rw [controllerRefs, List.mem_map]
  constructor
  · rintro ⟨v, hv, rfl⟩
    obtain ⟨hmem, hns, hlabel⟩ := mem_controllerObjects.mp hv
    obtain ⟨hpod, href⟩ := h.hasPod_objectRef hmem hns
    exact ⟨href, v, hpod, hlabel⟩
  · rintro ⟨hns, v, hpod, hlabel⟩
    refine ⟨v, mem_controllerObjects.mpr ⟨hpod.mem, ?_, hlabel⟩, hpod.objectRef_eq⟩
    rw [hpod.namespace_eq, hns]

end HasNamedPods

end Snapshot

end MeshDoctor
