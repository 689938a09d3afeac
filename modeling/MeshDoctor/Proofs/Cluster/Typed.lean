import MeshDoctor.Cluster.Mesh
import MeshDoctor.Proofs.List.Insertion

/-!
# Clusters — what typed access asks and finds

Each of the look-ups that the checks use makes exactly one request, on which alone it depends.

* `asks_getAs`, `asks_listAs` and those for the resources by name: the one request.
* `finds_getAs`, `finds_listAs`: the answer, decoded.
-/

namespace MeshDoctor

open Json

variable {α : Type} (w : World)

/-! ## Resources of any type -/

section

variable (d : Decoder α) (kind : Kind)

theorem finds_getAs (ns : Option String) (name : String) :
    w.finds (getAs d kind ns name) =
      (w (.get kind.name ns name)).bind (decodeAs d (kind.name ++ " " ++ name)) := by
  rw [getAs, World.finds_bind]
  rfl

theorem finds_listAs (query : ListQuery) :
    w.finds (listAs d kind query) =
      (w (.list kind.name query)).bind fun vs : List Value => vs.mapM (decodeAs d kind.name) := by
  rw [listAs, World.finds_bind]
  rfl

@[simp] theorem decodeAs_eq_ok {what : String} {v : Value} {a : α} :
    decodeAs d what v = .ok a ↔ d v = some a := by
  rw [decodeAs]
  cases d v <;> simp

theorem decodeAs_eq_error_iff {what : String} {v : Value} {f : Failure} :
    decodeAs d what v = .error f ↔
      d v = none ∧ f = ⟨["Failed to decode " ++ what], .malformedJson⟩ := by
  rw [decodeAs]
  cases d v <;> simp [eq_comm]

theorem mapM_decodeAs_eq_ok {what : String} {vs : List Value} {as : List α} :
    vs.mapM (decodeAs d what) = .ok as ↔ vs.mapM d = some as := by
  induction vs generalizing as with
  | nil => simp [pure, Except.pure]
  | cons v vs ih =>
    rw [mapM_cons_eq_ok]
    simp only [decodeAs_eq_ok, ih, List.mapM_cons, Option.bind_eq_bind, Option.bind_eq_some_iff,
      Option.pure_def, Option.some.injEq]
    constructor
    · rintro ⟨b, rest, hb, hrest, rfl⟩
      exact ⟨b, hb, rest, hrest, rfl⟩
    · rintro ⟨b, hb, rest, hrest, rfl⟩
      exact ⟨b, rest, hb, hrest, rfl⟩

/-- A list decodes if each of its values does, and then to what they decode to. -/
theorem mapM_decodeAs_eq_ok_iff {what : String} {vs : List Value} {as : List α} :
    vs.mapM (decodeAs d what) = .ok as ↔ (∀ v ∈ vs, (d v).isSome) ∧ vs.filterMap d = as := by
  induction vs generalizing as with
  | nil => simp [pure, Except.pure]
  | cons v vs ih =>
    simp only [mapM_cons_eq_ok, decodeAs_eq_ok, ih, List.forall_mem_cons]
    constructor
    · rintro ⟨b, rest, hb, ⟨hall, rfl⟩, rfl⟩
      exact ⟨⟨by rw [hb]; rfl, hall⟩, List.filterMap_cons_some hb⟩
    · rintro ⟨⟨hv, hall⟩, rfl⟩
      obtain ⟨b, hb⟩ := Option.isSome_iff_exists.mp hv
      exact ⟨b, _, hb, ⟨hall, rfl⟩, List.filterMap_cons_some hb⟩

/-- A list decodes to what its values decode to, one after the other. -/
theorem mapM_decodeAs_eq_ok_iff_map {what : String} {vs : List Value} {as : List α} :
    vs.mapM (decodeAs d what) = .ok as ↔ vs.map d = as.map some := by
  rw [mapM_eq_ok_iff_forall₂, ← List.forall₂_eq_eq_eq, List.forall₂_map_left_iff,
    List.forall₂_map_right_iff]
  simp only [decodeAs_eq_ok]

variable {d kind w}

theorem finds_getAs_eq_ok {ns : Option String} {name : String} {a : α}
    (h : w.finds (getAs d kind ns name) = .ok a) :
    ∃ v : Value, w (.get kind.name ns name) = .ok v ∧ d v = some a := by
  rw [finds_getAs] at h
  obtain ⟨v, hv, hdecode⟩ := bind_eq_ok.mp h
  exact ⟨v, hv, (decodeAs_eq_ok d).mp hdecode⟩

theorem finds_listAs_eq_ok {query : ListQuery} {as : List α}
    (h : w.finds (listAs d kind query) = .ok as) :
    ∃ vs : List Value, w (.list kind.name query) = .ok vs ∧
      vs.mapM (decodeAs d kind.name) = .ok as := by
  rw [finds_listAs] at h
  exact bind_eq_ok.mp h

variable (d kind w)

@[simp] theorem asks_getAs (ns : Option String) (name : String) :
    w.asks (getAs d kind ns name) = [.get kind.name ns name] := by
  rw [getAs, World.asks_bind]
  cases w.finds (request (.get kind.name ns name)) <;> rfl

@[simp] theorem asks_listAs (query : ListQuery) :
    w.asks (listAs d kind query) = [.list kind.name query] := by
  rw [listAs, World.asks_bind]
  cases w.finds (request (.list kind.name query)) <;> rfl

end

/-! ## The resources that the checks read -/

@[simp] theorem asks_getPod (ref : PodRef) :
    w.asks (getPod ref) = [.get Kind.pods.name (some ref.namespace) ref.name] := by
  simp [getPod]

@[simp] theorem asks_listPods (query : ListQuery) :
    w.asks (listPods query) = [.list Kind.pods.name query] := by
  simp [listPods]

@[simp] theorem asks_getMeshConfig (ns name : String) :
    w.asks (getMeshConfig ns name) = [.get Kind.meshConfigs.name (some ns) name] := by
  simp [getMeshConfig]

@[simp] theorem asks_servicesSelecting (pod : Pod) :
    w.asks (servicesSelecting pod) =
      [.list Kind.services.name (.inNamespace pod.ref.namespace)] := by
  rw [servicesSelecting, World.asks_bind]
  cases w.finds (listAs Service.decode .services (.inNamespace pod.ref.namespace)) <;> simp

@[simp] theorem asks_serviceNamesFor (pod : Pod) :
    w.asks (serviceNamesFor pod) =
      [.list Kind.services.name (.inNamespace pod.ref.namespace)] := by
  rw [serviceNamesFor, World.asks_bind]
  cases w.finds (servicesSelecting pod) <;> simp

/-! ## The mesh -/

@[simp] theorem asks_controllerPods (mesh : Mesh) :
    w.asks mesh.controllerPods =
      [.list Kind.pods.name
        ((ListQuery.inNamespace mesh.namespace).withLabels mesh.controllerSelector)] := by
  simp [Mesh.controllerPods]

@[simp] theorem asks_controllerVersion (mesh : Mesh) :
    w.asks mesh.controllerVersion =
      [.list Kind.pods.name
        ((ListQuery.inNamespace mesh.namespace).withLabels mesh.controllerSelector)] := by
  rw [Mesh.controllerVersion, World.asks_bind]
  cases w.finds mesh.controllerPods <;> simp

@[simp] theorem asks_config (mesh : Mesh) :
    w.asks mesh.config =
      [.get Kind.meshConfigs.name (some mesh.namespace) mesh.configName] := by
  simp [Mesh.config]

end MeshDoctor
