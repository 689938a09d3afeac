import MeshDoctor.Proofs.Cluster.Typed

/-!
# Clusters — the services that select a pod

* `Service.Selects`: the service asks for labels of the pod, and for some.
* `Pod.servicesAmong`: the names of the services that do, in the order of the services.
* **`finds_serviceNamesFor`**: they are the names that are looked up.
-/

namespace MeshDoctor

open Json

/-- The service has a selector that asks for labels of the pod, and for some. -/
def Service.Selects (service : Service) (pod : Pod) : Prop :=
  ∃ selector, service.selector = some selector ∧ selector ≠ [] ∧
    ∀ pair ∈ selector, pod.label? pair.1 = some pair.2

theorem selects_iff {selector : Labels} {pod : Pod} :
    selects selector (pod.metadata.labels.getD []) ↔
      selector ≠ [] ∧ ∀ pair ∈ selector, pod.label? pair.1 = some pair.2 := by
  have hlabel : ∀ key, (pod.metadata.labels.getD []).lookup key = pod.label? key := by
    intro key
    rw [Pod.label?, Metadata.label?]
    cases pod.metadata.labels <;> rfl
  simp [selects, hlabel]

theorem Service.selects_iff_any {service : Service} {pod : Pod} : service.Selects pod ↔
    service.selector.any (selects · (pod.metadata.labels.getD [])) := by
  rw [Service.Selects, Option.any_eq_true]
  exact exists_congr fun selector => and_congr_right fun _ => selects_iff.symm

instance (service : Service) (pod : Pod) : Decidable (service.Selects pod) :=
  decidable_of_iff _ Service.selects_iff_any.symm

/-- The names of the services that select the pod, in the order of the services. One without a name
is passed over. -/
def Pod.servicesAmong (pod : Pod) (services : List Service) : List String :=
  (services.filter (·.Selects pod)).filterMap (·.metadata.name)

variable {w : World} {pod : Pod} {services : List Service} {name : String}

theorem mem_servicesAmong : name ∈ pod.servicesAmong services ↔
    ∃ service ∈ services, service.metadata.name = some name ∧ service.Selects pod := by
  simp only [Pod.servicesAmong, List.mem_filterMap, List.mem_filter, decide_eq_true_eq]
  constructor
  · rintro ⟨service, ⟨hservice, hselects⟩, hname⟩
    exact ⟨service, hservice, hname, hselects⟩
  · rintro ⟨service, hservice, hname, hselects⟩
    exact ⟨service, ⟨hservice, hselects⟩, hname⟩

section Found

variable (h : w.finds (listAs Service.decode .services (.inNamespace pod.ref.namespace)) =
  .ok services)
include h

theorem finds_servicesSelecting :
    w.finds (servicesSelecting pod) = .ok (services.filter (·.Selects pod)) := by
  rw [servicesSelecting, World.finds_bind, h]
  refine congrArg Except.ok (List.filter_congr fun service _ => ?_)
  rw [Bool.eq_iff_iff, decide_eq_true_iff, Service.selects_iff_any]
  cases service.selector <;> rfl

/-- **What is looked up for a pod are the names of the services that select it.** -/
theorem finds_serviceNamesFor : w.finds (serviceNamesFor pod) =
    .ok ((pod.servicesAmong services).map fun name => pod.ref.namespace ++ "/" ++ name) := by
  rw [serviceNamesFor, World.finds_bind, finds_servicesSelecting h]
  rfl

end Found

theorem exists_of_finds_servicesSelecting {kept : List Service}
    (h : w.finds (servicesSelecting pod) = .ok kept) : ∃ services,
      w.finds (listAs Service.decode .services (.inNamespace pod.ref.namespace)) = .ok services ∧
        services.filter (·.Selects pod) = kept := by
  have hfound := h
  rw [servicesSelecting, World.finds_bind, bind_eq_ok] at hfound
  obtain ⟨services, hservices, -⟩ := hfound
  exact ⟨services, hservices, Except.ok.inj ((finds_servicesSelecting hservices).symm.trans h)⟩

end MeshDoctor
