import Mathlib.Data.List.Forall2
import MeshDoctor.Proofs.Cluster.Services
import MeshDoctor.Proofs.Cluster.Snapshot

/-!
# Clusters — what the selection of services depends on

* `Snapshot.servicesIn`: the services of a namespace, in the order of the cluster.
* `Service.Selects.extends`: a service keeps a pod that gains labels.
* `Service.Narrows.selects`: a service whose selector gains terms gains no pods, if it had terms.
* **`Snapshot.servicesSelecting_exact`**: which services are found for a pod, and what further labels
  and further terms change about it.
-/

namespace MeshDoctor

open Json

/-! ## Services of a namespace -/

namespace Snapshot

/-- The services of a namespace, in the order of the cluster. -/
def servicesIn (c : Snapshot) (ns : String) : List Service :=
  (c.objectsIn Kind.services.name ns).filterMap Service.decode

/-- The services of a namespace are listed, and all of them decode. -/
structure HasReadableServices (c : Snapshot) (ns : String) : Prop where
  served : c.failureOf (.list Kind.services.name (.inNamespace ns)) = none
  decodes : ∀ v ∈ c.objectsIn Kind.services.name ns, (Service.decode v).isSome

variable {c : Snapshot} {ns : String}

theorem HasReadableServices.finds (h : c.HasReadableServices ns) :
    c.world.finds (listAs Service.decode .services (.inNamespace ns)) = .ok (c.servicesIn ns) :=
  HasReadable.finds ⟨h.served, h.decodes⟩

theorem namespace_of_mem_servicesIn {service : Service} (h : service ∈ c.servicesIn ns) :
    service.metadata.namespace = some ns := by
  obtain ⟨v, hv, hdecode⟩ := List.mem_filterMap.mp h
  rw [Service.namespace_of_decode hdecode]
  exact (mem_objectsIn.mp hv).2

end Snapshot

/-! ## Further labels -/

/-- The pod has the labels of another one, and perhaps further ones. -/
def Pod.Extends (pod' pod : Pod) : Prop :=
  ∀ key value, pod.label? key = some value → pod'.label? key = some value

variable {pod pod' : Pod} {service service' : Service}

theorem Service.Selects.extends (h : service.Selects pod) (hlabels : pod'.Extends pod) :
    service.Selects pod' := by
  obtain ⟨selector, hselector, hterms, hall⟩ := h
  exact ⟨selector, hselector, hterms, fun pair hpair => hlabels _ _ (hall pair hpair)⟩

theorem Service.not_selects_of_labels_eq_none (h : pod.metadata.labels = none) :
    ¬ service.Selects pod := by
  rintro ⟨selector, -, hterms, hall⟩
  obtain ⟨pair, hpair⟩ := List.exists_mem_of_ne_nil selector hterms
  have hlabel := hall pair hpair
  rw [Pod.label?, Metadata.label?, h] at hlabel
  cases hlabel

/-! ## Further terms -/

/-- The service is another one whose selector, if it has gained terms, had some before. -/
structure Service.Narrows (service' service : Service) : Prop where
  metadata_eq : service'.metadata = service.metadata
  selector : service'.selector = service.selector ∨
    ∃ terms terms', service.selector = some terms ∧ terms ≠ [] ∧
      service'.selector = some terms' ∧ terms ⊆ terms'

theorem Service.Narrows.selects (h : service'.Narrows service) (hselects : service'.Selects pod) :
    service.Selects pod := by
  obtain ⟨selector, hselector, hterms, hall⟩ := hselects
  obtain hsame | ⟨terms, terms', hold, hsome, hnew, hsubset⟩ := h.selector
  · exact ⟨selector, hsame.symm.trans hselector, hterms, hall⟩
  · obtain rfl := Option.some.inj (hnew.symm.trans hselector)
    exact ⟨terms, hold, hsome, fun pair hpair => hall pair (hsubset hpair)⟩

/-- Terms for a selector without any can gain pods. -/
example : ∃ (service service' : Service) (pod : Pod),
    service'.metadata = service.metadata ∧ service.selector = some [] ∧
      ¬ service.Selects pod ∧ service'.Selects pod := by
  refine ⟨⟨{}, some []⟩, ⟨{}, some [("app", "store")]⟩,
    ⟨{ labels := some [("app", "store")] }, none, none⟩, rfl, rfl, ?_, ?_⟩
  · decide
  · decide

/-- If items are chosen only where those that they replace are, fewer are chosen, in the same order. -/
theorem sublistForall₂_filter {α : Type} {R : α → α → Prop} {p : α → Bool} {xs' xs : List α}
    (h : List.Forall₂ R xs' xs) (hp : ∀ x' x, R x' x → p x' → p x) :
    List.SublistForall₂ R (xs'.filter p) (xs.filter p) := by
  induction h with
  | nil => exact .nil
  | @cons x' x xs' xs hhead _ ih =>
    by_cases hnew : p x'
    · rw [List.filter_cons_of_pos hnew, List.filter_cons_of_pos (hp x' x hhead hnew)]
      exact .cons hhead ih
    · rw [List.filter_cons_of_neg hnew]
      by_cases hold : p x
      · rw [List.filter_cons_of_pos hold]
        exact .cons_right ih
      · rw [List.filter_cons_of_neg hold]
        exact ih

/-! ## Selection -/

/-- **The services that are found for a pod are those of its namespace that select it**, in the order
of the cluster. Such a service lies in this namespace, and a pod without labels has none. Further
labels of the pod lose no service. Where the selectors of services gain terms, each service that is
found was found before, if its selector had terms. -/
theorem Snapshot.servicesSelecting_exact (c : Snapshot) (pod : Pod) {ns : String}
    (hns : pod.metadata.namespace.getD "" = ns) (h : c.HasReadableServices ns) :
    ∃ found, c.world.finds (servicesSelecting pod) = .ok found ∧
      found = (c.servicesIn ns).filter (·.Selects pod) ∧
      (∀ service ∈ found, service.metadata.namespace = some ns) ∧
      (pod.metadata.labels = none → found = []) ∧
      (∀ pod', pod'.metadata.namespace.getD "" = ns → pod'.Extends pod →
        ∃ found', c.world.finds (servicesSelecting pod') = .ok found' ∧ found.Sublist found') ∧
      ∀ c' : Snapshot, c'.HasReadableServices ns →
        List.Forall₂ Service.Narrows (c'.servicesIn ns) (c.servicesIn ns) →
          ∃ found', c'.world.finds (servicesSelecting pod) = .ok found' ∧
            List.SublistForall₂ Service.Narrows found' found := by
  have hfinds {c : Snapshot} (hc : c.HasReadableServices ns) {pod : Pod}
      (hpod : pod.metadata.namespace.getD "" = ns) :
      c.world.finds (servicesSelecting pod) = .ok ((c.servicesIn ns).filter (·.Selects pod)) := by
    refine finds_servicesSelecting ?_
    rw [Pod.ref, hpod]
    exact hc.finds
  refine ⟨_, hfinds h hns, rfl, fun service hservice => ?_, fun hlabels => ?_,
    fun pod' hns' hextends => ⟨_, hfinds h hns', ?_⟩, fun c' hc' hnarrows => ⟨_, hfinds hc' hns, ?_⟩⟩
  · exact namespace_of_mem_servicesIn (List.mem_of_mem_filter hservice)
  · refine List.filter_eq_nil_iff.mpr fun service _ hselects => ?_
    exact Service.not_selects_of_labels_eq_none hlabels (of_decide_eq_true hselects)
  · refine List.monotone_filter_right _ fun service hselects => ?_
    rw [decide_eq_true_eq] at hselects ⊢
    exact hselects.extends hextends
  · refine sublistForall₂_filter hnarrows fun service' service hnarrow hselects => ?_
    rw [decide_eq_true_eq] at hselects ⊢
    exact hnarrow.selects hselects

/-! ## A store -/

/-- Services of a stock: one without a selector, one without terms, and a store that asks for these
labels. Another store lies in the shop. -/
def stockWithStore (terms : Labels) : Snapshot where
  objects :=
    let service (name ns : String) (spec : List (String × Value)) : String × Value :=
      (Kind.services.name, .object
        [("metadata", .object [("name", .string name), ("namespace", .string ns)]),
          ("spec", .object spec)])
    [service "outside" "stock" [],
      service "everything" "stock" [("selector", .object [])],
      service "store" "stock" [("selector", Metadata.ofLabels terms)],
      service "store" "shop" [("selector", .object [("app", .string "store")])]]

/-- A pod of the stock with these labels. -/
def stockPod (labels : Labels) : Pod :=
  ⟨{ labels := some labels, name := "store-0", «namespace» := "stock" }, none, none⟩

/-- The store has a pod, also when the pod gains a label. It loses the pod when it asks for that
label as well. -/
theorem Snapshot.servicesSelecting_exact_stock :
    let store := stockWithStore [("app", "store")]
    let front := stockWithStore [("app", "store"), ("tier", "front")]
    let pod := stockPod [("app", "store")]
    let pod' := stockPod [("app", "store"), ("tier", "front")]
    store.HasReadableServices "stock" ∧ front.HasReadableServices "stock" ∧ pod'.Extends pod ∧
      List.Forall₂ Service.Narrows (front.servicesIn "stock") (store.servicesIn "stock") ∧
      ∃ found found', store.world.finds (servicesSelecting pod) = .ok found ∧
        found.map (·.metadata.name) = [some "store"] ∧
        store.world.finds (servicesSelecting pod') = .ok found' ∧ found.Sublist found' ∧
        front.world.finds (servicesSelecting pod) = .ok [] := by
  intro store front pod pod'
  have hstore : store.HasReadableServices "stock" := ⟨rfl, by decide⟩
  have hfront : front.HasReadableServices "stock" := ⟨rfl, by decide⟩
  have hextends : pod'.Extends pod := by
    intro key value hlabel
    have happ : List.lookup key [("app", "store")] = some value := hlabel
    change List.lookup key [("app", "store"), ("tier", "front")] = some value
    rw [List.lookup_cons] at happ ⊢
    split
    next hkey => simpa [hkey] using happ
    next hkey => simp [hkey] at happ
  have hnarrows : List.Forall₂ Service.Narrows (front.servicesIn "stock")
      (store.servicesIn "stock") := by
    refine .cons ⟨rfl, .inl rfl⟩ (.cons ⟨rfl, .inl rfl⟩ (.cons ⟨rfl, .inr ?_⟩ .nil))
    exact ⟨[("app", "store")], [("app", "store"), ("tier", "front")], rfl, by decide, rfl, by decide⟩
  obtain ⟨found, hfound, hexact, -, -, hlabels, hterms⟩ :=
    servicesSelecting_exact store pod rfl hstore
  have hone : found.map (·.metadata.name) = [some "store"] := hexact ▸ rfl
  obtain ⟨found', hfound', hsublist⟩ := hlabels pod' rfl hextends
  obtain ⟨narrowed, hnarrowed, -⟩ := hterms front hfront hnarrows
  obtain rfl : [] = narrowed := Except.ok.inj hnarrowed
  exact ⟨hstore, hfront, hextends, hnarrows, found, found', hfound, hone, hfound', hsublist,
    hnarrowed⟩

end MeshDoctor
