import MeshDoctor.Proofs.Catalogue.Clusters
import MeshDoctor.Proofs.Cluster.Snapshot

/-!
# Catalogue — policies on the services of a pod

* `TrafficSplit.Concerns`, `IngressBackend.Lists`: when a policy is about a service.
* `exists_first_of_findSome?`: the search ends at the first policy that lists one of the services.
* `verdict_trafficSplits`, `verdict_ingressBackendExists`: the cases of each check; from them, when
  each outcome is given and what it says.
* **`Diagnostic.servicePolicies_verdict`**: what both checks say about a cluster.
-/

namespace MeshDoctor

open Catalogue Json

/-! ## Policies and services -/

/-- The split routes to one of the services or through it. -/
def TrafficSplit.Concerns (split : TrafficSplit) (names : List String) : Prop :=
  split.spec.service ∈ names ∨ ∃ backend ∈ split.spec.backends, backend.service ∈ names

instance (split : TrafficSplit) (names : List String) : Decidable (split.Concerns names) :=
  inferInstanceAs (Decidable (_ ∨ _))

/-- The policy lets ingress traffic to the service. -/
def IngressBackend.Lists (policy : IngressBackend) (name : String) : Prop :=
  ∃ backend ∈ policy.spec.backends, backend.name = name

instance (policy : IngressBackend) (name : String) : Decidable (policy.Lists name) :=
  inferInstanceAs (Decidable (∃ _ ∈ _, _))

namespace Catalogue

variable {names : List String}

theorem any_involves_iff {split : TrafficSplit} :
    names.any split.involves ↔ split.Concerns names := by
  simp only [List.any_eq_true, TrafficSplit.involves, Bool.or_eq_true, decide_eq_true_eq,
    TrafficSplit.Concerns]
  constructor
  · rintro ⟨name, hname, rfl | ⟨backend, hbackend, rfl⟩⟩
    · exact .inl hname
    · exact .inr ⟨backend, hbackend, hname⟩
  · rintro (hname | ⟨backend, hbackend, hname⟩)
    · exact ⟨_, hname, .inl rfl⟩
    · exact ⟨_, hname, .inr ⟨backend, hbackend, rfl⟩⟩

theorem backendAmong?_eq_none_iff {policy : IngressBackend} :
    backendAmong? names policy = none ↔ ∀ name ∈ names, ¬ policy.Lists name := by
  simp only [backendAmong?, Option.map_eq_none_iff, List.find?_eq_none, List.contains_iff_mem,
    IngressBackend.Lists]
  constructor
  · rintro h name hname ⟨backend, hbackend, rfl⟩
    exact h backend hbackend hname
  · exact fun h backend hbackend hname => h _ hname ⟨backend, hbackend, rfl⟩

/-- What is found is the policy that was searched, with a service that it lists. -/
theorem of_backendAmong? {policy : IngressBackend} {found : IngressBackend × BackendRef}
    (h : backendAmong? names policy = some found) :
    found.1 = policy ∧ found.2.name ∈ names ∧ policy.Lists found.2.name := by
  obtain ⟨b, hb, rfl⟩ := Option.map_eq_some_iff.mp h
  have hname := List.find?_some hb
  exact ⟨rfl, List.contains_iff_mem.mp hname, b, List.mem_of_find?_eq_some hb, rfl⟩

/-- The policy that is found is the first one that lists one of the services. -/
theorem exists_first_of_findSome? {policies : List IngressBackend}
    {found : IngressBackend × BackendRef}
    (h : policies.findSome? (backendAmong? names) = some found) :
    ∃ before after, policies = before ++ found.1 :: after ∧
      (∀ other ∈ before, ∀ name ∈ names, ¬ other.Lists name) ∧
      found.2.name ∈ names ∧ found.1.Lists found.2.name := by
  obtain ⟨before, policy, after, rfl, hfound, hbefore⟩ := List.findSome?_eq_some_iff.mp h
  obtain ⟨rfl, hname, hlists⟩ := of_backendAmong? hfound
  exact ⟨before, after, rfl, fun other ho => backendAmong?_eq_none_iff.mp (hbefore other ho), hname,
    hlists⟩

/-! ## The checks -/

section Found

variable {w : World} {destination : PodRef} {pod : Pod} {services : List Service}
  (hpod : w.finds (getPod destination) = .ok pod)
  (hservices : w.finds (listAs Service.decode .services (.inNamespace pod.ref.namespace)) =
    .ok services)
include hpod hservices

section Splits

variable {splits : List TrafficSplit}
  (hsplits : w.finds (listTrafficSplits destination.namespace) = .ok splits)
include hsplits

/-- There are no splits that concern the services, or they are described. -/
theorem verdict_trafficSplits :
    let names := pod.servicesAmong services
    let outcome := w.verdict (trafficSplits destination)
    ((∀ split ∈ splits, ¬ split.Concerns names) ∧ outcome = .pass none) ∨
    (∃ split ∈ splits, split.Concerns names) ∧ outcome = .info (String.intercalate "\n"
      ((splits.filter (·.Concerns names)).map (·.describe))) := by
  intro names outcome
  have hfilter : (splits.filter fun split =>
      (serviceNames (services.filter (·.Selects pod))).any split.involves) =
        splits.filter (·.Concerns names) := by
    refine List.filter_congr fun split _ => ?_
    rw [Bool.eq_iff_iff, any_involves_iff, decide_eq_true_iff]
    rfl
  have houtcome : outcome = w.verdict (trafficSplits destination) := rfl
  rw [trafficSplits, World.verdict_lookup_of_ok hpod,
    World.verdict_lookup_of_ok (finds_servicesSelecting hservices),
    World.verdict_lookup_of_ok hsplits] at houtcome
  simp only [hfilter, List.isEmpty_map, List.isEmpty_iff, List.filter_eq_nil_iff,
    decide_eq_true_eq] at houtcome
  by_cases hnone : ∀ split ∈ splits, ¬ split.Concerns names
  · rw [if_pos hnone] at houtcome
    exact .inl ⟨hnone, houtcome⟩
  · rw [if_neg hnone] at houtcome
    exact .inr ⟨by simpa using hnone, houtcome⟩

theorem verdict_trafficSplits_info_iff :
    (∃ text, w.verdict (trafficSplits destination) = .info text) ↔
      ∃ split ∈ splits, split.Concerns (pod.servicesAmong services) := by
  rcases verdict_trafficSplits hpod hservices hsplits with ⟨hnone, h⟩ | ⟨hsome, h⟩
  · rw [h]
    exact iff_of_false (fun ⟨_, h⟩ => nomatch h) fun ⟨split, hmem, hconcerns⟩ =>
      hnone split hmem hconcerns
  · exact iff_of_true ⟨_, h⟩ hsome

theorem verdict_trafficSplits_of_none
    (hnone : ∀ split ∈ splits, ¬ split.Concerns (pod.servicesAmong services)) :
    w.verdict (trafficSplits destination) = .pass none := by
  rcases verdict_trafficSplits hpod hservices hsplits with ⟨-, h⟩ | ⟨⟨split, hmem, hconcerns⟩, -⟩
  · exact h
  · exact absurd hconcerns (hnone split hmem)

/-- The text has a line for each split that concerns the services. -/
theorem eq_of_verdict_trafficSplits {text : String}
    (h : w.verdict (trafficSplits destination) = .info text) :
    text = String.intercalate "\n"
      ((splits.filter (·.Concerns (pod.servicesAmong services))).map (·.describe)) := by
  rcases verdict_trafficSplits hpod hservices hsplits with ⟨-, hpass⟩ | ⟨-, hinfo⟩
  · rw [hpass] at h
    cases h
  · rw [hinfo] at h
    exact (Outcome.info.inj h).symm

end Splits

section Backends

variable {policies : List IngressBackend}
  (hpolicies : w.finds (listIngressBackends destination.namespace) = .ok policies)
include hpolicies

/-- There are no services, a first policy that lists one of them, or no such policy. -/
theorem verdict_ingressBackendExists :
    let names := pod.servicesAmong services
    let outcome := w.verdict (ingressBackendExists destination)
    (names = [] ∧ outcome = .fail (.noServicesForPod destination.text)) ∨
    (∃ before policy after name, policies = before ++ policy :: after ∧
      (∀ other ∈ before, ∀ name ∈ names, ¬ other.Lists name) ∧ name ∈ names ∧ policy.Lists name ∧
      outcome = .pass (some ("service " ++ name ++ " is backed by ingress backend " ++
        policy.metadata.name.getD ""))) ∨
    names ≠ [] ∧ (∀ policy ∈ policies, ∀ name ∈ names, ¬ policy.Lists name) ∧
      outcome = .fail (.noIngressBackend (String.intercalate ", " names)) := by
  intro names outcome
  have hnames : serviceNames (services.filter (·.Selects pod)) = names := rfl
  have houtcome : outcome = w.verdict (ingressBackendExists destination) := rfl
  rw [ingressBackendExists, World.verdict_lookup_of_ok hpod,
    World.verdict_lookup_of_ok (finds_servicesSelecting hservices)] at houtcome
  simp only [hnames, List.isEmpty_iff] at houtcome
  by_cases hnone : names = []
  · rw [if_pos hnone] at houtcome
    exact .inl ⟨hnone, houtcome⟩
  rw [if_neg hnone, World.verdict_lookup_of_ok hpolicies] at houtcome
  right
  cases hsearch : policies.findSome? (backendAmong? names) with
  | some found =>
    rw [hsearch] at houtcome
    obtain ⟨before, after, hlist, hbefore, hname, hlists⟩ := exists_first_of_findSome? hsearch
    exact .inl ⟨before, found.1, after, found.2.name, hlist, hbefore, hname, hlists, houtcome⟩
  | none =>
    rw [hsearch] at houtcome
    rw [List.findSome?_eq_none_iff] at hsearch
    exact .inr ⟨hnone, fun policy hpolicy => backendAmong?_eq_none_iff.mp (hsearch policy hpolicy),
      houtcome⟩

theorem verdict_ingressBackendExists_noServices_iff :
    w.verdict (ingressBackendExists destination) = .fail (.noServicesForPod destination.text) ↔
      pod.servicesAmong services = [] := by
  rcases verdict_ingressBackendExists hpod hservices hpolicies with
    ⟨hnone, h⟩ | ⟨_, _, _, name, -, -, hname, -, h⟩ | ⟨hsome, -, h⟩
  · exact iff_of_true h hnone
  · rw [h]
    exact iff_of_false nofun (List.ne_nil_of_mem hname)
  · rw [h]
    exact iff_of_false nofun hsome

theorem verdict_ingressBackendExists_pass_iff :
    (∃ text, w.verdict (ingressBackendExists destination) = .pass text) ↔
      ∃ policy ∈ policies, ∃ name ∈ pod.servicesAmong services, policy.Lists name := by
  rcases verdict_ingressBackendExists hpod hservices hpolicies with
    ⟨hnone, h⟩ | ⟨before, policy, after, name, rfl, -, hname, hlists, h⟩ | ⟨-, hunlisted, h⟩
  · rw [h, hnone]
    exact iff_of_false (fun ⟨_, h⟩ => nomatch h) fun ⟨_, _, _, hname, _⟩ => nomatch hname
  · exact iff_of_true ⟨_, h⟩ ⟨policy, by simp, name, hname, hlists⟩
  · rw [h]
    exact iff_of_false (fun ⟨_, h⟩ => nomatch h) fun ⟨policy, hpolicy, name, hname, hlists⟩ =>
      hunlisted policy hpolicy name hname hlists

/-- The first policy that lists one of the services is named, with a service that it lists. -/
theorem exists_of_verdict_ingressBackendExists {text : Option String}
    (h : w.verdict (ingressBackendExists destination) = .pass text) :
    ∃ before policy after name, policies = before ++ policy :: after ∧
      (∀ other ∈ before, ∀ name ∈ pod.servicesAmong services, ¬ other.Lists name) ∧
      name ∈ pod.servicesAmong services ∧ policy.Lists name ∧
      text = some ("service " ++ name ++ " is backed by ingress backend " ++
        policy.metadata.name.getD "") := by
  rcases verdict_ingressBackendExists hpod hservices hpolicies with
    ⟨-, hfail⟩ | ⟨before, policy, after, name, hlist, hbefore, hname, hlists, hpass⟩ | ⟨-, -, hfail⟩
  · rw [hfail] at h
    cases h
  · rw [hpass] at h
    exact ⟨before, policy, after, name, hlist, hbefore, hname, hlists, (Outcome.pass.inj h).symm⟩
  · rw [hfail] at h
    cases h

theorem verdict_ingressBackendExists_of_none (hsome : pod.servicesAmong services ≠ [])
    (hunlisted : ∀ policy ∈ policies, ∀ name ∈ pod.servicesAmong services, ¬ policy.Lists name) :
    w.verdict (ingressBackendExists destination) =
      .fail (.noIngressBackend (String.intercalate ", " (pod.servicesAmong services))) := by
  rcases verdict_ingressBackendExists hpod hservices hpolicies with
    ⟨hnone, -⟩ | ⟨before, policy, after, name, rfl, -, hname, hlists, -⟩ | ⟨-, -, h⟩
  · exact absurd hnone hsome
  · exact absurd hlists (hunlisted policy (by simp) name hname)
  · exact h

end Backends

end Found

end Catalogue

/-- **What is said about the splits and the ingress backends of the services of a pod.** The splits
that concern one of the services are described, each with all its backends. Without services there is
no ingress backend to look for. Otherwise the first policy that lists one of them is named with a
service that it lists, or all of them are named if there is none. -/
theorem Diagnostic.servicePolicies_verdict (c : Snapshot) (destination : PodRef) {pod : Pod}
    (hpod : c.world.finds (getPod destination) = .ok pod)
    (hservices : c.HasReadable Service.decode .services destination.namespace)
    (hsplits : c.HasReadable TrafficSplit.decode .trafficSplits destination.namespace)
    (hpolicies : c.HasReadable IngressBackend.decode .ingressBackends destination.namespace) :
    let services := c.readIn Service.decode .services destination.namespace
    let splits := c.readIn TrafficSplit.decode .trafficSplits destination.namespace
    let policies := c.readIn IngressBackend.decode .ingressBackends destination.namespace
    let names := (services.filter (·.Selects pod)).filterMap (·.metadata.name)
    let split? := (Diagnostic.trafficSplits destination).outcome? c.world
    let ingress? := (Diagnostic.ingressBackendExists destination).outcome? c.world
    (((∃ text, split? = some (.info text)) ↔ ∃ split ∈ splits, split.Concerns names) ∧
      (∀ text, split? = some (.info text) → text = String.intercalate "\n"
        ((splits.filter (·.Concerns names)).map fun split =>
          split.metadata.name.getD "" ++ ": " ++ split.spec.service ++ " -> " ++
            String.intercalate ", " (split.spec.backends.map fun backend =>
              backend.service ++ "=" ++ toString backend.weight))) ∧
      ((∀ split ∈ splits, ¬ split.Concerns names) → split? = some (.pass none))) ∧
    (ingress? = some (.fail (.noServicesForPod destination.text)) ↔ names = []) ∧
    ((∃ text, ingress? = some (.pass text)) ↔
      ∃ policy ∈ policies, ∃ name ∈ names, policy.Lists name) ∧
    (∀ text, ingress? = some (.pass text) → ∃ before policy after name,
      policies = before ++ policy :: after ∧
      (∀ other ∈ before, ∀ name ∈ names, ¬ other.Lists name) ∧
      name ∈ names ∧ policy.Lists name ∧
      text = some ("service " ++ name ++ " is backed by ingress backend " ++
        policy.metadata.name.getD "")) ∧
    (names ≠ [] → (∀ policy ∈ policies, ∀ name ∈ names, ¬ policy.Lists name) →
      ingress? = some (.fail (.noIngressBackend (String.intercalate ", " names)))) := by
  intro services splits policies names split? ingress?
  have hns : pod.ref.namespace = destination.namespace := Snapshot.namespace_of_getPod hpod
  have hfound : c.world.finds (listAs Service.decode .services (.inNamespace pod.ref.namespace)) =
      .ok services := by
    rw [hns]
    exact hservices.finds
  have hsplit : split? = some (c.world.verdict (Catalogue.trafficSplits destination)) :=
    Diagnostic.outcome?_eq _ _
  have hingress : ingress? = some (c.world.verdict (Catalogue.ingressBackendExists destination)) :=
    Diagnostic.outcome?_eq _ _
  simp only [hsplit, hingress, Option.some.injEq]
  exact ⟨⟨verdict_trafficSplits_info_iff hpod hfound hsplits.finds,
      fun _ => eq_of_verdict_trafficSplits hpod hfound hsplits.finds,
      verdict_trafficSplits_of_none hpod hfound hsplits.finds⟩,
    verdict_ingressBackendExists_noServices_iff hpod hfound hpolicies.finds,
    verdict_ingressBackendExists_pass_iff hpod hfound hpolicies.finds,
    fun _ => exists_of_verdict_ingressBackendExists hpod hfound hpolicies.finds,
    verdict_ingressBackendExists_of_none hpod hfound hpolicies.finds⟩

/-! ## A split store -/

/-- A store with two services, of which splits and policies name one after another service. -/
def splitStore : Snapshot :=
  servedShop.withObjects <| servedShop.objects ++
    [split "canary" "front" [("store-v1", 90), ("cache", 10)], split "cached" "cache" [("cache", 1)],
      split "whole" "store" [], policy "cached" ["cache"], policy "canary" ["cache", "store-v1"],
      policy "whole" ["store"]]
where
  metadata (name : String) : String × Value :=
    ("metadata", .object [("name", .string name), ("namespace", .string "stock")])
  split (name root : String) (backends : List (String × Int)) : String × Value :=
    (Kind.trafficSplits.name, .object [metadata name, ("spec", .object
      [("service", .string root), ("backends", .array (backends.map fun b =>
        .object [("service", .string b.1), ("weight", .int b.2)]))])])
  policy (name : String) (services : List String) : String × Value :=
    (Kind.ingressBackends.name, .object [metadata name, ("spec", .object
      [("backends", .array (services.map fun service => .object [("name", .string service)]))])])

/-- Two of three splits concern the store, and a policy lists one of its services. -/
theorem Diagnostic.servicePolicies_verdict_splitStore :
    let destination : PodRef := ⟨"stock", "store-0"⟩
    (∃ pod, splitStore.world.finds (getPod destination) = .ok pod) ∧
      splitStore.HasReadable Service.decode .services "stock" ∧
      splitStore.HasReadable TrafficSplit.decode .trafficSplits "stock" ∧
      splitStore.HasReadable IngressBackend.decode .ingressBackends "stock" ∧
      (Diagnostic.trafficSplits destination).outcome? splitStore.world = some (.info
        "canary: front -> store-v1=90, cache=10\nwhole: store -> ") ∧
      ∃ text, (Diagnostic.ingressBackendExists destination).outcome? splitStore.world =
        some (.pass text) := by
  intro destination
  have hservices : splitStore.HasReadable Service.decode .services "stock" :=
    ⟨rfl, by decide +kernel⟩
  have hsplits : splitStore.HasReadable TrafficSplit.decode .trafficSplits "stock" :=
    ⟨rfl, by decide +kernel⟩
  have hpolicies : splitStore.HasReadable IngressBackend.decode .ingressBackends "stock" :=
    ⟨rfl, by decide +kernel⟩
  let pod : Pod := ⟨{ labels := some [("app", "store"), ("release", "v1")], name := "store-0",
                      «namespace» := "stock" }, none, none⟩
  have hpod : splitStore.world.finds (getPod destination) = .ok pod := rfl
  obtain ⟨⟨hinfo, htext, -⟩, -, hpass, -⟩ := servicePolicies_verdict splitStore destination hpod
    hservices hsplits hpolicies
  refine ⟨⟨pod, hpod⟩, hservices, hsplits, hpolicies, ?_, hpass.mpr (by decide +kernel)⟩
  obtain ⟨text, houtcome⟩ := hinfo.mpr (by decide +kernel)
  rw [houtcome, htext text houtcome]
  decide +kernel

end MeshDoctor
