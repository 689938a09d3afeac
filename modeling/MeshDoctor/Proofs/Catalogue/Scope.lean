import MeshDoctor.Catalogue.Diagnostic
import MeshDoctor.Proofs.Cluster.Snapshot

/-!
# Catalogue — the namespaces that a check reads

* `Request.StaysIn`: a request for a resource names one of the given namespaces, or it is for one
  resource of the whole cluster.
* `Diagnostic.StaysIn`: a check is about the given namespaces only.
* One lemma for each look-up and each check: it asks for nothing in other namespaces.
* **`Diagnostic.asksOnly_evaluate`**: so it is for the whole catalogue.
-/

namespace MeshDoctor

open Envoy World

/-- The request stays in the namespaces: a resource is looked up in one of them or outside of all
namespaces, and resources are listed in one of them. -/
def Request.StaysIn (home : List String) : Request → Prop
  | .get _ ns _ => ∀ n ∈ ns, n ∈ home
  | .list _ q => ∃ n ∈ home, q.namespace = some n
  | _ => True

variable {home : List String} {c : Snapshot}

/-! ## Look-ups -/

section Lookups

variable {α : Type} {w : World}

theorem asksOnly_getAs (d : Json.Decoder α) (kind : Kind) {ns : Option String}
    (hns : ∀ n ∈ ns, n ∈ home) (name : String) :
    w.AsksOnly (·.StaysIn home) (getAs d kind ns name) :=
  .bind (.request hns) fun _ _ => .done _

theorem asksOnly_listAs (d : Json.Decoder α) (kind : Kind) {q : ListQuery}
    (hq : ∃ n ∈ home, q.namespace = some n) :
    w.AsksOnly (·.StaysIn home) (listAs d kind q) :=
  .bind (.request hq) fun _ _ => .done _

theorem asksOnly_getPod {ref : PodRef} (h : ref.namespace ∈ home) :
    w.AsksOnly (·.StaysIn home) (getPod ref) :=
  .within (asksOnly_getAs _ _ (by simpa using h) _) _

theorem asksOnly_getNamespace (name : String) :
    w.AsksOnly (·.StaysIn home) (getNamespace name) :=
  .within (asksOnly_getAs _ _ (by simp) _) _

/-- The services of a pod are those of the namespace that the pod is found in. -/
theorem asksOnly_servicesSelecting {ref : PodRef} {pod : Pod}
    (h : ref.namespace ∈ home) (hpod : c.world.finds (getPod ref) = .ok pod) :
    c.world.AsksOnly (·.StaysIn home) (servicesSelecting pod) :=
  .bind (asksOnly_listAs _ _ ⟨pod.ref.namespace, by rwa [Snapshot.namespace_of_getPod hpod], rfl⟩)
    fun _ _ => .done _

theorem asksOnly_controllerPods {mesh : Mesh} (h : mesh.namespace ∈ home) :
    w.AsksOnly (·.StaysIn home) mesh.controllerPods :=
  asksOnly_listAs _ _ ⟨mesh.namespace, h, rfl⟩

theorem asksOnly_controllerVersion {mesh : Mesh} (h : mesh.namespace ∈ home) :
    w.AsksOnly (·.StaysIn home) mesh.controllerVersion :=
  .bind (asksOnly_controllerPods h) fun _ _ => .done _

theorem asksOnly_config {mesh : Mesh} (h : mesh.namespace ∈ home) :
    w.AsksOnly (·.StaysIn home) mesh.config :=
  .within (asksOnly_getAs _ _ (by simpa using h) _) _

end Lookups

namespace Catalogue

/-! ## Pods, namespaces and events -/

section Pods

variable {ref : PodRef} (h : ref.namespace ∈ home)
include h

theorem asksOnly_sidecarPresent : c.world.AsksOnly (·.StaysIn home) (sidecarPresent ref) := by
  refine .bind (.diagnose (asksOnly_getPod h)) fun pod _ => ?_
  split <;> exact .done _

theorem asksOnly_proxyUuidLabelled :
    c.world.AsksOnly (·.StaysIn home) (proxyUuidLabelled ref) := by
  refine .bind (.diagnose (asksOnly_getPod h)) fun pod _ => ?_
  split <;> exact .done _

theorem asksOnly_podReady : c.world.AsksOnly (·.StaysIn home) (podReady ref) := by
  refine .bind (.diagnose (asksOnly_getPod h)) fun pod _ => ?_
  split <;> exact .done _

theorem asksOnly_sidecarInjection :
    c.world.AsksOnly (·.StaysIn home) (sidecarInjection ref) := by
  refine .bind (.diagnose (asksOnly_getPod h)) fun pod _ => ?_
  split
  · split <;> exact .done _
  · refine .bind (.diagnose (asksOnly_getNamespace ref.namespace)) fun ns _ => ?_
    split <;> exact .done _

end Pods

theorem asksOnly_warningEvents {ns : String} (h : ns ∈ home) (involved : Option String) :
    c.world.AsksOnly (·.StaysIn home) (warningEvents ns involved) := by
  refine .bind (.diagnose (asksOnly_listAs _ _ ⟨ns, h, rfl⟩)) fun events _ => ?_
  split <;> exact .done _

theorem asksOnly_namespaceMonitored (ns mesh : String) :
    c.world.AsksOnly (·.StaysIn home) (namespaceMonitored ns mesh) := by
  refine .bind (.diagnose (asksOnly_getNamespace ns)) fun found _ => ?_
  split <;> exact .done _

theorem asksOnly_sameMesh (source destination : String) :
    c.world.AsksOnly (·.StaysIn home) (sameMesh source destination) := by
  refine .bind (.diagnose (asksOnly_getNamespace source)) fun sourceNs _ => ?_
  refine .bind (.diagnose (asksOnly_getNamespace destination)) fun destinationNs _ => ?_
  dsimp only
  split <;> exact .done _

/-! ## The control plane -/

theorem asksOnly_deploymentAvailable {ns : String} (h : ns ∈ home) (name : String) :
    c.world.AsksOnly (·.StaysIn home) (deploymentAvailable ns name) := by
  have hget : c.world.AsksOnly (·.StaysIn home) (getDeployment ns name) :=
    .within (asksOnly_getAs _ _ (by simpa using h) _) _
  refine .bind (.diagnose hget) fun deployment _ => ?_
  dsimp only
  split <;> exact .done _

section Mesh

variable {mesh : Mesh} (h : mesh.namespace ∈ home)
include h

theorem asksOnly_controllerPodsReady :
    c.world.AsksOnly (·.StaysIn home) (controllerPodsReady mesh) := by
  refine .bind (.diagnose (asksOnly_controllerPods h)) fun pods _ => ?_
  split
  · exact .done _
  · split <;> exact .done _

theorem asksOnly_controllerVersionSupported :
    c.world.AsksOnly (·.StaysIn home) (controllerVersionSupported mesh) := by
  refine .bind (.diagnose (asksOnly_controllerVersion h)) fun release _ => ?_
  split <;> exact .done _

theorem asksOnly_meshConfigPresent :
    c.world.AsksOnly (·.StaysIn home) (meshConfigPresent mesh) :=
  .bind (.diagnose (asksOnly_config h)) fun _ _ => .done _

theorem asksOnly_egressEnabled : c.world.AsksOnly (·.StaysIn home) (egressEnabled mesh) := by
  refine .bind (.diagnose (asksOnly_config h)) fun config _ => ?_
  split <;> exact .done _

/-! ## Policies -/

theorem asksOnly_trafficPolicy {source destination : PodRef} (hs : source.namespace ∈ home)
    (hd : destination.namespace ∈ home) :
    c.world.AsksOnly (·.StaysIn home) (trafficPolicy mesh source destination) := by
  refine .bind (.diagnose (asksOnly_config h)) fun config _ => ?_
  split
  · exact .done _
  · refine .bind (.diagnose (asksOnly_getPod hs)) fun sourcePod _ => ?_
    refine .bind (.diagnose (asksOnly_getPod hd)) fun destinationPod _ => ?_
    refine .bind (.diagnose (asksOnly_controllerVersion h)) fun release _ => ?_
    refine .bind (.done _) fun expected _ => ?_
    have htargets : c.world.AsksOnly (·.StaysIn home) (listTrafficTargets destination.namespace) :=
      asksOnly_listAs _ _ ⟨destination.namespace, hd, rfl⟩
    exact .bind (.diagnose htargets) fun targets _ => .done _

end Mesh

section Destination

variable {destination : PodRef} (h : destination.namespace ∈ home)
include h

theorem asksOnly_trafficSplits :
    c.world.AsksOnly (·.StaysIn home) (trafficSplits destination) := by
  refine .bind (.diagnose (asksOnly_getPod h)) fun pod hpod => ?_
  have hservices := asksOnly_servicesSelecting h (finds_liftM_eq_ok.mp hpod)
  refine .bind (.diagnose hservices) fun services _ => ?_
  have hsplits : c.world.AsksOnly (·.StaysIn home) (listTrafficSplits destination.namespace) :=
    asksOnly_listAs _ _ ⟨destination.namespace, h, rfl⟩
  refine .bind (.diagnose hsplits) fun splits _ => ?_
  dsimp only
  split <;> exact .done _

theorem asksOnly_ingressBackendExists :
    c.world.AsksOnly (·.StaysIn home) (ingressBackendExists destination) := by
  refine .bind (.diagnose (asksOnly_getPod h)) fun pod hpod => ?_
  have hservices := asksOnly_servicesSelecting h (finds_liftM_eq_ok.mp hpod)
  refine .bind (.diagnose hservices) fun services _ => ?_
  dsimp only
  split
  · exact .done _
  · have hpolicies :
        c.world.AsksOnly (·.StaysIn home) (listIngressBackends destination.namespace) :=
      asksOnly_listAs _ _ ⟨destination.namespace, h, rfl⟩
    refine .bind (.diagnose hpolicies) fun policies _ => ?_
    split <;> exact .done _

end Destination

theorem asks_definitionMissing (w : World) (name : String) :
    w.asks (definitionMissing name) = [.get Kind.definitions.name none name] := by
  have hasked : w.asks (request (.get Kind.definitions.name none name)) =
      [.get Kind.definitions.name none name] := w.asks_request _
  rw [asks, definitionMissing, ExceptT.run_mk, Inquiry.trace_bind, ← asks, hasked]
  split <;> rfl

/-- Definitions belong to no namespace. -/
theorem asksOnly_missingDefinitions (kinds : List Kind) :
    c.world.AsksOnly (·.StaysIn home) (missingDefinitions kinds) := by
  induction kinds with
  | nil => exact .done _
  | cons kind rest ih =>
    have hmissing : c.world.AsksOnly (·.StaysIn home) (definitionMissing kind.name) := by
      intro r hr
      rw [asks_definitionMissing, List.mem_singleton] at hr
      rw [hr]
      exact fun n hn => nomatch hn
    exact .bind hmissing fun _ _ => .bind ih fun _ _ => .done _

theorem asksOnly_definitionsInstalled :
    c.world.AsksOnly (·.StaysIn home) definitionsInstalled := by
  refine .bind (.diagnose (asksOnly_missingDefinitions policyKinds)) fun missing _ => ?_
  split <;> exact .done _

/-! ## Sidecars and probes -/

/-- The answer of a sidecar is no object of the cluster. -/
theorem asksOnly_loadConfig (getter : Option Getter) :
    c.world.AsksOnly (·.StaysIn home) (loadConfig getter) := by
  rcases getter with _ | (⟨pod, answer⟩ | pod)
  · exact .done _
  · exact .diagnose (.bind (.done answer) fun _ _ => .done _)
  · exact .diagnose (.bind (.request trivial) fun _ _ => .done _)

theorem asksOnly_noWarmingSecrets (getter : Option Getter) :
    c.world.AsksOnly (·.StaysIn home) (noWarmingSecrets getter) := by
  refine .bind (asksOnly_loadConfig getter) fun dump _ => ?_
  split <;> exact .done _

theorem asksOnly_hasDestinationEndpoints (getter : Option Getter) :
    c.world.AsksOnly (·.StaysIn home) (hasDestinationEndpoints getter) := by
  refine .bind (asksOnly_loadConfig getter) fun dump _ => ?_
  dsimp only
  split <;> exact .done _

theorem asksOnly_hasListener {mesh : Mesh} (h : mesh.namespace ∈ home) (getter : Option Getter)
    (direction : Direction) :
    c.world.AsksOnly (·.StaysIn home) (hasListener mesh getter direction) := by
  refine .bind (.diagnose (asksOnly_controllerVersion h)) fun release _ => ?_
  refine .bind (.done _) fun name _ => ?_
  refine .bind (asksOnly_loadConfig getter) fun dump _ => ?_
  split <;> exact .done _

section Destination

variable {destination : PodRef} (h : destination.namespace ∈ home) (getter : Option Getter)
include h

theorem asksOnly_hasCluster :
    c.world.AsksOnly (·.StaysIn home) (hasCluster destination getter) := by
  refine .bind (asksOnly_loadConfig getter) fun dump _ => ?_
  refine .bind (.diagnose (asksOnly_getPod h)) fun pod hpod => ?_
  have hservices := asksOnly_servicesSelecting h (finds_liftM_eq_ok.mp hpod)
  refine .bind (.diagnose (.bind hservices fun _ _ => .done _)) fun expected _ => ?_
  split
  · exact .done _
  · split <;> exact .done _

theorem asksOnly_hasSpecificEndpoint :
    c.world.AsksOnly (·.StaysIn home) (hasSpecificEndpoint destination getter) := by
  refine .bind (asksOnly_loadConfig getter) fun dump _ => ?_
  refine .bind (.diagnose (asksOnly_getPod h)) fun pod _ => ?_
  split
  · exact .done _
  · split <;> exact .done _

theorem asksOnly_hasOutboundRoute {mesh : Mesh} (hmesh : mesh.namespace ∈ home) :
    c.world.AsksOnly (·.StaysIn home) (hasOutboundRoute mesh destination getter) := by
  refine .bind (.diagnose (asksOnly_controllerVersion hmesh)) fun release _ => ?_
  refine .bind (.done _) fun routeConfig _ => ?_
  refine .bind (asksOnly_loadConfig getter) fun dump _ => ?_
  refine .bind (.diagnose (asksOnly_getPod h)) fun pod hpod => ?_
  have hservices := asksOnly_servicesSelecting h (finds_liftM_eq_ok.mp hpod)
  refine .bind (.diagnose hservices) fun services _ => ?_
  dsimp only
  split
  · exact .done _
  · split <;> exact .done _

end Destination

theorem asksOnly_httpProbe {source : PodRef} (h : source.namespace ∈ home) (url : String) :
    c.world.AsksOnly (·.StaysIn home) (httpProbe source url) :=
  .bind (.diagnose (asksOnly_getPod h)) fun _ _ =>
    .bind (.diagnose (.request trivial)) fun _ _ => .done _

end Catalogue

/-! ## The whole catalogue -/

/-- Is the check about these namespaces only? One check lists the namespaces of the cluster. -/
def Diagnostic.StaysIn (home : List String) : Diagnostic → Prop
  | sidecarPresent pod => pod.namespace ∈ home
  | proxyUuidLabelled pod => pod.namespace ∈ home
  | podReady pod => pod.namespace ∈ home
  | warningEvents ns _ => ns ∈ home
  | sidecarInjection pod => pod.namespace ∈ home
  | monitoredNamespacesInjected _ => False
  | deploymentAvailable ns _ => ns ∈ home
  | controllerPodsReady mesh => mesh.namespace ∈ home
  | controllerVersionSupported mesh => mesh.namespace ∈ home
  | meshConfigPresent mesh => mesh.namespace ∈ home
  | egressEnabled mesh => mesh.namespace ∈ home
  | trafficPolicy mesh source destination =>
    mesh.namespace ∈ home ∧ source.namespace ∈ home ∧ destination.namespace ∈ home
  | trafficSplits destination => destination.namespace ∈ home
  | ingressBackendExists destination => destination.namespace ∈ home
  | hasCluster _ destination _ => destination.namespace ∈ home
  | hasListener mesh _ _ _ => mesh.namespace ∈ home
  | hasSpecificEndpoint _ destination _ => destination.namespace ∈ home
  | hasOutboundRoute mesh _ destination _ =>
    mesh.namespace ∈ home ∧ destination.namespace ∈ home
  | httpProbe source _ => source.namespace ∈ home
  | namespaceMonitored _ _ | sameMesh _ _ | definitionsInstalled | noWarmingSecrets _ _
    | hasDestinationEndpoints _ _ => True

open Catalogue in
/-- **A check that is about some namespaces asks for nothing in others.** -/
theorem Diagnostic.asksOnly_evaluate {d : Diagnostic} (h : d.StaysIn home) :
    c.world.AsksOnly (·.StaysIn home) d.evaluate := by
  cases d with
  | sidecarPresent pod => exact asksOnly_sidecarPresent h
  | proxyUuidLabelled pod => exact asksOnly_proxyUuidLabelled h
  | podReady pod => exact asksOnly_podReady h
  | warningEvents ns involved => exact asksOnly_warningEvents h involved
  | namespaceMonitored ns mesh => exact asksOnly_namespaceMonitored ns mesh
  | sidecarInjection pod => exact asksOnly_sidecarInjection h
  | sameMesh source destination => exact asksOnly_sameMesh source destination
  | monitoredNamespacesInjected mesh => exact h.elim
  | deploymentAvailable ns name => exact asksOnly_deploymentAvailable h name
  | controllerPodsReady mesh => exact asksOnly_controllerPodsReady h
  | controllerVersionSupported mesh => exact asksOnly_controllerVersionSupported h
  | meshConfigPresent mesh => exact asksOnly_meshConfigPresent h
  | egressEnabled mesh => exact asksOnly_egressEnabled h
  | trafficPolicy mesh source destination => exact asksOnly_trafficPolicy h.1 h.2.1 h.2.2
  | trafficSplits destination => exact asksOnly_trafficSplits h
  | ingressBackendExists destination => exact asksOnly_ingressBackendExists h
  | definitionsInstalled => exact asksOnly_definitionsInstalled
  | hasCluster pod destination getter => exact asksOnly_hasCluster h getter
  | hasListener mesh pod getter direction => exact asksOnly_hasListener h getter direction
  | noWarmingSecrets pod getter => exact asksOnly_noWarmingSecrets getter
  | hasDestinationEndpoints pod getter => exact asksOnly_hasDestinationEndpoints getter
  | hasSpecificEndpoint pod destination getter => exact asksOnly_hasSpecificEndpoint h getter
  | hasOutboundRoute mesh pod destination getter => exact asksOnly_hasOutboundRoute h.2 getter h.1
  | httpProbe source url => exact asksOnly_httpProbe h url

end MeshDoctor
