import MeshDoctor.Catalogue.Diagnostic
import MeshDoctor.Proofs.Inquiry.Kinds

/-!
# Catalogue — what is built into every check

A check is put together from requests on the cluster. A property that such requests have and that
survives the composition is a property of every check.

* `Catalogue.Closed`: properties of lookups and of diagnoses that survive composition.
* One lemma for each look-up and each check.
* **`Diagnostic.closed_evaluate`**: such a property holds of the whole catalogue.
* **`Diagnostic.asksOnly_isOnCluster`**: whatever it is answered, a check uses no tool itself,
  touches no file and prints nothing.
-/

namespace MeshDoctor

open Envoy Inquiry

namespace Catalogue

/-- Requests on the cluster have the property, and composition keeps it. The answer that a
definition does not exist is not passed on, so the request for one is a case of its own. -/
structure Closed (L : {α : Type} → Lookup α → Prop) (D : {α : Type} → Diagnosis α → Prop) :
    Prop where
  request {r : Request} (hr : r.isOnCluster) : L (request r)
  definition (name : String) : L (definitionMissing name)
  done {α : Type} (result : Except Failure α) : L (.ofResult result)
  bind {α β : Type} {x : Lookup α} {f : α → Lookup β} (hx : L x) (hf : ∀ a, L (f a)) : L (x >>= f)
  within {α : Type} {x : Lookup α} (hx : L x) (context : String) : L (x.within context)
  diagnose {α : Type} {x : Lookup α} (hx : L x) : D (liftM x : Diagnosis α)
  verdict {α : Type} (result : Except Problem α) : D (.ofResult result)
  andThen {α β : Type} {x : Diagnosis α} {f : α → Diagnosis β} (hx : D x) (hf : ∀ a, D (f a)) :
    D (x >>= f)

variable {L : {α : Type} → Lookup α → Prop} {D : {α : Type} → Diagnosis α → Prop}
  (h : Closed L D)
include h

/-! ## Look-ups -/

section Lookups

variable {α : Type}

theorem closed_getAs (d : Json.Decoder α) (kind : Kind) (ns : Option String) (name : String) :
    L (getAs d kind ns name) :=
  h.bind (h.request rfl) fun _ => h.done _

theorem closed_listAs (d : Json.Decoder α) (kind : Kind) (query : ListQuery) :
    L (listAs d kind query) :=
  h.bind (h.request rfl) fun _ => h.done _

theorem closed_getPod (pod : PodRef) : L (getPod pod) :=
  h.within (closed_getAs h _ _ _ _) _

theorem closed_getNamespace (name : String) : L (getNamespace name) :=
  h.within (closed_getAs h _ _ _ _) _

theorem closed_servicesSelecting (pod : Pod) : L (servicesSelecting pod) :=
  h.bind (closed_listAs h _ _ _) fun _ => h.done _

theorem closed_controllerVersion (mesh : Mesh) : L mesh.controllerVersion :=
  h.bind (closed_listAs h _ _ _) fun _ => h.done _

theorem closed_meshConfig (mesh : Mesh) : L mesh.config :=
  h.within (closed_getAs h _ _ _ _) _

theorem closed_raw (getter : Getter) : L getter.raw := by
  cases getter with
  | canned pod answer => exact h.done answer
  | asking pod => exact h.request rfl

end Lookups

/-! ## Pods, namespaces and events -/

theorem closed_sidecarPresent (ref : PodRef) : D (sidecarPresent ref) := by
  refine h.andThen (h.diagnose (closed_getPod h ref)) fun pod => ?_
  split <;> exact h.verdict _

theorem closed_proxyUuidLabelled (ref : PodRef) : D (proxyUuidLabelled ref) := by
  refine h.andThen (h.diagnose (closed_getPod h ref)) fun pod => ?_
  split <;> exact h.verdict _

theorem closed_podReady (ref : PodRef) : D (podReady ref) := by
  refine h.andThen (h.diagnose (closed_getPod h ref)) fun pod => ?_
  split <;> exact h.verdict _

theorem closed_warningEvents (ns : String) (involved : Option String) :
    D (warningEvents ns involved) := by
  refine h.andThen (h.diagnose (closed_listAs h _ _ _)) fun events => ?_
  split <;> exact h.verdict _

theorem closed_namespaceMonitored (ns mesh : String) : D (namespaceMonitored ns mesh) := by
  refine h.andThen (h.diagnose (closed_getNamespace h ns)) fun found => ?_
  split <;> exact h.verdict _

theorem closed_sidecarInjection (ref : PodRef) : D (sidecarInjection ref) := by
  refine h.andThen (h.diagnose (closed_getPod h ref)) fun pod => ?_
  split
  · split <;> exact h.verdict _
  · refine h.andThen (h.diagnose (closed_getNamespace h ref.namespace)) fun ns => ?_
    split <;> exact h.verdict _

theorem closed_sameMesh (source destination : String) : D (sameMesh source destination) := by
  refine h.andThen (h.diagnose (closed_getNamespace h source)) fun sourceNs => ?_
  refine h.andThen (h.diagnose (closed_getNamespace h destination)) fun destinationNs => ?_
  dsimp only
  split <;> exact h.verdict _

theorem closed_monitoredNamespacesInjected (mesh : Mesh) :
    D (monitoredNamespacesInjected mesh) := by
  refine h.andThen (h.diagnose (closed_listAs h _ _ _)) fun monitored => ?_
  dsimp only
  split
  · exact h.verdict _
  · split <;> exact h.verdict _

/-! ## The control plane -/

theorem closed_deploymentAvailable (ns name : String) : D (deploymentAvailable ns name) := by
  refine h.andThen (h.diagnose (h.within (closed_getAs h _ _ _ _) _)) fun deployment => ?_
  dsimp only
  split <;> exact h.verdict _

theorem closed_controllerPodsReady (mesh : Mesh) : D (controllerPodsReady mesh) := by
  refine h.andThen (h.diagnose (closed_listAs h _ _ _)) fun pods => ?_
  split
  · exact h.verdict _
  · split <;> exact h.verdict _

theorem closed_controllerVersionSupported (mesh : Mesh) : D (controllerVersionSupported mesh) := by
  refine h.andThen (h.diagnose (closed_controllerVersion h mesh)) fun release => ?_
  split <;> exact h.verdict _

theorem closed_meshConfigPresent (mesh : Mesh) : D (meshConfigPresent mesh) :=
  h.andThen (h.diagnose (closed_meshConfig h mesh)) fun _ => h.verdict _

theorem closed_egressEnabled (mesh : Mesh) : D (egressEnabled mesh) := by
  refine h.andThen (h.diagnose (closed_meshConfig h mesh)) fun config => ?_
  split <;> exact h.verdict _

/-! ## Policies -/

theorem closed_trafficPolicy (mesh : Mesh) (source destination : PodRef) :
    D (trafficPolicy mesh source destination) := by
  refine h.andThen (h.diagnose (closed_meshConfig h mesh)) fun config => ?_
  split
  · exact h.verdict _
  · refine h.andThen (h.diagnose (closed_getPod h source)) fun sourcePod => ?_
    refine h.andThen (h.diagnose (closed_getPod h destination)) fun destinationPod => ?_
    refine h.andThen (h.diagnose (closed_controllerVersion h mesh)) fun release => ?_
    refine h.andThen (h.verdict _) fun expected => ?_
    exact h.andThen (h.diagnose (closed_listAs h _ _ _)) fun targets => h.verdict _

theorem closed_trafficSplits (destination : PodRef) : D (trafficSplits destination) := by
  refine h.andThen (h.diagnose (closed_getPod h destination)) fun pod => ?_
  refine h.andThen (h.diagnose (closed_servicesSelecting h pod)) fun services => ?_
  refine h.andThen (h.diagnose (closed_listAs h _ _ _)) fun splits => ?_
  dsimp only
  split <;> exact h.verdict _

theorem closed_ingressBackendExists (destination : PodRef) :
    D (ingressBackendExists destination) := by
  refine h.andThen (h.diagnose (closed_getPod h destination)) fun pod => ?_
  refine h.andThen (h.diagnose (closed_servicesSelecting h pod)) fun services => ?_
  dsimp only
  split
  · exact h.verdict _
  · refine h.andThen (h.diagnose (closed_listAs h _ _ _)) fun policies => ?_
    split <;> exact h.verdict _

theorem closed_missingDefinitions (kinds : List Kind) : L (missingDefinitions kinds) := by
  induction kinds with
  | nil => exact h.done _
  | cons kind rest ih =>
    exact h.bind (h.definition kind.name) fun _ => h.bind ih fun _ => h.done _

theorem closed_definitionsInstalled : D definitionsInstalled := by
  refine h.andThen (h.diagnose (closed_missingDefinitions h policyKinds)) fun missing => ?_
  split <;> exact h.verdict _

/-! ## Sidecars and probes -/

theorem closed_loadConfig (getter : Option Getter) : D (loadConfig getter) := by
  cases getter with
  | none => exact h.verdict _
  | some getter => exact h.diagnose (h.bind (closed_raw h getter) fun _ => h.done _)

theorem closed_hasCluster (destination : PodRef) (getter : Option Getter) :
    D (hasCluster destination getter) := by
  refine h.andThen (closed_loadConfig h getter) fun dump => ?_
  refine h.andThen (h.diagnose (closed_getPod h destination)) fun pod => ?_
  refine h.andThen (h.diagnose (h.bind (closed_servicesSelecting h pod) fun _ => h.done _))
    fun expected => ?_
  split
  · exact h.verdict _
  · split <;> exact h.verdict _

theorem closed_hasListener (mesh : Mesh) (getter : Option Getter) (direction : Direction) :
    D (hasListener mesh getter direction) := by
  refine h.andThen (h.diagnose (closed_controllerVersion h mesh)) fun release => ?_
  refine h.andThen (h.verdict _) fun name => ?_
  refine h.andThen (closed_loadConfig h getter) fun dump => ?_
  split <;> exact h.verdict _

theorem closed_noWarmingSecrets (getter : Option Getter) : D (noWarmingSecrets getter) := by
  refine h.andThen (closed_loadConfig h getter) fun dump => ?_
  split <;> exact h.verdict _

theorem closed_hasDestinationEndpoints (getter : Option Getter) :
    D (hasDestinationEndpoints getter) := by
  refine h.andThen (closed_loadConfig h getter) fun dump => ?_
  dsimp only
  split <;> exact h.verdict _

theorem closed_hasSpecificEndpoint (destination : PodRef) (getter : Option Getter) :
    D (hasSpecificEndpoint destination getter) := by
  refine h.andThen (closed_loadConfig h getter) fun dump => ?_
  refine h.andThen (h.diagnose (closed_getPod h destination)) fun pod => ?_
  split
  · exact h.verdict _
  · split <;> exact h.verdict _

theorem closed_hasOutboundRoute (mesh : Mesh) (destination : PodRef) (getter : Option Getter) :
    D (hasOutboundRoute mesh destination getter) := by
  refine h.andThen (h.diagnose (closed_controllerVersion h mesh)) fun release => ?_
  refine h.andThen (h.verdict _) fun routeConfig => ?_
  refine h.andThen (closed_loadConfig h getter) fun dump => ?_
  refine h.andThen (h.diagnose (closed_getPod h destination)) fun pod => ?_
  refine h.andThen (h.diagnose (closed_servicesSelecting h pod)) fun services => ?_
  dsimp only
  split
  · exact h.verdict _
  · split <;> exact h.verdict _

theorem closed_httpProbe (source : PodRef) (url : String) : D (httpProbe source url) :=
  h.andThen (h.diagnose (closed_getPod h source)) fun _ =>
    h.andThen (h.diagnose (h.request rfl)) fun _ => h.verdict _

end Catalogue

/-! ## The whole catalogue -/

open Catalogue in
/-- **A property that requests on the cluster have and that composition keeps holds of every
check.** -/
theorem Diagnostic.closed_evaluate {L : {α : Type} → Lookup α → Prop}
    {D : {α : Type} → Diagnosis α → Prop} (h : Closed L D) (d : Diagnostic) : D d.evaluate := by
  cases d with
  | sidecarPresent pod => exact closed_sidecarPresent h pod
  | proxyUuidLabelled pod => exact closed_proxyUuidLabelled h pod
  | podReady pod => exact closed_podReady h pod
  | warningEvents ns involved => exact closed_warningEvents h ns involved
  | namespaceMonitored ns mesh => exact closed_namespaceMonitored h ns mesh
  | sidecarInjection pod => exact closed_sidecarInjection h pod
  | sameMesh source destination => exact closed_sameMesh h source destination
  | monitoredNamespacesInjected mesh => exact closed_monitoredNamespacesInjected h mesh
  | deploymentAvailable ns name => exact closed_deploymentAvailable h ns name
  | controllerPodsReady mesh => exact closed_controllerPodsReady h mesh
  | controllerVersionSupported mesh => exact closed_controllerVersionSupported h mesh
  | meshConfigPresent mesh => exact closed_meshConfigPresent h mesh
  | egressEnabled mesh => exact closed_egressEnabled h mesh
  | trafficPolicy mesh source destination => exact closed_trafficPolicy h mesh source destination
  | trafficSplits destination => exact closed_trafficSplits h destination
  | ingressBackendExists destination => exact closed_ingressBackendExists h destination
  | definitionsInstalled => exact closed_definitionsInstalled h
  | hasCluster pod destination getter => exact closed_hasCluster h destination getter
  | hasListener mesh pod getter direction => exact closed_hasListener h mesh getter direction
  | noWarmingSecrets pod getter => exact closed_noWarmingSecrets h getter
  | hasDestinationEndpoints pod getter => exact closed_hasDestinationEndpoints h getter
  | hasSpecificEndpoint pod destination getter =>
    exact closed_hasSpecificEndpoint h destination getter
  | hasOutboundRoute mesh pod destination getter =>
    exact closed_hasOutboundRoute h mesh destination getter
  | httpProbe source url => exact closed_httpProbe h source url

/-! ## Requests -/

theorem asksOnly_definitionMissing (name : String) :
    (Catalogue.definitionMissing name).run.AsksOnly (·.isOnCluster) := by
  refine .andThen (.request (by rfl)) fun result => ?_
  cases result <;> trivial

theorem closed_asksOnly :
    Catalogue.Closed (·.run.AsksOnly (·.isOnCluster)) (·.run.AsksOnly (·.isOnCluster)) where
  request hr := .request hr
  definition := asksOnly_definitionMissing
  done _ := trivial
  bind hx hf := .bind hx hf
  within hx context := .within hx context
  diagnose hx := .diagnose hx
  verdict _ := trivial
  andThen hx hf := .bind hx hf

/-- **Every check of the catalogue asks the cluster only.** -/
theorem Diagnostic.asksOnly_isOnCluster (d : Diagnostic) :
    d.evaluate.run.AsksOnly (·.isOnCluster) :=
  d.closed_evaluate closed_asksOnly

end MeshDoctor
