import MeshDoctor.Proofs.Catalogue.Scope
import MeshDoctor.Proofs.Catalogue.TrafficPolicy
import MeshDoctor.Proofs.Inquiry.Order

/-!
# Catalogue — verdicts and the order of lists

* `SameStatus`: two outcomes are of one kind, whatever they say.
* `World.HasOneVersion`: the pods of the controller do not disagree on its release line.
* One lemma for each look-up and each check: what it lists in another order, it judges alike.
* **`Diagnostic.alike_evaluate`**: so it is for the whole catalogue.
-/

namespace MeshDoctor

open Envoy World

/-- The outcomes are of one kind. -/
def SameStatus (o o' : Outcome) : Prop := o.status = o'.status

theorem SameStatus.refl (o : Outcome) : SameStatus o o := rfl

theorem Alike.status_ofResult {x y : Except Problem Outcome} (h : Alike SameStatus x y) :
    (Outcome.ofResult x).status = (Outcome.ofResult y).status := by
  cases h with
  | ok hsame => exact hsame
  | error problem problem' => rfl

/-- All pods of the controller whose release line can be told have the same one. -/
def World.HasOneVersion (w : World) (mesh : Mesh) : Prop :=
  ∀ pods, w.finds mesh.controllerPods = .ok pods → ∀ pod ∈ pods, ∀ pod' ∈ pods,
    ∀ release release', ReleaseLine.ofPod? pod = some release →
      ReleaseLine.ofPod? pod' = some release' → release = release'

variable {w w' : World}

/-! ## Look-ups -/

namespace World.SameUpToOrder

section Lookups

variable {α : Type} (h : w.SameUpToOrder w')
include h

theorem finds_getAs (d : Json.Decoder α) (kind : Kind) (ns : Option String) (name : String) :
    w'.finds (getAs d kind ns name) = w.finds (getAs d kind ns name) :=
  h.finds_eq (by simp)

theorem finds_getPod (ref : PodRef) : w'.finds (getPod ref) = w.finds (getPod ref) :=
  h.finds_eq (by simp)

theorem finds_config (mesh : Mesh) : w'.finds mesh.config = w.finds mesh.config :=
  h.finds_eq (by simp)

theorem finds_getNamespace (name : String) :
    w'.finds (getNamespace name) = w.finds (getNamespace name) := by
  rw [getNamespace, finds_within, finds_within, h.finds_getAs]

theorem finds_getDeployment (ns name : String) :
    w'.finds (getDeployment ns name) = w.finds (getDeployment ns name) := by
  rw [getDeployment, finds_within, finds_within, h.finds_getAs]

theorem finds_definitionMissing (name : String) :
    w'.finds (Catalogue.definitionMissing name) = w.finds (Catalogue.definitionMissing name) :=
  h.finds_eq (by simp [Catalogue.asks_definitionMissing])

theorem finds_missingDefinitions (kinds : List Kind) :
    w'.finds (Catalogue.missingDefinitions kinds) =
      w.finds (Catalogue.missingDefinitions kinds) := by
  induction kinds with
  | nil => rfl
  | cons kind rest ih =>
    refine finds_bind_congr (h.finds_definitionMissing kind.name) fun missing _ => ?_
    exact finds_bind_congr ih fun others _ => rfl

/-- The answer of a sidecar is no list. -/
theorem finds_loadConfig (getter : Option Getter) :
    w'.finds (Catalogue.loadConfig getter) = w.finds (Catalogue.loadConfig getter) := by
  rcases getter with _ | (⟨pod, answer⟩ | pod)
  · rfl
  · exact finds_liftM_congr (finds_bind_congr rfl fun _ _ => rfl)
  · have hraw : w'.finds (Getter.asking pod).raw = w.finds (Getter.asking pod).raw :=
      h.eq_of_ne fun _ _ hlist => nomatch hlist
    exact finds_liftM_congr (finds_bind_congr hraw fun _ _ => rfl)

theorem alike_listAs (d : Json.Decoder α) (kind : Kind) (q : ListQuery) :
    Alike List.Perm (w.finds (listAs d kind q)) (w'.finds (listAs d kind q)) := by
  rw [MeshDoctor.finds_listAs, MeshDoctor.finds_listAs]
  exact (h.alike_list kind.name q).bind fun vs vs' hvs => alike_mapM_of_perm hvs _

theorem alike_servicesSelecting (pod : Pod) :
    Alike List.Perm (w.finds (servicesSelecting pod)) (w'.finds (servicesSelecting pod)) :=
  alike_bind (h.alike_listAs _ _ _) fun _ _ hservices => .ok (hservices.filter _)

theorem alike_controllerPods (mesh : Mesh) :
    Alike List.Perm (w.finds mesh.controllerPods) (w'.finds mesh.controllerPods) :=
  h.alike_listAs _ _ _

/-- Pods that agree on the release line tell it in every order. -/
theorem alike_controllerVersion {mesh : Mesh} (hone : w.HasOneVersion mesh) :
    Alike Eq (w.finds mesh.controllerVersion) (w'.finds mesh.controllerVersion) := by
  rw [Mesh.controllerVersion, finds_bind, finds_bind]
  refine (h.alike_controllerPods mesh).bind_of_ok fun pods pods' hfound hperm => ?_
  have hsame : mesh.versionAmong pods' = mesh.versionAmong pods := by
    rw [Mesh.versionAmong, Mesh.versionAmong, findSome?_eq_of_perm hperm (hone pods hfound)]
  change Alike Eq (mesh.versionAmong pods) (mesh.versionAmong pods')
  rw [hsame]
  exact .refl (fun _ => rfl) _

end Lookups

end World.SameUpToOrder

namespace Catalogue

theorem alike_done (result : Except Problem Outcome) :
    Alike SameStatus (w.finds (ExceptT.mk (.done result))) (w'.finds (ExceptT.mk (.done result))) :=
  .refl SameStatus.refl result

section Checks

variable (h : w.SameUpToOrder w')
include h

/-! ## Pods, namespaces and events -/

theorem alike_sidecarPresent (ref : PodRef) :
    Alike SameStatus (w.finds (sidecarPresent ref)) (w'.finds (sidecarPresent ref)) := by
  refine alike_bind_of_eq (finds_liftM_congr (h.finds_getPod ref)) fun pod => ?_
  split <;> exact alike_done _

theorem alike_proxyUuidLabelled (ref : PodRef) :
    Alike SameStatus (w.finds (proxyUuidLabelled ref)) (w'.finds (proxyUuidLabelled ref)) := by
  refine alike_bind_of_eq (finds_liftM_congr (h.finds_getPod ref)) fun pod => ?_
  split <;> exact alike_done _

theorem alike_podReady (ref : PodRef) :
    Alike SameStatus (w.finds (podReady ref)) (w'.finds (podReady ref)) := by
  refine alike_bind_of_eq (finds_liftM_congr (h.finds_getPod ref)) fun pod => ?_
  split <;> exact alike_done _

/-- There are warnings in every order or in none. -/
theorem alike_warningEvents (ns : String) (involved : Option String) :
    Alike SameStatus (w.finds (warningEvents ns involved))
      (w'.finds (warningEvents ns involved)) := by
  refine alike_bind (alike_liftM (h.alike_listAs _ _ _)) fun events events' hevents => ?_
  rw [hevents.isEmpty_eq]
  split <;> exact .ok rfl

theorem alike_namespaceMonitored (ns mesh : String) :
    Alike SameStatus (w.finds (namespaceMonitored ns mesh))
      (w'.finds (namespaceMonitored ns mesh)) := by
  refine alike_bind_of_eq (finds_liftM_congr (h.finds_getNamespace ns)) fun found => ?_
  split <;> exact alike_done _

theorem alike_sidecarInjection (ref : PodRef) :
    Alike SameStatus (w.finds (sidecarInjection ref)) (w'.finds (sidecarInjection ref)) := by
  refine alike_bind_of_eq (finds_liftM_congr (h.finds_getPod ref)) fun pod => ?_
  split
  · split <;> exact alike_done _
  · refine alike_bind_of_eq (finds_liftM_congr (h.finds_getNamespace ref.namespace)) fun ns => ?_
    split <;> exact alike_done _

theorem alike_sameMesh (source destination : String) :
    Alike SameStatus (w.finds (sameMesh source destination))
      (w'.finds (sameMesh source destination)) := by
  refine alike_bind_of_eq (finds_liftM_congr (h.finds_getNamespace source)) fun sourceNs => ?_
  refine alike_bind_of_eq (finds_liftM_congr (h.finds_getNamespace destination))
    fun destinationNs => ?_
  dsimp only
  split <;> exact alike_done _

/-- A namespace without sidecars is found wherever it stands. -/
theorem alike_monitoredNamespacesInjected (mesh : Mesh) :
    Alike SameStatus (w.finds (monitoredNamespacesInjected mesh))
      (w'.finds (monitoredNamespacesInjected mesh)) := by
  refine alike_bind (alike_liftM (h.alike_listAs _ _ _)) fun monitored monitored' hperm => ?_
  have hdisabled := ((hperm.filter fun ns => !ns.injection?.any isEnabled).filterMap
    (·.metadata.name)).isEmpty_eq
  dsimp only
  rw [hperm.isEmpty_eq, hdisabled]
  split
  · exact alike_done _
  · split
    · exact .ok rfl
    · exact .error _ _

/-! ## The control plane -/

theorem alike_deploymentAvailable (ns name : String) :
    Alike SameStatus (w.finds (deploymentAvailable ns name))
      (w'.finds (deploymentAvailable ns name)) := by
  refine alike_bind_of_eq (finds_liftM_congr (h.finds_getDeployment ns name)) fun deployment => ?_
  dsimp only
  split <;> exact alike_done _

/-- An unready pod is found wherever it stands, if perhaps not the same one first. -/
theorem alike_controllerPodsReady (mesh : Mesh) :
    Alike SameStatus (w.finds (controllerPodsReady mesh))
      (w'.finds (controllerPodsReady mesh)) := by
  refine alike_bind (alike_liftM (h.alike_controllerPods mesh)) fun pods pods' hpods => ?_
  rw [hpods.isEmpty_eq]
  split
  · exact alike_done _
  · obtain ⟨hnone, hnone'⟩ | ⟨found, found', hfound, hfound'⟩ :
        (firstUnready? pods = none ∧ firstUnready? pods' = none) ∨
          ∃ found found', firstUnready? pods = some found ∧ firstUnready? pods' = some found' :=
      findSome?_found_of_perm hpods _
    · rw [hnone, hnone']
      exact .ok rfl
    · rw [hfound, hfound']
      exact .error _ _

theorem alike_meshConfigPresent (mesh : Mesh) :
    Alike SameStatus (w.finds (meshConfigPresent mesh)) (w'.finds (meshConfigPresent mesh)) :=
  alike_bind_of_eq (finds_liftM_congr (h.finds_config mesh)) fun _ => alike_done _

theorem alike_egressEnabled (mesh : Mesh) :
    Alike SameStatus (w.finds (egressEnabled mesh)) (w'.finds (egressEnabled mesh)) := by
  refine alike_bind_of_eq (finds_liftM_congr (h.finds_config mesh)) fun config => ?_
  split <;> exact alike_done _

theorem alike_controllerVersionSupported {mesh : Mesh} (hone : w.HasOneVersion mesh) :
    Alike SameStatus (w.finds (controllerVersionSupported mesh))
      (w'.finds (controllerVersionSupported mesh)) := by
  refine alike_bind (alike_liftM (h.alike_controllerVersion hone)) ?_
  rintro release _ rfl
  split <;> exact alike_done _

/-! ## Policies -/

omit h in
theorem alike_targetVerdict {matching matching' : List TrafficTarget}
    (hperm : matching.Perm matching') (expected : String) (source destination : Account) :
    Alike SameStatus (targetVerdict matching expected source destination)
      (targetVerdict matching' expected source destination) := by
  by_cases hexpected : ∃ t ∈ matching, IsLastComponent expected t.apiVersion
  · have hexpected' : ∃ t ∈ matching', IsLastComponent expected t.apiVersion := by
      simpa only [hperm.mem_iff] using hexpected
    obtain ⟨message, hpass⟩ : ∃ message,
        targetVerdict matching expected source destination = .ok (.pass message) :=
      targetVerdict_pass hexpected
    obtain ⟨message', hpass'⟩ : ∃ message,
        targetVerdict matching' expected source destination = .ok (.pass message) :=
      targetVerdict_pass hexpected'
    rw [hpass, hpass']
    exact .ok rfl
  · have hrefused : ∀ t ∈ matching, ¬ IsLastComponent expected t.apiVersion :=
      fun t ht hlast => hexpected ⟨t, ht, hlast⟩
    have hrefused' : ∀ t ∈ matching', ¬ IsLastComponent expected t.apiVersion :=
      fun t ht => hrefused t (hperm.mem_iff.mpr ht)
    obtain ⟨problem, hproblem⟩ : ∃ problem,
        targetVerdict matching expected source destination = .error problem :=
      targetVerdict_refused hrefused
    obtain ⟨problem', hproblem'⟩ : ∃ problem,
        targetVerdict matching' expected source destination = .error problem :=
      targetVerdict_refused hrefused'
    rw [hproblem, hproblem']
    exact .error _ _

theorem alike_trafficPolicy {mesh : Mesh} (hone : w.HasOneVersion mesh)
    (source destination : PodRef) :
    Alike SameStatus (w.finds (trafficPolicy mesh source destination))
      (w'.finds (trafficPolicy mesh source destination)) := by
  refine alike_bind_of_eq (finds_liftM_congr (h.finds_config mesh)) fun config => ?_
  split
  · exact alike_done _
  · refine alike_bind_of_eq (finds_liftM_congr (h.finds_getPod source)) fun sourcePod => ?_
    refine alike_bind_of_eq (finds_liftM_congr (h.finds_getPod destination))
      fun destinationPod => ?_
    refine alike_bind (alike_liftM (h.alike_controllerVersion hone)) ?_
    rintro release _ rfl
    refine alike_bind_of_eq rfl fun expected => ?_
    refine alike_bind (alike_liftM (h.alike_listAs _ _ _)) fun targets targets' htargets => ?_
    exact alike_targetVerdict (htargets.filter _) _ _ _

theorem alike_trafficSplits (destination : PodRef) :
    Alike SameStatus (w.finds (trafficSplits destination))
      (w'.finds (trafficSplits destination)) := by
  refine alike_bind_of_eq (finds_liftM_congr (h.finds_getPod destination)) fun pod => ?_
  refine alike_bind (alike_liftM (h.alike_servicesSelecting pod))
    fun services services' hservices => ?_
  refine alike_bind (alike_liftM (h.alike_listAs _ _ _)) fun splits splits' hsplits => ?_
  have hnames : (serviceNames services).Perm (serviceNames services') := hservices.filterMap _
  have hlines := ((hsplits.filter fun split => (serviceNames services).any split.involves).map
    (·.describe)).isEmpty_eq
  dsimp only
  simp only [← hnames.any_eq]
  rw [hlines]
  split <;> exact .ok rfl

omit h in
theorem backendAmong?_of_perm {names names' : List String} (hperm : names.Perm names') :
    backendAmong? names' = backendAmong? names := by
  funext policy
  simp only [backendAmong?, hperm.contains_eq]

theorem alike_ingressBackendExists (destination : PodRef) :
    Alike SameStatus (w.finds (ingressBackendExists destination))
      (w'.finds (ingressBackendExists destination)) := by
  refine alike_bind_of_eq (finds_liftM_congr (h.finds_getPod destination)) fun pod => ?_
  refine alike_bind (alike_liftM (h.alike_servicesSelecting pod))
    fun services services' hservices => ?_
  have hnames : (serviceNames services).Perm (serviceNames services') := hservices.filterMap _
  dsimp only
  rw [hnames.isEmpty_eq]
  split
  · exact alike_done _
  · refine alike_bind (alike_liftM (h.alike_listAs _ _ _)) fun policies policies' hpolicies => ?_
    rw [backendAmong?_of_perm hnames]
    obtain ⟨hnone, hnone'⟩ | ⟨found, found', hfound, hfound'⟩ :=
      findSome?_found_of_perm hpolicies (backendAmong? (serviceNames services))
    · rw [hnone, hnone']
      exact .error _ _
    · rw [hfound, hfound']
      exact .ok rfl

theorem alike_definitionsInstalled :
    Alike SameStatus (w.finds definitionsInstalled) (w'.finds definitionsInstalled) := by
  refine alike_bind_of_eq (finds_liftM_congr (h.finds_missingDefinitions policyKinds))
    fun missing => ?_
  split <;> exact alike_done _

/-! ## Sidecars and probes -/

theorem alike_noWarmingSecrets (getter : Option Getter) :
    Alike SameStatus (w.finds (noWarmingSecrets getter)) (w'.finds (noWarmingSecrets getter)) := by
  refine alike_bind_of_eq (h.finds_loadConfig getter) fun dump => ?_
  split <;> exact alike_done _

theorem alike_hasDestinationEndpoints (getter : Option Getter) :
    Alike SameStatus (w.finds (hasDestinationEndpoints getter))
      (w'.finds (hasDestinationEndpoints getter)) := by
  refine alike_bind_of_eq (h.finds_loadConfig getter) fun dump => ?_
  dsimp only
  split <;> exact alike_done _

theorem alike_hasListener {mesh : Mesh} (hone : w.HasOneVersion mesh) (getter : Option Getter)
    (direction : Direction) :
    Alike SameStatus (w.finds (hasListener mesh getter direction))
      (w'.finds (hasListener mesh getter direction)) := by
  refine alike_bind (alike_liftM (h.alike_controllerVersion hone)) ?_
  rintro release _ rfl
  refine alike_bind_of_eq rfl fun name => ?_
  refine alike_bind_of_eq (h.finds_loadConfig getter) fun dump => ?_
  split <;> exact alike_done _

theorem alike_hasCluster (destination : PodRef) (getter : Option Getter) :
    Alike SameStatus (w.finds (hasCluster destination getter))
      (w'.finds (hasCluster destination getter)) := by
  refine alike_bind_of_eq (h.finds_loadConfig getter) fun dump => ?_
  refine alike_bind_of_eq (finds_liftM_congr (h.finds_getPod destination)) fun pod => ?_
  have hnames : Alike List.Perm (w.finds (serviceNamesFor pod)) (w'.finds (serviceNamesFor pod)) :=
    alike_bind (h.alike_servicesSelecting pod) fun _ _ hservices =>
      .ok ((hservices.filterMap _).map _)
  refine alike_bind (alike_liftM hnames) fun expected expected' hexpected => ?_
  rw [hexpected.isEmpty_eq, hexpected.all_eq]
  split
  · exact .error _ _
  · split
    · exact .ok rfl
    · exact .error _ _

theorem alike_hasSpecificEndpoint (destination : PodRef) (getter : Option Getter) :
    Alike SameStatus (w.finds (hasSpecificEndpoint destination getter))
      (w'.finds (hasSpecificEndpoint destination getter)) := by
  refine alike_bind_of_eq (h.finds_loadConfig getter) fun dump => ?_
  refine alike_bind_of_eq (finds_liftM_congr (h.finds_getPod destination)) fun pod => ?_
  split
  · exact alike_done _
  · split <;> exact alike_done _

omit h in
theorem routesTo_of_perm {domains domains' : List String} (hperm : domains.Perm domains') :
    (routesTo · domains') = (routesTo · domains) := by
  funext config
  simp only [routesTo, hperm.any_eq]

theorem alike_hasOutboundRoute {mesh : Mesh} (hone : w.HasOneVersion mesh)
    (destination : PodRef) (getter : Option Getter) :
    Alike SameStatus (w.finds (hasOutboundRoute mesh destination getter))
      (w'.finds (hasOutboundRoute mesh destination getter)) := by
  refine alike_bind (alike_liftM (h.alike_controllerVersion hone)) ?_
  rintro release _ rfl
  refine alike_bind_of_eq rfl fun routeConfig => ?_
  refine alike_bind_of_eq (h.finds_loadConfig getter) fun dump => ?_
  refine alike_bind_of_eq (finds_liftM_congr (h.finds_getPod destination)) fun pod => ?_
  refine alike_bind (alike_liftM (h.alike_servicesSelecting pod))
    fun services services' hservices => ?_
  have hdomains := (hservices.filterMap (·.metadata.name)).map
    fun name => name ++ "." ++ destination.namespace
  dsimp only [serviceNames]
  rw [hdomains.isEmpty_eq, routesTo_of_perm hdomains]
  split
  · exact .error _ _
  · split
    · exact .ok rfl
    · exact .error _ _

theorem alike_httpProbe (source : PodRef) (url : String) :
    Alike SameStatus (w.finds (httpProbe source url)) (w'.finds (httpProbe source url)) := by
  refine alike_bind_of_eq (finds_liftM_congr (h.finds_getPod source)) fun pod => ?_
  have hprinted : w'.finds (request (.exec source pod.appContainer? (probeCommand url))) =
      w.finds (request (.exec source pod.appContainer? (probeCommand url))) :=
    h.finds_eq (by simp)
  exact alike_bind_of_eq (finds_liftM_congr hprinted) fun _ => alike_done _

end Checks

end Catalogue

/-! ## The whole catalogue -/

/-- The mesh whose release line a check depends on. -/
def Diagnostic.versionOf? : Diagnostic → Option Mesh
  | controllerVersionSupported mesh => some mesh
  | trafficPolicy mesh _ _ => some mesh
  | hasListener mesh _ _ _ => some mesh
  | hasOutboundRoute mesh _ _ _ => some mesh
  | _ => none

open Catalogue in
/-- **Every check of the catalogue judges alike what is listed in another order.** -/
theorem Diagnostic.alike_evaluate (h : w.SameUpToOrder w') {d : Diagnostic}
    (hone : ∀ mesh ∈ d.versionOf?, w.HasOneVersion mesh) :
    Alike SameStatus (w.finds d.evaluate) (w'.finds d.evaluate) := by
  cases d with
  | sidecarPresent pod => exact alike_sidecarPresent h pod
  | proxyUuidLabelled pod => exact alike_proxyUuidLabelled h pod
  | podReady pod => exact alike_podReady h pod
  | warningEvents ns involved => exact alike_warningEvents h ns involved
  | namespaceMonitored ns mesh => exact alike_namespaceMonitored h ns mesh
  | sidecarInjection pod => exact alike_sidecarInjection h pod
  | sameMesh source destination => exact alike_sameMesh h source destination
  | monitoredNamespacesInjected mesh => exact alike_monitoredNamespacesInjected h mesh
  | deploymentAvailable ns name => exact alike_deploymentAvailable h ns name
  | controllerPodsReady mesh => exact alike_controllerPodsReady h mesh
  | controllerVersionSupported mesh =>
    exact alike_controllerVersionSupported h (hone mesh rfl)
  | meshConfigPresent mesh => exact alike_meshConfigPresent h mesh
  | egressEnabled mesh => exact alike_egressEnabled h mesh
  | trafficPolicy mesh source destination =>
    exact alike_trafficPolicy h (hone mesh rfl) source destination
  | trafficSplits destination => exact alike_trafficSplits h destination
  | ingressBackendExists destination => exact alike_ingressBackendExists h destination
  | definitionsInstalled => exact alike_definitionsInstalled h
  | hasCluster pod destination getter => exact alike_hasCluster h destination getter
  | hasListener mesh pod getter direction =>
    exact alike_hasListener h (hone mesh rfl) getter direction
  | noWarmingSecrets pod getter => exact alike_noWarmingSecrets h getter
  | hasDestinationEndpoints pod getter => exact alike_hasDestinationEndpoints h getter
  | hasSpecificEndpoint pod destination getter =>
    exact alike_hasSpecificEndpoint h destination getter
  | hasOutboundRoute mesh pod destination getter =>
    exact alike_hasOutboundRoute h (hone mesh rfl) destination getter
  | httpProbe source url => exact alike_httpProbe h source url

end MeshDoctor
