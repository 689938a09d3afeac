import MeshDoctor.Proofs.Catalogue.Outcomes
import MeshDoctor.Proofs.Version

/-!
# Catalogue — checks that read the same facts

Some checks are about the same facts, but read them in their own way. Here their verdicts are
compared in one world.

* `sameMesh_of_namespaceMonitored`: namespaces that one mesh monitors are in the same mesh.
* `hasDestinationEndpoints_of_hasSpecificEndpoint`: the endpoint of a pod is an endpoint.
* `World.ReadsServices`: unless something that it needs cannot be read, a verdict tells whether any
  services select a pod; so it is for the checks of a cluster and of a route.
* **`ReadsServices.lacksServices_iff`**: such verdicts tell the same.
* **`failedRequest_of_lookup_iff`**: a check that makes one request fails on a request exactly when
  that one fails.
-/

namespace MeshDoctor

open Envoy

namespace Catalogue

variable {w : World}

/-! ## Namespaces -/

theorem namespaceMonitored_eq_pass {ns mesh : String} :
    (w.verdict (namespaceMonitored ns mesh)).status = .pass ↔
      ∃ found, w.finds (getNamespace ns) = .ok found ∧ found.monitoredBy? = some mesh := by
  rw [namespaceMonitored]
  cases hns : w.finds (getNamespace ns) with
  | error e => simp [World.verdict_lookup_of_error hns, Outcome.status]
  | ok found =>
    rw [World.verdict_lookup_of_ok hns]
    by_cases hmesh : found.monitoredBy? = some mesh
    · simp [hmesh, Outcome.status]
    · simp [hmesh, Outcome.status]

/-- Namespaces that one mesh monitors are in the same mesh. The mesh needs a name: a namespace
without a mesh is not in the same mesh as another. -/
theorem sameMesh_of_namespaceMonitored {source destination mesh : String} (hmesh : mesh ≠ "")
    (hsource : (w.verdict (namespaceMonitored source mesh)).status = .pass)
    (hdestination : (w.verdict (namespaceMonitored destination mesh)).status = .pass) :
    (w.verdict (sameMesh source destination)).status = .pass := by
  obtain ⟨sourceNs, hsource, hmonitored⟩ := namespaceMonitored_eq_pass.mp hsource
  obtain ⟨destinationNs, hdestination, hmonitored'⟩ := namespaceMonitored_eq_pass.mp hdestination
  rw [sameMesh, World.verdict_lookup_of_ok hsource, World.verdict_lookup_of_ok hdestination]
  simp [hmonitored, hmonitored', hmesh, Outcome.passWith, Outcome.status]

/-! ## Endpoints -/

theorem hasSpecificEndpoint_eq_pass {destination : PodRef} {getter : Option Getter}
    (h : (w.verdict (hasSpecificEndpoint destination getter)).status = .pass) :
    ∃ dump, w.finds (loadConfig getter) = .ok dump ∧ dump.lbEndpoints ≠ [] := by
  rw [hasSpecificEndpoint] at h
  cases hdump : w.finds (loadConfig getter) with
  | error p =>
    rw [World.verdict_bind_of_error hdump] at h
    cases h
  | ok dump =>
    refine ⟨dump, rfl, ?_⟩
    rintro hempty
    rw [World.verdict_bind_of_ok hdump] at h
    cases hpod : w.finds (getPod destination) with
    | error e =>
      rw [World.verdict_lookup_of_error hpod] at h
      cases h
    | ok pod =>
      rw [World.verdict_lookup_of_ok hpod] at h
      cases hip : pod.ip? with
      | none => simp [hip, Outcome.status] at h
      | some ip => simp [hip, hempty, Outcome.status] at h

/-- The endpoint of a pod is an endpoint. -/
theorem hasDestinationEndpoints_of_hasSpecificEndpoint {destination : PodRef}
    {getter : Option Getter}
    (h : (w.verdict (hasSpecificEndpoint destination getter)).status = .pass) :
    (w.verdict (hasDestinationEndpoints getter)).status = .pass := by
  obtain ⟨dump, hdump, hne⟩ := hasSpecificEndpoint_eq_pass h
  rw [hasDestinationEndpoints, World.verdict_bind_of_ok hdump]
  simp [hne, Outcome.passWith, Outcome.status]

end Catalogue

/-! ## Services -/

/-- Does the problem say that something a check needs cannot be read? -/
def Problem.isObstacle : Problem → Bool
  | noConfigGetter | unrecognizedVersion _ | failedRequest _ => true
  | _ => false

namespace Outcome

/-- Was something that the check needs not to be read? -/
def isObstructed (o : Outcome) : Bool := o.problem?.any (·.isObstacle)

/-- No services select the pod, says the outcome. -/
def LacksServices (o : Outcome) : Prop := ∃ pod, o.problem? = some (.noServicesForPod pod)

variable {o : Outcome}

theorem isObstructed_of_pass (h : o.status = .pass) : o.isObstructed = false := by
  cases o with
  | pass message => rfl
  | _ => cases h

theorem isObstructed_of_problem {p : Problem} (h : o.problem? = some p)
    (hp : p.isObstacle = false) : o.isObstructed = false := by
  rw [isObstructed, h]
  exact hp

theorem LacksServices.isObstructed (h : o.LacksServices) : o.isObstructed = false := by
  obtain ⟨pod, hproblem⟩ := h
  exact isObstructed_of_problem hproblem rfl

theorem not_lacksServices_of_pass (h : o.status = .pass) : ¬ o.LacksServices := by
  rintro ⟨pod, hproblem⟩
  cases o with
  | pass message => cases hproblem
  | _ => cases h

theorem not_lacksServices_of_problem {p : Problem} (h : o.problem? = some p)
    (hp : ∀ pod, p ≠ .noServicesForPod pod) : ¬ o.LacksServices := by
  rintro ⟨pod, hproblem⟩
  exact hp pod (Option.some.inj (h.symm.trans hproblem))

end Outcome

namespace World

variable {α : Type} {w : World} {destination : PodRef}

/-- In the world, services of these names select the pod. -/
def FindsServices (w : World) (destination : PodRef) (names : List String) : Prop :=
  ∃ pod services, w.finds (getPod destination) = .ok pod ∧
    w.finds (servicesSelecting pod) = .ok services ∧ serviceNames services = names

theorem FindsServices.unique {names names' : List String} (h : w.FindsServices destination names)
    (h' : w.FindsServices destination names') : names = names' := by
  obtain ⟨pod, services, hpod, hservices, rfl⟩ := h
  obtain ⟨pod', services', hpod', hservices', rfl⟩ := h'
  obtain rfl : pod = pod' := Except.ok.inj (hpod.symm.trans hpod')
  obtain rfl : services = services' := Except.ok.inj (hservices.symm.trans hservices')
  rfl

/-- Unless it is obstructed, the outcome tells whether any services select the pod. -/
def ReadsServices (w : World) (destination : PodRef) (o : Outcome) : Prop :=
  o.isObstructed = false →
    ∃ names, w.FindsServices destination names ∧ (o.LacksServices ↔ names = [])

namespace ReadsServices

/-- **Two outcomes that are not obstructed tell the same.** -/
theorem lacksServices_iff {o o' : Outcome} (h : w.ReadsServices destination o)
    (h' : w.ReadsServices destination o') (ho : o.isObstructed = false)
    (ho' : o'.isObstructed = false) : o.LacksServices ↔ o'.LacksServices := by
  obtain ⟨names, hnames, hlacks⟩ := h ho
  obtain ⟨names', hnames', hlacks'⟩ := h' ho'
  rw [hlacks, hlacks', hnames.unique hnames']

theorem of_obstacle {p : Problem} (hp : p.isObstacle) : w.ReadsServices destination (.fail p) := by
  intro ho
  have hobstructed : (Outcome.fail p).isObstructed = true := hp
  rw [hobstructed] at ho
  cases ho

theorem bind {x : Diagnosis α} {f : α → Diagnosis Outcome}
    (hx : ∀ p, w.finds x = .error p → p.isObstacle)
    (hf : ∀ a, w.finds x = .ok a → w.ReadsServices destination (w.verdict (f a))) :
    w.ReadsServices destination (w.verdict (x >>= f)) :=
  verdict_bind_cases (fun p hp => of_obstacle (hx p hp)) hf

theorem lookup {x : Lookup α} {f : α → Diagnosis Outcome}
    (hf : ∀ a, w.finds x = .ok a → w.ReadsServices destination (w.verdict (f a))) :
    w.ReadsServices destination (w.verdict (liftM x >>= f)) :=
  verdict_lookup_cases (fun _ _ => of_obstacle rfl) hf

end ReadsServices

end World

namespace Catalogue

variable {w : World} {destination : PodRef} {getter : Option Getter}

/-- A getter fails with its own failure only. -/
theorem exists_failure_of_loadConfig {g : Getter} {p : Problem}
    (h : w.finds (loadConfig (some g)) = .error p) : ∃ e, p = .failedRequest e := by
  rw [loadConfig, World.finds_diagnose] at h
  cases hconfig : w.finds g.config with
  | ok dump =>
    rw [hconfig] at h
    cases h
  | error e =>
    rw [hconfig] at h
    exact ⟨e, (Except.error.inj h).symm⟩

theorem isObstacle_of_loadConfig {p : Problem} (h : w.finds (loadConfig getter) = .error p) :
    p.isObstacle := by
  cases getter with
  | none =>
    cases h
    rfl
  | some g =>
    obtain ⟨e, rfl⟩ := exists_failure_of_loadConfig h
    rfl

theorem isObstacle_of_routeConfigName {release : String} {direction : Direction} {p : Problem}
    (h : routeConfigName release direction = .error p) : p.isObstacle := by
  obtain ⟨-, rfl⟩ := (isVersionGate_routeConfigName direction).error_iff.mp h
  rfl

/-- A check that gives up without services, and only then, tells whether there are any. -/
theorem lacksServices_ite {names : List String} {text : String} {x : Diagnosis Outcome}
    (hx : ¬ (w.verdict x).LacksServices) :
    (w.verdict (if names.isEmpty then throw (.noServicesForPod text) else x)).LacksServices ↔
      names = [] := by
  cases names with
  | nil => simp [Outcome.LacksServices, Outcome.problem?]
  | cons name names => simpa using hx

theorem readsServices_hasCluster :
    w.ReadsServices destination (w.verdict (hasCluster destination getter)) := by
  refine .bind (fun p hp => isObstacle_of_loadConfig hp) fun dump _ => ?_
  refine .lookup fun pod hpod => .lookup fun expected hexpected _ => ?_
  rw [serviceNamesFor, World.finds_bind, bind_eq_ok] at hexpected
  obtain ⟨services, hservices, hnames⟩ := hexpected
  refine ⟨serviceNames services, ⟨pod, services, hpod, hservices, rfl⟩, ?_⟩
  rw [lacksServices_ite]
  · rw [← Except.ok.inj hnames, List.map_eq_nil_iff]
  · split <;> simp [Outcome.LacksServices, Outcome.problem?]

theorem readsServices_hasOutboundRoute {mesh : Mesh} :
    w.ReadsServices destination (w.verdict (hasOutboundRoute mesh destination getter)) := by
  refine .lookup fun release _ => ?_
  refine .bind (fun p hp => ?_) fun routeConfig _ => ?_
  · rw [World.finds_diagnosis] at hp
    exact isObstacle_of_routeConfigName hp
  refine .bind (fun p hp => isObstacle_of_loadConfig hp) fun dump _ => ?_
  refine .lookup fun pod hpod => .lookup fun services hservices _ => ?_
  refine ⟨serviceNames services, ⟨pod, services, hpod, hservices, rfl⟩, ?_⟩
  dsimp only
  rw [lacksServices_ite]
  · rw [List.map_eq_nil_iff]
  · split <;> simp [Outcome.LacksServices, Outcome.problem?]

end Catalogue

/-! ## Failed requests -/

/-- A request failed, says the outcome. -/
def Outcome.IsFailedRequest (o : Outcome) : Prop := ∃ e, o.problem? = some (.failedRequest e)

/-- **A check that makes one request fails on a request exactly when that one fails.** -/
theorem World.failedRequest_of_lookup_iff {α : Type} {w : World} {x : Lookup α}
    {f : α → Diagnosis Outcome} (hf : ∀ a, ¬ (w.verdict (f a)).IsFailedRequest) :
    (w.verdict (liftM x >>= f)).IsFailedRequest ↔ ∃ e, w.finds x = .error e := by
  cases h : w.finds x with
  | ok a =>
    rw [verdict_lookup_of_ok h]
    simpa using hf a
  | error e =>
    rw [verdict_lookup_of_error h]
    simp [Outcome.IsFailedRequest, Outcome.problem?]

namespace Catalogue

variable {w : World} {ref : PodRef}

theorem failedRequest_sidecarPresent_iff :
    (w.verdict (sidecarPresent ref)).IsFailedRequest ↔ ∃ e, w.finds (getPod ref) = .error e := by
  refine World.failedRequest_of_lookup_iff fun pod => ?_
  split <;> simp [Outcome.IsFailedRequest, Outcome.problem?]

theorem failedRequest_proxyUuidLabelled_iff :
    (w.verdict (proxyUuidLabelled ref)).IsFailedRequest ↔
      ∃ e, w.finds (getPod ref) = .error e := by
  refine World.failedRequest_of_lookup_iff fun pod => ?_
  split <;> simp [Outcome.IsFailedRequest, Outcome.problem?]

theorem failedRequest_podReady_iff :
    (w.verdict (podReady ref)).IsFailedRequest ↔ ∃ e, w.finds (getPod ref) = .error e := by
  refine World.failedRequest_of_lookup_iff fun pod => ?_
  split <;> simp [Outcome.IsFailedRequest, Outcome.problem?]

end Catalogue

end MeshDoctor
