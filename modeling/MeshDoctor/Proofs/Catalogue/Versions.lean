import MeshDoctor.Proofs.Catalogue.Agreement
import MeshDoctor.Proofs.Catalogue.Order

/-!
# Catalogue — release lines that the checks do not know

Each check looks into a table of its own for what the release line of the controller expects, and at
its own time.

* `World.RunsUnknown`: the controller of a mesh runs a release line that the checks do not know.
* `rejects_controllerVersionSupported_iff`, `rejects_hasListener_iff`,
  `rejects_hasOutboundRoute_iff`: these checks reject exactly such a release line.
* **`Diagnostic.rejectsOnly_evaluate`**: no check of the catalogue rejects any other.
-/

namespace MeshDoctor

open Envoy

/-! ## Rejections -/

/-- The outcome rejects a release line as unknown. -/
def Outcome.Rejects (o : Outcome) (version : String) : Prop :=
  o.problem? = some (.unrecognizedVersion version)

theorem Outcome.not_rejects_of_pass {o : Outcome} (h : o.status = .pass) (version : String) :
    ¬ o.Rejects version := by
  intro hrejects
  cases o with
  | pass message => cases hrejects
  | _ => cases h

/-- The controller of the mesh runs this release line, and the checks do not know it. -/
def World.RunsUnknown (w : World) (mesh : Mesh) (version : String) : Prop :=
  ∃ release, w.finds mesh.controllerVersion = .ok release ∧ release.text = version ∧
    isSupported version = false

theorem IsVersionGate.rejects {α : Type} {gate : String → Except Problem α}
    (h : IsVersionGate gate) {version : String} (hunsupported : isSupported version = false)
    (w : World) (f : α → Diagnosis Outcome) :
    (w.verdict (Diagnosis.ofResult (gate version) >>= f)).Rejects version := by
  rw [World.verdict_bind_of_error ((w.finds_diagnosis _).trans ((h version).2 hunsupported))]
  rfl

/-- In the world, the outcome rejects only what the controllers of these meshes run. -/
def World.RejectsOnly (w : World) (mesh? : Option Mesh) (o : Outcome) : Prop :=
  ∀ version, o.Rejects version → ∃ mesh ∈ mesh?, w.RunsUnknown mesh version

namespace World.RejectsOnly

variable {α : Type} {w : World} {mesh? : Option Mesh}

theorem ofProblem {p : Problem} (hp : ∀ version, p ≠ .unrecognizedVersion version) :
    w.RejectsOnly mesh? (.fail p) :=
  fun version hrejects => absurd (Option.some.inj hrejects) (hp version)

theorem bind {x : Diagnosis α} {f : α → Diagnosis Outcome}
    (hx : ∀ p, w.finds x = .error p → w.RejectsOnly mesh? (.fail p))
    (hf : ∀ a, w.finds x = .ok a → w.RejectsOnly mesh? (w.verdict (f a))) :
    w.RejectsOnly mesh? (w.verdict (x >>= f)) :=
  verdict_bind_cases hx hf

theorem runsUnknown {mesh : Mesh} {o : Outcome} (h : w.RejectsOnly (some mesh) o)
    {version : String} (hrejects : o.Rejects version) : w.RunsUnknown mesh version := by
  obtain ⟨mesh', hmesh, hruns⟩ := h version hrejects
  rwa [Option.mem_some.mp hmesh]

theorem lookup {x : Lookup α} {f : α → Diagnosis Outcome}
    (hf : ∀ a, w.finds x = .ok a → w.RejectsOnly mesh? (w.verdict (f a))) :
    w.RejectsOnly mesh? (w.verdict (liftM x >>= f)) :=
  -- A request that fails is a problem of its own.
  verdict_lookup_cases (fun _ _ => ofProblem fun _ h => nomatch h) hf

theorem loadConfig {getter : Option Getter} {f : ConfigDump → Diagnosis Outcome}
    (hf : ∀ dump, w.RejectsOnly mesh? (w.verdict (f dump))) :
    w.RejectsOnly mesh? (w.verdict (Catalogue.loadConfig getter >>= f)) := by
  refine bind (fun p hp => ofProblem fun version hversion => ?_) fun dump _ => hf dump
  -- Without a getter the problem says so, and with one the request for the sidecar failed.
  cases getter with
  | none => cases Except.error.inj hp ▸ hversion
  | some g =>
    obtain ⟨e, rfl⟩ := Catalogue.exists_failure_of_loadConfig hp
    cases hversion

theorem gate {mesh : Mesh} {gate : String → Except Problem α} (hgate : IsVersionGate gate)
    {f : α → Diagnosis Outcome} {release : ReleaseLine}
    (hrelease : w.finds mesh.controllerVersion = .ok release)
    (hf : ∀ a, w.RejectsOnly (some mesh) (w.verdict (f a))) :
    w.RejectsOnly (some mesh) (w.verdict (Diagnosis.ofResult (gate release.text) >>= f)) := by
  refine bind (fun p hp version hrejects => ?_) fun a _ => hf a
  -- The gate names what it rejects, and that is what the controller runs.
  rw [finds_diagnosis, hgate.error_iff] at hp
  obtain ⟨hunsupported, rfl⟩ := hp
  cases hrejects
  exact ⟨mesh, rfl, release, hrelease, rfl, hunsupported⟩

end World.RejectsOnly

/-! ## The checks that ask for the release line -/

namespace Catalogue

variable {w : World} {mesh : Mesh}

theorem rejectsOnly_controllerVersionSupported :
    w.RejectsOnly (some mesh) (w.verdict (controllerVersionSupported mesh)) := by
  refine .lookup fun release hrelease version => ?_
  cases hsupported : isSupported release.text with
  | true => exact fun h => nomatch h
  | false =>
    rintro ⟨rfl⟩
    exact ⟨mesh, rfl, release, hrelease, rfl, hsupported⟩

theorem rejectsOnly_hasListener {getter : Option Getter} {direction : Direction} :
    w.RejectsOnly (some mesh) (w.verdict (hasListener mesh getter direction)) := by
  refine .lookup fun release hrelease => ?_
  refine .gate (isVersionGate_listenerName direction) hrelease fun name => .loadConfig fun dump => ?_
  split <;> exact fun _ h => nomatch h

theorem rejectsOnly_hasOutboundRoute {destination : PodRef} {getter : Option Getter} :
    w.RejectsOnly (some mesh) (w.verdict (hasOutboundRoute mesh destination getter)) := by
  refine .lookup fun release hrelease => ?_
  refine .gate (isVersionGate_routeConfigName .outbound) hrelease fun name => ?_
  refine .loadConfig fun dump => .lookup fun pod _ => .lookup fun services _ => ?_
  dsimp only
  split
  · exact fun _ h => nomatch h
  · split <;> exact fun _ h => nomatch h

theorem rejectsOnly_trafficPolicy {source destination : PodRef} :
    w.RejectsOnly (some mesh) (w.verdict (trafficPolicy mesh source destination)) := by
  refine .lookup fun config _ => ?_
  split
  · exact fun _ h => nomatch h
  · refine .lookup fun sourcePod _ => .lookup fun destinationPod _ => ?_
    refine .lookup fun release hrelease => ?_
    refine .gate isVersionGate_trafficTargetVersion hrelease fun expected => ?_
    refine .lookup fun targets _ => ?_
    -- Targets are refused for their own version, if for any.
    dsimp only [World.verdict, World.finds_diagnosis, targetVerdict]
    split
    · exact fun _ h => nomatch h
    · split <;> exact fun _ h => nomatch h

section Iff

variable {version : String}

theorem rejects_controllerVersionSupported_iff :
    (w.verdict (controllerVersionSupported mesh)).Rejects version ↔ w.RunsUnknown mesh version := by
  refine ⟨rejectsOnly_controllerVersionSupported.runsUnknown, ?_⟩
  rintro ⟨release, hrelease, rfl, hunsupported⟩
  rw [controllerVersionSupported, World.verdict_lookup_of_ok hrelease, hunsupported]
  rfl

theorem rejects_hasListener_iff {getter : Option Getter} {direction : Direction} :
    (w.verdict (hasListener mesh getter direction)).Rejects version ↔
      w.RunsUnknown mesh version := by
  refine ⟨rejectsOnly_hasListener.runsUnknown, ?_⟩
  rintro ⟨release, hrelease, rfl, hunsupported⟩
  rw [hasListener, World.verdict_lookup_of_ok hrelease]
  exact (isVersionGate_listenerName direction).rejects hunsupported w _

theorem rejects_hasOutboundRoute_iff {destination : PodRef} {getter : Option Getter} :
    (w.verdict (hasOutboundRoute mesh destination getter)).Rejects version ↔
      w.RunsUnknown mesh version := by
  refine ⟨rejectsOnly_hasOutboundRoute.runsUnknown, ?_⟩
  rintro ⟨release, hrelease, rfl, hunsupported⟩
  rw [hasOutboundRoute, World.verdict_lookup_of_ok hrelease]
  exact (isVersionGate_routeConfigName .outbound).rejects hunsupported w _

end Iff

end Catalogue

/-! ## The whole catalogue -/

open Catalogue in
/-- **A check rejects a release line only if the controller of its mesh runs it and the checks do
not know it.** A check that does not depend on the release line rejects none. -/
theorem Diagnostic.rejectsOnly_evaluate (w : World) (d : Diagnostic) :
    w.RejectsOnly d.versionOf? (w.verdict d.evaluate) := by
  cases d with
  | controllerVersionSupported mesh => exact rejectsOnly_controllerVersionSupported
  | trafficPolicy mesh source destination => exact rejectsOnly_trafficPolicy
  | hasListener mesh pod getter direction => exact rejectsOnly_hasListener
  | hasOutboundRoute mesh pod destination getter => exact rejectsOnly_hasOutboundRoute
  | meshConfigPresent mesh => exact .lookup fun _ _ _ h => nomatch h
  | sidecarPresent | proxyUuidLabelled | podReady | warningEvents | namespaceMonitored
  | egressEnabled | definitionsInstalled =>
    refine .lookup fun found _ => ?_
    split <;> exact fun _ h => nomatch h
  | deploymentAvailable ns name =>
    refine .lookup fun deployment _ => ?_
    dsimp only
    split <;> exact fun _ h => nomatch h
  | noWarmingSecrets pod getter =>
    refine .loadConfig fun dump => ?_
    split <;> exact fun _ h => nomatch h
  | hasDestinationEndpoints pod getter =>
    refine .loadConfig fun dump => ?_
    dsimp only
    split <;> exact fun _ h => nomatch h
  | sidecarInjection pod =>
    refine .lookup fun found _ => ?_
    split
    · split <;> exact fun _ h => nomatch h
    · refine .lookup fun ns _ => ?_
      split <;> exact fun _ h => nomatch h
  | sameMesh source destination =>
    refine .lookup fun sourceNs _ => .lookup fun destinationNs _ => ?_
    dsimp only
    split <;> exact fun _ h => nomatch h
  | controllerPodsReady mesh =>
    refine .lookup fun pods _ => ?_
    split
    · exact fun _ h => nomatch h
    · split <;> exact fun _ h => nomatch h
  | monitoredNamespacesInjected mesh =>
    refine .lookup fun monitored _ => ?_
    dsimp only
    split
    · exact fun _ h => nomatch h
    · split <;> exact fun _ h => nomatch h
  | trafficSplits destination =>
    refine .lookup fun pod _ => .lookup fun services _ => .lookup fun splits _ => ?_
    dsimp only
    split <;> exact fun _ h => nomatch h
  | ingressBackendExists destination =>
    refine .lookup fun pod _ => .lookup fun services _ => ?_
    dsimp only
    split
    · exact fun _ h => nomatch h
    · refine .lookup fun policies _ => ?_
      split <;> exact fun _ h => nomatch h
  | hasCluster pod destination getter =>
    refine .loadConfig fun dump => .lookup fun found _ => .lookup fun expected _ => ?_
    split
    · exact fun _ h => nomatch h
    · split <;> exact fun _ h => nomatch h
  | hasSpecificEndpoint pod destination getter =>
    refine .loadConfig fun dump => .lookup fun found _ => ?_
    split
    · exact fun _ h => nomatch h
    · split <;> exact fun _ h => nomatch h
  | httpProbe source url =>
    refine .lookup fun pod _ => .lookup fun printed _ => ?_
    dsimp only [World.verdict, World.finds_diagnosis, probeVerdict]
    split
    · exact fun _ h => nomatch h
    · split <;> exact fun _ h => nomatch h

end MeshDoctor
