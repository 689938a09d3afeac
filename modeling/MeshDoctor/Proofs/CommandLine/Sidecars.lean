import MeshDoctor.Kubectl.Tool
import MeshDoctor.Proofs.Catalogue.Agreement
import MeshDoctor.Proofs.Catalogue.TrafficPolicy
import MeshDoctor.Proofs.CommandLine.ExitStatus
import MeshDoctor.Proofs.Suite.Faults

/-!
# Command lines — sidecars and their getters

Whether a pod has a sidecar is asked twice in a run: when its getter is chosen, and by a check.

* `World.hasSidecar`, `World.getterOf`: whether the sidecar of a pod is seen in a world, and its
  getter.
* `Diagnostic.sidecarOf?`: the pod whose sidecar a check reads.
* `Diagnostic.hasGetter_of_getter?`: a check that has a getter does not miss it.
* `Suite.checks?`: the checks of a command, with one getter for each pod.
* **`CommandLine.noConfigGetter_iff_not_sidecarPresent`**: in an unchanging world, a getter is
  missed exactly where the check of the sidecar does not pass.
-/

namespace MeshDoctor

open Envoy Inquiry

/-! ## Sidecars of a world -/

namespace World

variable (w : World) (pod : PodRef)

/-- Can the pod be read, and has it a sidecar? -/
def hasSidecar : Bool :=
  match w.finds (getPod pod) with
  | .ok found => found.hasSidecar
  | .error _ => false

/-- How the sidecar of the pod is read, if it has one. -/
def getterOf : Option Getter :=
  if w.hasSidecar pod then some (.asking pod) else none

theorem sidecarPresent_eq_pass_iff :
    (w.verdict (Catalogue.sidecarPresent pod)).status = .pass ↔ w.hasSidecar pod := by
  rw [Catalogue.sidecarPresent, hasSidecar]
  cases hpod : w.finds (getPod pod) with
  | error e => simp [verdict_lookup_of_error hpod, Outcome.status]
  | ok found =>
    rw [verdict_lookup_of_ok hpod]
    cases hsidecar : found.hasSidecar <;> simp [hsidecar, Outcome.status]

end World

/-- A session that has all it needs finds the getter of a pod. -/
theorem Session.finds_getter (s : Session) (hready : s.isReady) (w : World) (pod : PodRef) :
    w.finds (s.getter pod) = .ok (w.getterOf pod) := by
  have hgetter : s.getter pod = (do
      match ← (getPod pod).attempt with
      | .ok found => pure (if found.hasSidecar then some (.asking pod) else none)
      | .error _ => pure none) := by
    rw [getter, hready]
    rfl
  rw [hgetter, World.finds_bind, World.finds_attempt, ok_bind, World.getterOf, World.hasSidecar]
  cases w.finds (getPod pod) with
  | ok found => rfl
  | error e => rfl

/-! ## Checks that read a sidecar -/

/-- The outcome misses no getter. -/
def Outcome.HasGetter (o : Outcome) : Prop := o.problem? ≠ some .noConfigGetter

namespace Outcome.HasGetter

variable {α : Type} {w : World}

theorem fail {p : Problem} (hp : p ≠ .noConfigGetter) : (Outcome.fail p).HasGetter :=
  fun h => hp (Option.some.inj h)

theorem bind {x : Diagnosis α} {f : α → Diagnosis Outcome}
    (hx : ∀ p, w.finds x = .error p → p ≠ .noConfigGetter)
    (hf : ∀ a, (w.verdict (f a)).HasGetter) : (w.verdict (x >>= f)).HasGetter :=
  World.verdict_bind_cases (P := HasGetter) (fun p hp => fail (hx p hp)) fun a _ => hf a

theorem lookup {x : Lookup α} {f : α → Diagnosis Outcome}
    (hf : ∀ a, (w.verdict (f a)).HasGetter) : (w.verdict (liftM x >>= f)).HasGetter :=
  World.verdict_lookup_cases (P := HasGetter) (fun _ _ => fail fun h => nomatch h) fun a _ => hf a

end Outcome.HasGetter

namespace Diagnostic

/-- The pod whose sidecar a check reads. -/
def sidecarOf? : Diagnostic → Option PodRef
  | hasCluster pod _ _ => some pod
  | hasListener _ pod _ _ => some pod
  | noWarmingSecrets pod _ => some pod
  | hasDestinationEndpoints pod _ => some pod
  | hasSpecificEndpoint pod _ _ => some pod
  | hasOutboundRoute _ pod _ _ => some pod
  | _ => none

variable {w : World}

/-- **A check with a getter does not miss it.** -/
theorem hasGetter_of_getter? (d : Diagnostic) {g : Getter} (hg : d.getter? = some g) :
    (w.verdict d.evaluate).HasGetter := by
  have hload (p : Problem) (hp : w.finds (Catalogue.loadConfig (some g)) = .error p) :
      p ≠ .noConfigGetter := by
    obtain ⟨e, rfl⟩ := Catalogue.exists_failure_of_loadConfig hp
    exact fun h => nomatch h
  cases d with
  | hasCluster pod destination getter =>
    obtain rfl : getter = some g := hg
    refine .bind hload fun dump => .lookup fun found => .lookup fun expected => ?_
    split
    · exact fun h => nomatch h
    · split <;> exact fun h => nomatch h
  | hasListener mesh pod getter direction =>
    obtain rfl : getter = some g := hg
    refine .lookup fun release => .bind ?_ fun name => .bind hload fun dump => ?_
    · intro p hp
      rw [World.finds_diagnosis, (isVersionGate_listenerName direction).error_iff] at hp
      rw [hp.2]
      exact fun h => nomatch h
    · split <;> exact fun h => nomatch h
  | noWarmingSecrets pod getter =>
    obtain rfl : getter = some g := hg
    refine .bind hload fun dump => ?_
    split <;> exact fun h => nomatch h
  | hasDestinationEndpoints pod getter =>
    obtain rfl : getter = some g := hg
    refine .bind hload fun dump => ?_
    dsimp only
    split <;> exact fun h => nomatch h
  | hasSpecificEndpoint pod destination getter =>
    obtain rfl : getter = some g := hg
    refine .bind hload fun dump => .lookup fun found => ?_
    split
    · exact fun h => nomatch h
    · split <;> exact fun h => nomatch h
  | hasOutboundRoute mesh pod destination getter =>
    obtain rfl : getter = some g := hg
    refine .lookup fun release => .bind ?_ fun routeConfig => .bind hload fun dump =>
      .lookup fun found => .lookup fun services => ?_
    · intro p hp
      rw [World.finds_diagnosis, (isVersionGate_routeConfigName .outbound).error_iff] at hp
      rw [hp.2]
      exact fun h => nomatch h
    · dsimp only
      split
      · exact fun h => nomatch h
      · split <;> exact fun h => nomatch h
  | _ => cases hg

end Diagnostic

/-! ## The checks of a command -/

/-- The pods whose sidecars a command reads. -/
def Command.sidecarPods : Command → List PodRef
  | podToPod source destination => [source, destination]
  | podToUrl source _ => [source]
  | ingressToPod destination => [destination]
  | _ => []

/-- The checks of a command, if it runs any, with the getters of the pods. -/
def Suite.checks? (s : Suite) (getterOf : PodRef → Option Getter) :
    Command → Option (List Diagnostic)
  | .podToPod source destination =>
    some (s.podToPod source destination (getterOf source) (getterOf destination))
  | .podToUrl source url => some (s.podToUrl source url.text (getterOf source))
  | .controlPlaneStatus => some s.controlPlane
  | .ingressToPod destination => some (s.ingressToPod destination (getterOf destination))
  | .validate => some s.validate
  | .collect _ | .init => none

/-- In a world, each pod has the same getter throughout a run. -/
theorem Session.Examines.checks?_eq {s : Session} {w : World} {c : Command}
    {ds : List Diagnostic} (hready : s.isReady) (h : s.Examines w.host c ds) :
    s.suite.checks? w.getterOf c = some ds := by
  cases h with
  | podToPod hsource hdestination =>
    rw [w.finds_host, s.finds_getter hready] at hsource hdestination
    cases hsource
    cases hdestination
    rfl
  | podToUrl hget | ingressToPod hget =>
    rw [w.finds_host, s.finds_getter hready] at hget
    cases hget
    rfl
  | controlPlaneStatus | validate => rfl

section Checks

variable {s : Suite} {getterOf : PodRef → Option Getter} {c : Command} {ds : List Diagnostic}
  (h : s.checks? getterOf c = some ds)
include h

/-- Each check that reads the sidecar of a pod has the getter of that pod. -/
theorem Suite.getter?_of_checks? :
    ∀ d ∈ ds, ∀ pod, d.sidecarOf? = some pod → pod ∈ c.sidecarPods ∧ d.getter? = getterOf pod := by
  cases c with
  | podToPod source destination =>
    cases h
    simp [podToPod, podChecks, namespaceChecks, Command.sidecarPods, Diagnostic.sidecarOf?,
      Diagnostic.getter?]
  | podToUrl source url =>
    cases h
    simp [podToUrl, Command.sidecarPods, Diagnostic.sidecarOf?, Diagnostic.getter?]
  | ingressToPod destination =>
    cases h
    simp [ingressToPod, Command.sidecarPods, Diagnostic.sidecarOf?, Diagnostic.getter?]
  | controlPlaneStatus =>
    cases h
    intro d hd pod hpod
    simp only [controlPlane, List.mem_append, List.mem_map, List.mem_cons, List.not_mem_nil,
      or_false] at hd
    rcases hd with ⟨component, -, rfl⟩ | rfl | rfl | rfl | rfl <;> cases hpod
  | validate =>
    cases h
    simp [validate, Diagnostic.sidecarOf?]
  | collect output | init => cases h

/-- The sidecar of each of the pods is looked for, and its secrets are read. -/
theorem Suite.mem_of_checks? {pod : PodRef} (hpod : pod ∈ c.sidecarPods) :
    .sidecarPresent pod ∈ ds ∧ .noWarmingSecrets pod (getterOf pod) ∈ ds := by
  cases c with
  | podToPod source destination =>
    cases h
    simp only [Command.sidecarPods, List.mem_cons, List.not_mem_nil, or_false] at hpod
    rcases hpod with rfl | rfl <;> simp [podToPod, podChecks]
  | podToUrl source url =>
    cases h
    obtain rfl := List.mem_singleton.mp hpod
    simp [podToUrl]
  | ingressToPod destination =>
    cases h
    obtain rfl := List.mem_singleton.mp hpod
    simp [ingressToPod]
  | controlPlaneStatus | validate | collect output | init => cases hpod

end Checks

section Records

variable {s : Suite} {w : World} {c : Command} {ds : List Diagnostic}
  (h : s.checks? w.getterOf c = some ds) {pod : PodRef}
include h

/-- Where the sidecar is seen, no check misses its getter. -/
theorem Suite.hasGetter_of_checks? (hsidecar : w.hasSidecar pod) {d : Diagnostic} (hd : d ∈ ds)
    (hpod : d.sidecarOf? = some pod) : (w.verdict d.evaluate).HasGetter := by
  have hgetter := (Suite.getter?_of_checks? h d hd pod hpod).2
  rw [World.getterOf, if_pos hsidecar] at hgetter
  exact d.hasGetter_of_getter? hgetter

/-- The check of the warming secrets misses a getter exactly where no sidecar is seen. -/
theorem Suite.noWarmingSecrets_of_checks? {getter : Option Getter}
    (hgetter : .noWarmingSecrets pod getter ∈ ds) :
    (w.verdict (Diagnostic.noWarmingSecrets pod getter).evaluate).problem? =
      some .noConfigGetter ↔ ¬ w.hasSidecar pod := by
  constructor
  · intro hmissing hsidecar
    exact Suite.hasGetter_of_checks? h hsidecar hgetter rfl hmissing
  · intro hsidecar
    have hnone : getter = w.getterOf pod := (Suite.getter?_of_checks? h _ hgetter pod rfl).2
    rw [hnone, World.getterOf, if_neg hsidecar]
    rfl

end Records

/-! ## The run -/

namespace CommandLine

/-- **A getter is missed exactly where the check of the sidecar does not pass.** The checks of a
command are printed in one report; in it, the check of the warming secrets of a pod misses a getter
if and only if the pod has no sidecar that can be seen, and if it has one, no check misses a getter
for it. -/
theorem noConfigGetter_iff_not_sidecarPresent {line : CommandLine} {w : World}
    (hcommand : line.command.isDiagnostic) {c : Config}
    (hload : w.finds (Config.load line.config) = .ok c)
    (havailable : (Kubectl.ofConfig (c.pointedAt line)).IsAvailable w.host ()) :
    ∃ s ds, w.finds (Session.connect line) = .ok s ∧
      let cluster := w.through s.access.serve
      let record (d : Diagnostic) := d.check.recordIn cluster
      s.suite.checks? cluster.getterOf line.command = some ds ∧
      (line.execute.trace w).filterMap Request.printed? = [reportText (ds.map record) false] ∧
      (∀ d ∈ ds, ∀ pod, d.sidecarOf? = some pod → pod ∈ line.command.sidecarPods) ∧
      ∀ pod ∈ line.command.sidecarPods,
        .sidecarPresent pod ∈ ds ∧ (∃ getter, .noWarmingSecrets pod getter ∈ ds) ∧
        (∀ getter, .noWarmingSecrets pod getter ∈ ds →
          ((record (.noWarmingSecrets pod getter)).problem = some .noConfigGetter ↔
            (record (.sidecarPresent pod)).status ≠ .pass)) ∧
        ((record (.sidecarPresent pod)).status = .pass →
          ∀ d ∈ ds, d.sidecarOf? = some pod → (record d).problem ≠ some .noConfigGetter) := by
  obtain ⟨s, hconnect, -, -, hready⟩ := Session.exists_finds_connect w.host
    ((w.finds_host _ ()).trans hload)
  obtain ⟨ds, -, hexamines, hprinted, -, -⟩ := execute_diagnostic w.host () hcommand hconnect
  replace hready : s.isReady := hready.mpr havailable
  have hview : s.view w.host = (w.through s.access.serve).host := w.through_host s.access.serve
  rw [hview] at hexamines hprinted
  -- The getters are found before the checks are run; in a world, both see the same sidecars.
  have hchecks := hexamines.checks?_eq hready
  refine ⟨s, ds, (w.finds_host _ ()).symm.trans hconnect, ?_⟩
  intro cluster record
  have hrecords : ((s.suite.records ds).runState cluster.host ()).1 = ds.map record := by
    rw [World.runState_host]
    exact Suite.run_records_of_met _ (s.isReady_iff.mp hready) ds
  refine ⟨hchecks, ?_, fun d hd pod hpod => (Suite.getter?_of_checks? hchecks d hd pod hpod).1, ?_⟩
  · rw [← hrecords, ← World.requests_host]
    exact hprinted
  intro pod hpod
  obtain ⟨hpresent, hsecrets⟩ := Suite.mem_of_checks? hchecks hpod
  have hpass : (record (.sidecarPresent pod)).status = .pass ↔ cluster.hasSidecar pod := by
    rw [Diagnostic.status_recordIn]
    exact cluster.sidecarPresent_eq_pass_iff pod
  refine ⟨hpresent, ⟨_, hsecrets⟩, fun getter hgetter => ?_, fun hsidecar d hd hread => ?_⟩
  · rw [Diagnostic.problem_recordIn, ne_eq, hpass]
    exact Suite.noWarmingSecrets_of_checks? hchecks hgetter
  · rw [Diagnostic.problem_recordIn]
    exact Suite.hasGetter_of_checks? hchecks (hpass.mp hsidecar) hd hread

/-! ## The bookstore -/

/-- A machine without settings, whose tool reaches a snapshot of a cluster. -/
def machineFor (c : Snapshot) : World
  | .run i => .ok (c.answerLine i.arguments)
  | .pathExists _ => .ok false
  | .variable _ => .ok none
  | r => World.silent r

/-- From the buyer to the store, getters and sidecars are judged alike for both pods. -/
theorem noConfigGetter_iff_not_sidecarPresent_bookstore :
    let line : CommandLine := { command := .podToPod ⟨"shop", "buyer"⟩ ⟨"stock", "store"⟩ }
    let w := machineFor bookstore
    line.command.isDiagnostic ∧ w.finds (Config.load line.config) = .ok {} ∧
      (Kubectl.ofConfig (({} : Config).pointedAt line)).IsAvailable w.host () ∧
      ∃ (s : Session) (ds : List Diagnostic), w.finds (Session.connect line) = .ok s ∧
        ∀ pod ∈ [⟨"shop", "buyer"⟩, ⟨"stock", "store"⟩], ∃ getter,
          Diagnostic.noWarmingSecrets pod getter ∈ ds ∧
          (((Diagnostic.noWarmingSecrets pod getter).check.recordIn
              (w.through s.access.serve)).problem = some .noConfigGetter ↔
            ((Diagnostic.sidecarPresent pod).check.recordIn
              (w.through s.access.serve)).status ≠ .pass) := by
  intro line w
  have hcommand : line.command.isDiagnostic := rfl
  have hload : w.finds (Config.load line.config) = .ok {} := rfl
  have havailable : (Kubectl.ofConfig (({} : Config).pointedAt line)).IsAvailable w.host () :=
    ⟨by decide +kernel, by decide +kernel⟩
  obtain ⟨s, ds, hconnect, -, -, -, hpods⟩ :=
    noConfigGetter_iff_not_sidecarPresent hcommand hload havailable
  refine ⟨hcommand, hload, havailable, s, ds, hconnect, fun pod hpod => ?_⟩
  obtain ⟨-, ⟨getter, hgetter⟩, hagree, -⟩ := hpods pod hpod
  exact ⟨getter, hgetter, hagree getter hgetter⟩

end CommandLine

end MeshDoctor
