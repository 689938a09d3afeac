import MeshDoctor.Proofs.Catalogue.Versions
import MeshDoctor.Proofs.Suite.Order

/-!
# Suites — checks agree on the release lines they know

* `Record.Rejects`: a check failed because it does not know the release line of the controller.
* `Suite.not_rejects_of_supported`: where the release line is supported, no check of a suite rejects
  it.
* **`Suite.rejections_agree`**: one table rejects what the others reject, and one check fails on the
  release line exactly if the others that ask for it first do.
-/

namespace MeshDoctor

open Envoy

/-- The record rejects a release line as unknown. -/
def Record.Rejects (r : Record) (version : String) : Prop :=
  r.problem = some (.unrecognizedVersion version)

theorem Diagnostic.rejects_recordIn (d : Diagnostic) (w : World) (version : String) :
    (d.check.recordIn w).Rejects version ↔ (w.verdict d.evaluate).Rejects version := by
  rw [Record.Rejects, d.problem_recordIn]
  rfl

namespace Suite

variable {s : Suite} {w : World} {source destination : PodRef} {url : String}
  {sourceGetter destinationGetter : Option Getter} {ds : List Diagnostic}

theorem not_runsUnknown_of_supported
    (h : ((Diagnostic.controllerVersionSupported s.mesh).check.recordIn w).status = .pass)
    (version : String) : ¬ w.RunsUnknown s.mesh version := by
  intro hruns
  have hrejects : (w.verdict (Catalogue.controllerVersionSupported s.mesh)).Rejects version :=
    Catalogue.rejects_controllerVersionSupported_iff.mpr hruns
  rw [Diagnostic.status_recordIn] at h
  exact Outcome.not_rejects_of_pass h version hrejects

/-- Where the release line is supported, no check of a suite rejects it. -/
theorem not_rejects_of_supported
    (h : ((Diagnostic.controllerVersionSupported s.mesh).check.recordIn w).status = .pass)
    (hds : ds ∈ [s.podToPod source destination sourceGetter destinationGetter,
      s.podToUrl source url sourceGetter, s.ingressToPod destination destinationGetter,
      s.controlPlane, s.validate])
    {r : Record} (hr : r ∈ (s.records ds).run w) (version : String) : ¬ r.Rejects version := by
  rw [run_records, List.mem_map] at hr
  obtain ⟨d, hd, rfl⟩ := hr
  rw [recordIn_guarded]
  -- A check that is skipped for want of the tool or the cluster says only that.
  cases s.ledger.firstMissing? [toolName, clusterName] with
  | some missing => exact fun hrejects => nomatch hrejects
  | none =>
    intro hrejects
    obtain ⟨mesh, hmesh, hruns⟩ := d.rejectsOnly_evaluate w version hrejects
    rw [versionOf?_of_mem hds d hd mesh hmesh] at hruns
    exact not_runsUnknown_of_supported h version hruns

/-- **The tables and the checks agree on the release lines they know.** A release line passes every
table or is rejected by all of them, under its name. So the checks that ask for it before anything
else can fail reject it together, that of traffic policies rejects nothing that these do not, and
no check of any suite rejects a release line that is supported. -/
theorem rejections_agree :
    (∀ (version : String) (direction : Direction),
      (isSupported version = true →
        (∃ name, listenerName version direction = .ok name) ∧
          (∃ name, routeConfigName version direction = .ok name) ∧
          ∃ name, trafficTargetVersion version = .ok name) ∧
      (isSupported version = false →
        listenerName version direction = .error (.unrecognizedVersion version) ∧
          routeConfigName version direction = .error (.unrecognizedVersion version) ∧
          trafficTargetVersion version = .error (.unrecognizedVersion version))) ∧
    ∀ (s : Suite) (w : World),
      (∀ version : String,
        (∀ pod getter direction,
          ((Diagnostic.controllerVersionSupported s.mesh).check.recordIn w).Rejects version ↔
            ((Diagnostic.hasListener s.mesh pod getter direction).check.recordIn w).Rejects
              version) ∧
        (∀ pod destination getter,
          ((Diagnostic.controllerVersionSupported s.mesh).check.recordIn w).Rejects version ↔
            ((Diagnostic.hasOutboundRoute s.mesh pod destination getter).check.recordIn w).Rejects
              version) ∧
        ∀ source destination,
          ((Diagnostic.trafficPolicy s.mesh source destination).check.recordIn w).Rejects version →
            ((Diagnostic.controllerVersionSupported s.mesh).check.recordIn w).Rejects version) ∧
      (((Diagnostic.controllerVersionSupported s.mesh).check.recordIn w).status = .pass →
        ∀ source destination url sourceGetter destinationGetter,
          ∀ ds ∈ [s.podToPod source destination sourceGetter destinationGetter,
            s.podToUrl source url sourceGetter, s.ingressToPod destination destinationGetter,
            s.controlPlane, s.validate],
          ∀ r ∈ (s.records ds).run w, ∀ version, ¬ r.Rejects version) := by
  constructor
  · intro version direction
    have hlistener := isVersionGate_listenerName direction version
    have hroute := isVersionGate_routeConfigName direction version
    have htarget := isVersionGate_trafficTargetVersion version
    exact ⟨fun h => ⟨hlistener.1 h, hroute.1 h, htarget.1 h⟩,
      fun h => ⟨hlistener.2 h, hroute.2 h, htarget.2 h⟩⟩
  · intro s w
    simp only [Diagnostic.rejects_recordIn, Diagnostic.evaluate,
      Catalogue.rejects_controllerVersionSupported_iff, Catalogue.rejects_hasListener_iff,
      Catalogue.rejects_hasOutboundRoute_iff, implies_true, true_and]
    constructor
    · intro version source destination
      exact Catalogue.rejectsOnly_trafficPolicy.runsUnknown
    · intro h source destination url sourceGetter destinationGetter ds hds r hr version
      exact not_rejects_of_supported h hds hr version

/-! ## The bookstore, now and later -/

/-- A bookstore whose controller is of a release that the checks do not know. -/
def laterBookstore : Snapshot where
  objects :=
    [(Kind.meshConfigs.name, .object [("metadata", named "osm-mesh-config" "osm-system")]),
      (Kind.pods.name, .object [("metadata", named "buyer" "shop")]),
      (Kind.pods.name, .object [("metadata", named "store" "stock")]),
      (Kind.pods.name, .object
        [("metadata", .object
          [("labels", .object
              [("app", .string "osm-controller"),
                ("app.kubernetes.io/version", .string "v1.2.0")]),
            ("namespace", .string "osm-system")])])]

/-- No check of the bookstore rejects its release line; later, the traffic policy does, and with it
the listener. -/
theorem rejections_agree_bookstore :
    isSupported "v0.11" = true ∧ (∃ name, listenerName "v0.11" .inbound = .ok name) ∧
      isSupported "v1.2" = false ∧
      listenerName "v1.2" .inbound = .error (.unrecognizedVersion "v1.2") ∧
      ((Diagnostic.trafficPolicy bookstoreSuite.mesh ⟨"shop", "buyer"⟩
          ⟨"stock", "store"⟩).check.recordIn laterBookstore.world).Rejects "v1.2" ∧
      ((Diagnostic.hasListener bookstoreSuite.mesh ⟨"shop", "buyer"⟩ none
          .outbound).check.recordIn laterBookstore.world).Rejects "v1.2" ∧
      ((Diagnostic.controllerVersionSupported bookstoreSuite.mesh).check.recordIn
          bookstore.world).status = .pass ∧
      ∀ r ∈ (bookstoreSuite.records (bookstoreSuite.podToPod ⟨"shop", "buyer"⟩ ⟨"stock", "store"⟩
          none none)).run bookstore.world, ∀ version, ¬ r.Rejects version := by
  have hknown : isSupported "v0.11" = true := rfl
  have hunknown : isSupported "v1.2" = false := rfl
  have hpolicy : ((Diagnostic.trafficPolicy bookstoreSuite.mesh ⟨"shop", "buyer"⟩
      ⟨"stock", "store"⟩).check.recordIn laterBookstore.world).Rejects "v1.2" := by
    rw [Record.Rejects]
    decide +kernel
  have hsupported : ((Diagnostic.controllerVersionSupported bookstoreSuite.mesh).check.recordIn
      bookstore.world).status = .pass := by decide +kernel
  obtain ⟨htables, hchecks⟩ := rejections_agree
  obtain ⟨hlater, -⟩ := hchecks bookstoreSuite laterBookstore.world
  obtain ⟨hlistener, -, hcontroller⟩ := hlater "v1.2"
  obtain ⟨-, hnow⟩ := hchecks bookstoreSuite bookstore.world
  exact ⟨hknown, ((htables "v0.11" .inbound).1 hknown).1, hunknown,
    ((htables "v1.2" .inbound).2 hunknown).1, hpolicy,
    (hlistener _ _ _).mp (hcontroller _ _ hpolicy), hsupported,
    hnow hsupported _ _ "http://example.com/" none none _ List.mem_cons_self⟩

end Suite

end MeshDoctor
