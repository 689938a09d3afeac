import MeshDoctor.Proofs.Catalogue.Outcomes
import MeshDoctor.Proofs.Cluster.Pods

/-!
# Catalogue — the pods of the controller, together and one by one

One check lists the pods of the controller and stops at the first that is not ready. Another one gets
a single pod by its address. Where pods have names they agree.

* `firstUnready?_eq_none_iff`, `firstUnready?_eq_some_iff`: what the search for an unready pod finds.
* `verdict_podReady_pass_iff`, `verdict_controllerPodsReady_pass_iff`: what makes either check pass.
* `Snapshot.refs_of_finds_controllerPods`: pods that are listed are found at their addresses.
* **`Snapshot.controllerPodsReady_verdict`**: the controller's pods are ready if each of them is, and
  otherwise the first that is not ready is named.
-/

namespace MeshDoctor

open Json

namespace Catalogue

/-! ## The first pod that is not ready -/

variable {pods : List Pod} {pod : Pod} {reason : String}

theorem firstUnready?_eq_none_iff :
    firstUnready? pods = none ↔ ∀ pod ∈ pods, pod.readiness = .ok () := by
  rw [firstUnready?, List.findSome?_eq_none_iff]
  refine forall₂_congr fun pod _ => ?_
  cases pod.readiness <;> simp

theorem firstUnready?_eq_some_iff : firstUnready? pods = some (pod, reason) ↔
    ∃ before after, pods = before ++ pod :: after ∧
      (∀ pod' ∈ before, pod'.readiness = .ok ()) ∧ pod.readiness = .error reason := by
  rw [firstUnready?, List.findSome?_eq_some_iff]
  constructor
  · rintro ⟨before, found, after, hpods, hfound, hbefore⟩
    cases hready : found.readiness with
    | ok _ => simp [hready] at hfound
    | error _ =>
      simp only [hready, Option.some.injEq, Prod.mk.injEq] at hfound
      obtain ⟨rfl, rfl⟩ := hfound
      refine ⟨before, after, hpods, fun pod' hpod' => ?_, hready⟩
      exact firstUnready?_eq_none_iff.mp (List.findSome?_eq_none_iff.mpr hbefore) pod' hpod'
  · rintro ⟨before, after, hpods, hbefore, hunready⟩
    refine ⟨before, pod, after, hpods, by rw [hunready], fun pod' hpod' => ?_⟩
    rw [hbefore pod' hpod']

/-! ## Pods at their addresses -/

variable {w : World} {mesh : Mesh} {ref : PodRef}

theorem verdict_podReady_of_ready (h : w.finds (getPod ref) = .ok pod)
    (hready : pod.readiness = .ok ()) : w.verdict (podReady ref) = .pass none := by
  rw [podReady, World.verdict_lookup_of_ok h, hready]
  rfl

theorem verdict_podReady_of_unready (h : w.finds (getPod ref) = .ok pod)
    (hunready : pod.readiness = .error reason) :
    w.verdict (podReady ref) = .fail (.podNotReady ref.text reason) := by
  rw [podReady, World.verdict_lookup_of_ok h, hunready]
  rfl

theorem verdict_podReady_pass_iff : (∃ text, w.verdict (podReady ref) = .pass text) ↔
    ∃ pod, w.finds (getPod ref) = .ok pod ∧ pod.readiness = .ok () := by
  constructor
  · rintro ⟨text, hpass⟩
    cases h : w.finds (getPod ref) with
    | error e =>
      rw [podReady, World.verdict_lookup_of_error h] at hpass
      cases hpass
    | ok pod =>
      cases hready : pod.readiness with
      | ok _ => exact ⟨pod, rfl, hready⟩
      | error reason =>
        rw [verdict_podReady_of_unready h hready] at hpass
        cases hpass
  · rintro ⟨pod, h, hready⟩
    exact ⟨none, verdict_podReady_of_ready h hready⟩

theorem exists_finds_of_pass (h : ∃ text, w.verdict (controllerPodsReady mesh) = .pass text) :
    ∃ pods, w.finds mesh.controllerPods = .ok pods := by
  obtain ⟨text, hpass⟩ := h
  cases h : w.finds mesh.controllerPods with
  | ok pods => exact ⟨pods, rfl⟩
  | error e =>
    rw [controllerPodsReady, World.verdict_lookup_of_error h] at hpass
    cases hpass

section Found

variable (h : w.finds mesh.controllerPods = .ok pods)
include h

theorem verdict_controllerPodsReady_of_ready (hne : pods ≠ [])
    (hready : ∀ pod ∈ pods, pod.readiness = .ok ()) :
    w.verdict (controllerPodsReady mesh) =
      .pass (some (toString pods.length ++ " pods ready")) := by
  rw [controllerPodsReady, World.verdict_lookup_of_ok h, if_neg (by simpa using hne),
    firstUnready?_eq_none_iff.mpr hready]
  rfl

theorem verdict_controllerPodsReady_of_unready (hunready : firstUnready? pods = some (pod, reason)) :
    w.verdict (controllerPodsReady mesh) = .fail (.componentUnavailable mesh.controllerName
      ("pod " ++ pod.ref.text ++ ": " ++ reason)) := by
  have hne : pods ≠ [] := by
    rintro rfl
    cases hunready
  rw [controllerPodsReady, World.verdict_lookup_of_ok h, if_neg (by simpa using hne), hunready]
  rfl

theorem verdict_controllerPodsReady_pass_iff :
    (∃ text, w.verdict (controllerPodsReady mesh) = .pass text) ↔
      pods ≠ [] ∧ ∀ pod ∈ pods, pod.readiness = .ok () := by
  constructor
  · rintro ⟨text, hpass⟩
    have hne : pods ≠ [] := by
      rintro rfl
      rw [controllerPodsReady, World.verdict_lookup_of_ok h] at hpass
      cases hpass
    refine ⟨hne, firstUnready?_eq_none_iff.mp ?_⟩
    cases hfirst : firstUnready? pods with
    | none => rfl
    | some found =>
      rw [verdict_controllerPodsReady_of_unready h hfirst] at hpass
      cases hpass
  · rintro ⟨hne, hready⟩
    exact ⟨_, verdict_controllerPodsReady_of_ready h hne hready⟩

end Found

end Catalogue

namespace Snapshot

open Catalogue

variable {c : Snapshot} {mesh : Mesh} {pods : List Pod}

/-! ## The controller's pods in a cluster -/

/-- Where each address has a pod that is ready, all objects decode. -/
theorem HasNamedPods.decodes_of_podReady (hnamed : c.HasNamedPods) (hc : c.failures = [])
    (h : ∀ ref ∈ c.controllerRefs mesh, ∃ text, c.world.verdict (podReady ref) = .pass text) :
    ∀ v ∈ c.controllerObjects mesh, (Pod.decode v).isSome := by
  intro v hv
  obtain ⟨pod, hfound, -⟩ := verdict_podReady_pass_iff.mp (h _ (List.mem_map_of_mem hv))
  exact Option.isSome_iff_exists.mpr ⟨pod, (hnamed.finds_getPod_controller hc hv).mp hfound⟩

section Served

variable (hc : c.failures = []) (hcontroller : ',' ∉ mesh.controllerName.toList)
include hc hcontroller

theorem exists_finds_controllerPods
    (hdecodes : ∀ v ∈ c.controllerObjects mesh, (Pod.decode v).isSome) :
    ∃ pods, c.world.finds mesh.controllerPods = .ok pods := by
  refine ⟨_, finds_listAs_of_decodes (failureOf_of_failures hc _) ?_⟩
  rw [list_controllerSelector hcontroller]
  exact hdecodes

variable (hnamed : c.HasNamedPods)
include hnamed

/-- **The controller's pods that are listed are those that are found at its addresses**, one for
each of them. -/
theorem refs_of_finds_controllerPods (h : c.world.finds mesh.controllerPods = .ok pods) :
    pods.map (·.ref) = c.controllerRefs mesh ∧
      ∀ pod ∈ pods, c.world.finds (getPod pod.ref) = .ok pod := by
  have hmapM := (finds_listAs_eq_ok_iff.mp h).2
  rw [list_controllerSelector hcontroller] at hmapM
  refine ⟨map_eq_of_mapM hmapM fun v pod hdecode =>
    Pod.ref_of_decode ((decodeAs_eq_ok _).mp hdecode), fun pod hpod => ?_⟩
  obtain ⟨v, hv, hdecode⟩ := exists_of_mem_mapM hmapM hpod
  rw [decodeAs_eq_ok] at hdecode
  rw [Pod.ref_of_decode hdecode]
  exact (hnamed.finds_getPod_controller hc hv).mpr hdecode

theorem controllerPodsReady_pass_iff_podReady :
    (∃ text, c.world.verdict (controllerPodsReady mesh) = .pass text) ↔
      c.controllerRefs mesh ≠ [] ∧
        ∀ ref ∈ c.controllerRefs mesh, ∃ text, c.world.verdict (podReady ref) = .pass text := by
  constructor
  · intro hpass
    obtain ⟨pods, h⟩ := exists_finds_of_pass hpass
    obtain ⟨hrefs, hget⟩ := refs_of_finds_controllerPods hc hcontroller hnamed h
    obtain ⟨hne, hready⟩ := (verdict_controllerPodsReady_pass_iff h).mp hpass
    rw [← hrefs]
    refine ⟨by simpa using hne, List.forall_mem_map.mpr fun pod hpod => ?_⟩
    exact verdict_podReady_pass_iff.mpr ⟨pod, hget pod hpod, hready pod hpod⟩
  · rintro ⟨hne, hall⟩
    obtain ⟨pods, h⟩ := exists_finds_controllerPods hc hcontroller
      (hnamed.decodes_of_podReady hc hall)
    obtain ⟨hrefs, hget⟩ := refs_of_finds_controllerPods hc hcontroller hnamed h
    rw [← hrefs] at hne hall
    refine (verdict_controllerPodsReady_pass_iff h).mpr
      ⟨by simpa using hne, fun pod hpod => ?_⟩
    obtain ⟨pod', hfound, hready⟩ :=
      verdict_podReady_pass_iff.mp (hall _ (List.mem_map_of_mem hpod))
    rw [hget pod hpod] at hfound
    rwa [Except.ok.inj hfound]

end Served

/-- **The check of the controller's pods passes exactly if it has pods and the check of each of them
passes.** Then it counts them. Otherwise, if it has pods and all of them decode, it names the first
for which the check of a single pod fails, with the reason that this one gives. -/
theorem controllerPodsReady_verdict (c : Snapshot) (mesh : Mesh) (hc : c.failures = [])
    (hnamed : c.HasNamedPods) (hcontroller : ',' ∉ mesh.controllerName.toList) :
    let refs := c.controllerRefs mesh
    let outcome := (Diagnostic.controllerPodsReady mesh).outcome? c.world
    let single (ref : PodRef) := (Diagnostic.podReady ref).outcome? c.world
    (refs.Nodup ∧ ∀ ref, ref ∈ refs ↔ c.IsController mesh ref) ∧
    ((∃ text, outcome = some (.pass text)) ↔
      refs ≠ [] ∧ ∀ ref ∈ refs, ∃ text, single ref = some (.pass text)) ∧
    (∀ text, outcome = some (.pass text) → text = some (toString refs.length ++ " pods ready")) ∧
    ((∀ v ∈ c.controllerObjects mesh, (Pod.decode v).isSome) → refs ≠ [] →
      (¬ ∃ text, outcome = some (.pass text)) → ∃ before ref after reason,
        refs = before ++ ref :: after ∧
        (∀ ref' ∈ before, ∃ text, single ref' = some (.pass text)) ∧
        single ref = some (.fail (.podNotReady ref.text reason)) ∧
        outcome = some (.fail (.componentUnavailable mesh.controllerName
          ("pod " ++ ref.text ++ ": " ++ reason)))) := by
  intro refs outcome single
  have houtcome : outcome = some (c.world.verdict (controllerPodsReady mesh)) :=
    Diagnostic.outcome?_eq _ _
  have hsingle (ref : PodRef) : single ref = some (c.world.verdict (podReady ref)) :=
    Diagnostic.outcome?_eq _ _
  simp only [houtcome, hsingle, Option.some.injEq]
  refine ⟨⟨hnamed.nodup_controllerRefs, fun ref => hnamed.mem_controllerRefs⟩,
    controllerPodsReady_pass_iff_podReady hc hcontroller hnamed, fun text hpass => ?_,
    fun hdecodes hne hfails => ?_⟩
  · obtain ⟨pods, h⟩ := exists_finds_of_pass ⟨text, hpass⟩
    obtain ⟨hrefs, -⟩ := refs_of_finds_controllerPods hc hcontroller hnamed h
    obtain ⟨hne, hready⟩ := (verdict_controllerPodsReady_pass_iff h).mp ⟨text, hpass⟩
    rw [verdict_controllerPodsReady_of_ready h hne hready] at hpass
    rw [← Outcome.pass.inj hpass, ← List.length_map (·.ref), hrefs]
  · obtain ⟨pods, h⟩ := exists_finds_controllerPods hc hcontroller hdecodes
    obtain ⟨hrefs, hget⟩ := refs_of_finds_controllerPods hc hcontroller hnamed h
    have hpods : pods ≠ [] := by
      rintro rfl
      exact hne hrefs.symm
    cases hfirst : firstUnready? pods with
    | none =>
      have hready := firstUnready?_eq_none_iff.mp hfirst
      exact absurd ⟨_, verdict_controllerPodsReady_of_ready h hpods hready⟩ hfails
    | some found =>
      obtain ⟨pod, reason⟩ := found
      obtain ⟨before, after, hsplit, hbefore, hunready⟩ := firstUnready?_eq_some_iff.mp hfirst
      subst hsplit
      refine ⟨before.map (·.ref), pod.ref, after.map (·.ref), reason, ?_, ?_, ?_, ?_⟩
      · rw [← List.map_cons, ← List.map_append]
        exact hrefs.symm
      · refine List.forall_mem_map.mpr fun pod' hpod' => ⟨none, ?_⟩
        exact verdict_podReady_of_ready (hget pod' (List.mem_append_left _ hpod'))
          (hbefore pod' hpod')
      · exact verdict_podReady_of_unready (hget pod (by simp)) hunready
      · exact verdict_controllerPodsReady_of_unready h hfirst

/-! ## A controller with two pods -/

/-- Two pods of a controller, the second of which is in this phase, and others that are not ready: one
of another component, and one of another mesh. -/
def controllerWith (phase : String) : Snapshot where
  objects :=
    let pod (name ns app phase : String) : String × Value :=
      (Kind.pods.name, .object
        [("metadata", .object [("labels", .object [("app", .string app)]),
            ("name", .string name), ("namespace", .string ns)]),
          ("status", .object [("phase", .string phase)])])
    [pod "injector-0" "osm-system" "osm-injector" "Pending",
      pod "controller-0" "osm-system" "osm-controller" "Running",
      pod "controller-0" "other-system" "osm-controller" "Failed",
      pod "controller-1" "osm-system" "osm-controller" phase]

/-- Once the second pod runs, both are ready. Before, it is named. -/
theorem controllerPodsReady_verdict_two :
    let mesh : Mesh := ⟨"osm-system", "osm", "osm-controller", "osm-mesh-config"⟩
    let outcome (phase : String) :=
      (Diagnostic.controllerPodsReady mesh).outcome? (controllerWith phase).world
    (controllerWith "Running").HasNamedPods ∧ (controllerWith "Pending").HasNamedPods ∧
      ',' ∉ mesh.controllerName.toList ∧
      outcome "Running" = some (.pass (some "2 pods ready")) ∧
      outcome "Pending" = some (.fail (.componentUnavailable "osm-controller"
        "pod osm-system/controller-1: phase is Pending")) := by
  intro mesh outcome
  have hrunning : (controllerWith "Running").HasNamedPods := ⟨by decide, by decide⟩
  have hpending : (controllerWith "Pending").HasNamedPods := ⟨by decide, by decide⟩
  have hcontroller : ',' ∉ mesh.controllerName.toList := by decide
  have hrefs (phase : String) : (controllerWith phase).controllerRefs mesh =
      [⟨"osm-system", "controller-0"⟩, ⟨"osm-system", "controller-1"⟩] := rfl
  refine ⟨hrunning, hpending, hcontroller, ?_, ?_⟩
  · obtain ⟨-, hpass, htext, -⟩ :=
      controllerPodsReady_verdict (controllerWith "Running") mesh rfl hrunning hcontroller
    rw [hrefs] at hpass
    obtain ⟨text, houtcome⟩ := hpass.mpr ⟨by simp, by
      intro ref href
      simp only [List.mem_cons, List.not_mem_nil, or_false] at href
      obtain rfl | rfl := href
      · exact ⟨none, rfl⟩
      · exact ⟨none, rfl⟩⟩
    have hcount : toString 2 ++ " pods ready" = "2 pods ready" := by decide +kernel
    rw [htext text houtcome, hrefs] at houtcome
    rw [← hcount]
    exact houtcome
  · obtain ⟨-, hpass, -, hfirst⟩ :=
      controllerPodsReady_verdict (controllerWith "Pending") mesh rfl hpending hcontroller
    have hfirstReady : (Diagnostic.podReady ⟨"osm-system", "controller-0"⟩).outcome?
        (controllerWith "Pending").world = some (.pass none) := rfl
    have hsecond : (Diagnostic.podReady ⟨"osm-system", "controller-1"⟩).outcome?
        (controllerWith "Pending").world =
          some (.fail (.podNotReady "osm-system/controller-1" "phase is Pending")) := rfl
    rw [hrefs] at hpass hfirst
    obtain ⟨before, ref, after, reason, hsplit, hbefore, hunready, houtcome⟩ :=
      hfirst (by decide) (by simp) fun hpasses => by
        obtain ⟨text, hready⟩ := (hpass.mp hpasses).2 ⟨"osm-system", "controller-1"⟩ (by simp)
        cases hsecond.symm.trans hready
    match before, hsplit with
    | [], hsplit =>
      obtain ⟨rfl, -⟩ := List.cons.inj hsplit
      cases hfirstReady.symm.trans hunready
    | [_], hsplit =>
      obtain ⟨rfl, -⟩ := List.cons.inj (List.cons.inj hsplit).2
      cases hsecond.symm.trans hunready
      exact houtcome
    | _ :: _ :: _, hsplit => simp at hsplit

end Snapshot

end MeshDoctor
