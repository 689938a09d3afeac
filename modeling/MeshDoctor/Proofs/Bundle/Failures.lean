import MeshDoctor.Proofs.Bundle.Course
import MeshDoctor.Proofs.Bundle.Members

/-!
# Support bundles — what ends a collection

Some failures end a collection, others are noted in the index, which is written last. So a bundle
without an index is one whose collection failed.

* `Course.error_iff_obstacle`: the failures that end a collection.
* `asksOnly_prepare`: before the dumps, no file is written but logs.
* `Course.no_summary`: a collection that fails leaves no index.
* **`Collector.fails_iff_obstacle`**: a collection fails for one of six reasons and
  leaves no index then; else the index notes the other failures, each of them once.
-/

namespace MeshDoctor.Bundle

open Machine FileTree

variable {m : Machine} {c : Collector} {t left : FileTree} {es dumps : List Exchange}
  {directory output : String} {moment : Moment} {found : Except Failure String}
  {results : List (PodRef × Except Failure Unit)}

/-! ## What ends a collection -/

theorem getLast?_aboutFiles {e : Exchange} (h : es.getLast? = some e) (he : e.1.concernsFiles) :
    (aboutFiles es).getLast? = some e := by
  obtain ⟨front, rfl⟩ := List.getLast?_eq_some_iff.mp h
  have hlast : aboutFiles [e] = [e] := List.filter_cons_of_pos he
  rw [aboutFiles_append, hlast, List.getLast?_concat]

namespace Complete

variable {pods : List Pod} {meshed : List PodRef}
  (h : Complete m c moment directory es left pods meshed results dumps)
include h

/-- Of the changes of files that a complete collection asks for, only dumps can be refused. -/
theorem accepted_or_dump {e : Exchange} (hconcerns : e.1.concernsFiles) (he : e ∈ es) :
    (∃ a, e.2 = .ok a) ∨
      ∃ pod text answer, e = ⟨.writePath (dumpPath directory pod) text, answer⟩ := by
  rw [← mem_aboutFiles hconcerns, h.aboutFiles_eq] at he
  simp only [List.mem_cons, List.mem_append, List.not_mem_nil, or_false] at he
  rcases he with rfl | rfl | (hlog | hdump) | rfl
  · exact .inl ⟨(), rfl⟩
  · exact .inl ⟨(), rfl⟩
  · obtain ⟨pod, -, text, -, rfl⟩ := exists_of_mem_logWrites hlog
    exact .inl ⟨(), rfl⟩
  · obtain ⟨pod, -, text, answer, -, rfl⟩ := h.exists_of_mem_dumps e hdump
    exact .inr ⟨pod, text, answer, rfl⟩
  · exact .inl ⟨(), rfl⟩

theorem not_obstacle : ¬ Obstacle m.world c.mesh directory es := by
  obtain ⟨namespaces, hnamespaces, hall, -⟩ := of_finds_meshedPods_ok h.meshedPods_eq
  intro hobstacle
  cases hobstacle with
  | directory hrefused =>
    obtain ⟨_, heq⟩ | ⟨_, _, _, heq⟩ := h.accepted_or_dump rfl hrefused
    · cases heq
    · cases heq
  | controllerPods hrefused => cases hrefused.symm.trans h.controllerPods_eq
  | namespaces hrefused => cases hrefused.symm.trans hnamespaces
  | podsOf hnamespaces' hns hrefused =>
    obtain rfl := Except.ok.inj (hnamespaces'.symm.trans hnamespaces)
    obtain ⟨_, hfound⟩ := hall _ hns
    cases hrefused.symm.trans hfound
  | log _ _ hrefused =>
    obtain ⟨_, heq⟩ | ⟨_, _, _, heq⟩ := h.accepted_or_dump rfl hrefused
    · cases heq
    · exact logPath_ne_dumpPath _ _ _ (write_inj heq).1
  | summary hlast =>
    have hrefused := getLast?_aboutFiles hlast rfl
    rw [h.aboutFiles_eq, ← List.cons_append, ← List.cons_append, List.getLast?_concat] at hrefused
    obtain ⟨-, -, heq⟩ := write_inj (Option.some.inj hrefused)
    cases heq

end Complete

/-- **A collection fails for one of six reasons.** -/
theorem Course.error_iff_obstacle (h : Course m c moment directory t es found left) :
    (∃ f, found = .error f) ↔ Obstacle m.world c.mesh directory es := by
  cases h with
  | stopped _ hobstacle => exact ⟨fun _ => hobstacle, fun _ => ⟨_, rfl⟩⟩
  | unindexed hlast _ => exact ⟨fun _ => .summary hlast, fun _ => ⟨_, rfl⟩⟩
  | complete h =>
    exact ⟨fun ⟨f, hf⟩ => (nomatch hf), fun hobstacle => absurd hobstacle h.not_obstacle⟩

/-! ## What a failed collection leaves -/

/-- If the request writes a file, then one whose name ends like that of logs. -/
def WritesLogs (r : Request) : Prop :=
  ∀ path, r.written? = some path → ∃ front, path = front ++ ".log"

theorem asksOnly_of_not_concerned {α : Type} {x : Lookup α}
    (hx : x.run.AsksOnly (·.concernsFiles = false)) : x.run.AsksOnly WritesLogs := by
  refine hx.mono fun r hr path hwritten => ?_
  cases r with
  | writePath _ _ => cases hr
  | _ => cases hwritten

theorem asksOnly_makeDirectory (path : String) : (makeDirectory path).run.AsksOnly WritesLogs :=
  .within (.request fun _ hwritten => nomatch hwritten) _

theorem asksOnly_addLogs (directory : String) (i : Index) (pod : PodRef) :
    (addLogs directory i pod).run.AsksOnly WritesLogs := by
  have hlogs : (request (.logs pod none)).attempt.run.AsksOnly WritesLogs :=
    asksOnly_of_not_concerned (.attempt (.request rfl))
  refine .bind hlogs fun answer => ?_
  cases answer with
  | ok logs =>
    have hwrite (text : String) : WritesLogs (.writePath (logPath directory pod) text) := by
      rintro path hwritten
      obtain rfl := Option.some.inj hwritten
      exact exists_joinPath_append _ _ _
    exact .bind (.within (.request (hwrite logs)) _) fun _ => trivial
  | error f => exact .bind (asksOnly_of_not_concerned (asksOnly_report _ _)) fun _ => trivial

theorem asksOnly_addAllLogs (directory : String) (i : Index) (pods : List PodRef) :
    (addAllLogs directory i pods).run.AsksOnly WritesLogs := by
  induction pods generalizing i with
  | nil => trivial
  | cons pod rest ih => exact .bind (asksOnly_addLogs directory i pod) ih

/-- Before the dumps, no file is written but logs. -/
theorem asksOnly_prepare (c : Collector) (moment : Moment) (directory : String) :
    (c.prepare moment directory).run.AsksOnly WritesLogs := by
  have hsurvey : (c.survey moment directory).run.AsksOnly WritesLogs := by
    refine .bind (asksOnly_of_not_concerned (c.asksOnly_addVersion _)) fun i => ?_
    refine .bind (asksOnly_of_not_concerned (asksOnly_listPods _)) fun pods => ?_
    refine .bind (asksOnly_addAllLogs directory i _) fun i => ?_
    refine .bind (asksOnly_of_not_concerned (asksOnly_meshedPods c.mesh)) fun meshed => ?_
    exact .bind (asksOnly_of_not_concerned (asksOnly_report _ _)) fun _ => trivial
  exact .bind (asksOnly_makeDirectory _) fun _ => .bind (asksOnly_makeDirectory _) fun _ => hsurvey

theorem no_summary_of_prepare {result : Except Failure (Index × List PodRef)}
    (hdirectory : directory ≠ "") (hfree : t.IsFree directory)
    (h : m.host.Runs (c.prepare moment directory) t es result left) (bytes : List UInt8) :
    left.read (summaryPath directory) ≠ .ok bytes := by
  have hway := wayOf_summaryPath hdirectory t
  have hnone : t.entry? (t.wayOf (summaryPath directory)) = none := by
    rw [hway]
    exact hfree _ (List.prefix_append _ _)
  have hlogs : ∀ e ∈ es, ∀ path, e.1.written? = some path →
      t.wayOf path ≠ t.wayOf (summaryPath directory) := by
    intro e he path hwritten heq
    rw [← h.exchanges_eq] at he
    obtain ⟨front, rfl⟩ := (asksOnly_prepare c moment directory).of_mem_exchanges he path hwritten
    obtain ⟨before, last, hlog⟩ := exists_wayOf_append t front ".log" (by decide) (by decide)
    rw [hlog, hway] at heq
    obtain ⟨-, hname⟩ := List.append_inj' heq rfl
    have hchars : (last ++ ".log").toList.getLast? = "summary.json".toList.getLast? := by
      rw [(List.cons.inj hname).1]
    simp at hchars
  intro hread
  obtain ⟨-, -, hentry⟩ := read_eq_ok_iff.mp hread
  rw [(keepsDirectories_steps h.steps).wayOf_eq, file_steps_of_ne h.steps hlogs, hnone] at hentry
  cases hentry

/-- **A collection that fails leaves no index.** -/
theorem Course.no_summary (h : Course m c moment directory t es found left)
    (hdirectory : directory ≠ "") (hfree : t.IsFree directory) (hfound : ∃ f, found = .error f)
    (bytes : List UInt8) : left.read (summaryPath directory) ≠ .ok bytes := by
  cases h with
  | stopped hrun _ => exact no_summary_of_prepare hdirectory hfree hrun bytes
  | unindexed _ hhost => exact read_of_refused hhost
  | complete h => exact nomatch hfound

/-- **A collection fails for one of six reasons** and leaves no index then. Else there is an index,
which notes every other failure once: that there is no version, that logs cannot be read, and that a
sidecar cannot be read or its configuration not be written. -/
theorem Collector.fails_iff_obstacle {limit : Nat} {x : Lookup String}
    (hx : x = c.collect output ∨ c.IsCollection limit output x) (hnow : m.world .now = .ok moment)
    (hfree : t.IsFree (bundlePath output moment)) :
    ∃ es found left, m.host.Runs x t es found left ∧
      ((∃ f, found = .error f) ↔ Obstacle m.world c.mesh (bundlePath output moment) es) ∧
      (∀ f bytes, found = .error f →
        left.read (summaryPath (bundlePath output moment)) ≠ .ok bytes) ∧
      ∀ path, found = .ok path → path = bundlePath output moment ∧
        ∃ pods meshed results, m.world.finds c.mesh.controllerPods = .ok pods ∧
          m.world.finds (meshedPods c.mesh) = .ok meshed ∧ (results.map (·.1)).Perm meshed ∧
          (∀ result ∈ results, c.TurnsOut m.world path es result.1 result.2) ∧
          left.read (summaryPath path) =
            .ok (Text.encode (c.index m.world moment (pods.map (·.ref)) results).text) ∧
          indexAt? left (summaryPath path) =
            some (c.index m.world moment (pods.map (·.ref)) results) ∧
          (c.index m.world moment (pods.map (·.ref)) results).errors =
            versionErrors m.world c.mesh ++
              (failed (podLogs m.world (pods.map (·.ref)))).map (·.2.text) ++
              (failed results).map dumpError := by
  obtain ⟨limit, hx⟩ := exists_isCollection hx
  obtain ⟨es, found, left, hrun⟩ := m.host.exists_runs x t
  have hcourse := hx.course hnow hrun
  have hdirectory := bundlePath_ne_empty output moment
  refine ⟨es, found, left, hrun, hcourse.error_iff_obstacle, ?_, ?_⟩
  · intro f bytes hfound
    exact hcourse.no_summary hdirectory hfree ⟨f, hfound⟩ bytes
  · rintro path rfl
    cases hcourse with
    | @complete _ pods meshed results dumps h =>
      exact ⟨rfl, pods, meshed, results, h.controllerPods_eq, h.meshedPods_eq, h.map_fst_perm,
        h.turnsOut, h.read_summary, h.indexAt?_summary, rfl⟩

/-! ## A shop in trouble -/

/-- Results that follow from the pods are known from the pods. -/
theorem results_perm {meshed : List PodRef} {outcome : PodRef → Except Failure Unit}
    (hfst : (results.map (·.1)).Perm meshed) (h : ∀ result ∈ results, result.2 = outcome result.1) :
    results.Perm (meshed.map fun pod => (pod, outcome pod)) := by
  have heq : results = (results.map (·.1)).map fun pod => (pod, outcome pod) := by
    rw [List.map_map]
    refine (List.map_id results).symm.trans (List.map_congr_left fun result hresult => ?_)
    exact Prod.ext rfl (h result hresult)
  rw [heq]
  exact hfst.map _

/-- A shop with three sellers in a mesh and two controllers, of which one shows no logs. -/
def troubledShop : Snapshot where
  objects :=
    [(Kind.namespaces.name, labelled "shop" none monitoredByLabel "osm"),
      (Kind.pods.name, podWithSidecar "baker" "shop"),
      (Kind.pods.name, podWithSidecar "butcher" "shop"),
      (Kind.pods.name, podWithSidecar "grocer" "shop"),
      (Kind.pods.name, labelled "controller-0" (some "osm-system") "app" "osm-controller"),
      (Kind.pods.name, labelled "controller-1" (some "osm-system") "app" "osm-controller")]
  logs := [("osm-system/controller-0", "started")]
  failures := [("logs osm-system/controller-1", "no logs")]

/-- The baker has no sidecar that can be asked, that of the butcher fails, that of the grocer
answers. -/
def troubledCollector : Collector where
  mesh := bookstoreMesh
  getter pod :=
    if pod.name = "baker" then .error (.say "no getter")
    else if pod.name = "butcher" then .ok (.canned pod (.error (.say "no config")))
    else .ok (.canned pod (.ok "configured"))

/-- Where the bundle of the shop is written. -/
def troubledPath : String := bundlePath "out" shopMoment

/-- A machine that reaches the shop and refuses one file. -/
def refusing (file : String) : Machine where
  world
    | .now => .ok shopMoment
    | r => troubledShop.world r
  refusal?
    | .writePath path _, _ => if path = file then some .denied else none
    | _, _ => none

/-- The configuration of the grocer is refused. -/
def grocerRefused : Machine := refusing (dumpPath troubledPath ⟨"shop", "grocer"⟩)

/-- The logs of the controller are refused. -/
def logsRefused : Machine := refusing (logPath troubledPath ⟨"osm-system", "controller-0"⟩)

theorem eq_of_refused {file text : String} {answer : Except Failure Unit}
    (h : (refusing file).host.Steps t es left) (he : ⟨.writePath file text, answer⟩ ∈ es) :
    answer = .error (.of (.system .denied)) := by
  obtain ⟨-, -, s, s', -, -, hhost, -⟩ := h.of_mem he
  simp only [host, refusing, if_true] at hhost
  exact (congrArg Prod.fst hhost).symm

/-- How the dumps turn out where the configuration of the grocer is refused. -/
def troubledOutcome (pod : PodRef) : Except Failure Unit :=
  if pod.name = "baker" then .error (.say "no getter")
  else if pod.name = "butcher" then .error (.say "no config")
  else .error ((Failure.of (.system .denied)).within ("Failed to write config dump for " ++ pod.text))

theorem eq_troubledOutcome {pod : PodRef} {result : Except Failure Unit}
    (hsteps : grocerRefused.host.Steps t es left)
    (hpod : pod ∈ [⟨"shop", "baker"⟩, ⟨"shop", "butcher"⟩, ⟨"shop", "grocer"⟩])
    (h : troubledCollector.TurnsOut grocerRefused.world troubledPath es pod result) :
    result = troubledOutcome pod := by
  simp only [List.mem_cons, List.not_mem_nil, or_false] at hpod
  obtain ⟨f, hdocument, rfl⟩ | ⟨text, answer, hdocument, hmem, rfl⟩ := h
  · rcases hpod with rfl | rfl | rfl
    · exact congrArg Except.error (Except.error.inj hdocument).symm
    · exact congrArg Except.error (Except.error.inj hdocument).symm
    · cases hdocument
  · rcases hpod with rfl | rfl | rfl
    · cases hdocument
    · cases hdocument
    · rw [eq_of_refused hsteps hmem]
      rfl

/-- Where the configuration of the grocer is refused, the shop has a bundle, whose index notes five
failures. Where the logs are refused, it has none. -/
theorem fails_iff_obstacle_troubledShop :
    (∃ es left i, grocerRefused.host.Runs (troubledCollector.collect "out") {} es
        (.ok troubledPath) left ∧
      ¬ Obstacle grocerRefused.world troubledCollector.mesh troubledPath es ∧
      indexAt? left (summaryPath troubledPath) = some i ∧
      i.errors.Perm ["Could not determine osm-controller version in namespace osm-system",
        "no logs", "shop/baker: no getter", "shop/butcher: no config",
        "shop/grocer: Failed to write config dump for shop/grocer: " ++
          "Permission denied (os error 13)"]) ∧
    ∃ es f left, logsRefused.host.Runs (troubledCollector.collect "out") {} es (.error f) left ∧
      Obstacle logsRefused.world troubledCollector.mesh troubledPath es ∧
      ∀ bytes, left.read (summaryPath troubledPath) ≠ .ok bytes := by
  have hfree : FileTree.IsFree {} troubledPath := isFree_bundlePath (by decide) (by decide)
  have hcollect : troubledCollector.collect "out" = troubledCollector.collect "out" ∨
      troubledCollector.IsCollection 4 "out" (troubledCollector.collect "out") := .inl rfl
  constructor
  · have hdone : ((troubledCollector.collect "out").run.runState grocerRefused.host {}).1.toBool =
        true := by decide +kernel
    obtain ⟨es, found, left, hrun, hobstacle, -, hok⟩ := Collector.fails_iff_obstacle
      (m := grocerRefused) hcollect rfl hfree
    rw [hrun.runState_eq] at hdone
    cases found with
    | error f => cases hdone
    | ok path =>
      obtain ⟨rfl, pods, meshed, results, hpods, hmeshed, hfst, hturns, -, hindex, herrors⟩ :=
        hok path rfl
      obtain rfl := Except.ok.inj hpods
      obtain rfl := Except.ok.inj hmeshed
      have hresults := results_perm hfst fun result hresult =>
        eq_troubledOutcome hrun.steps (hfst.mem_iff.mp (List.mem_map_of_mem hresult))
          (hturns result hresult)
      refine ⟨es, left, _, hrun, fun h => (nomatch hobstacle.mpr h), hindex, ?_⟩
      rw [herrors]
      exact ((hresults.filterMap _).map dumpError).append_left _
  · have hstopped : ((troubledCollector.collect "out").run.runState logsRefused.host {}).1.toBool =
        false := by decide +kernel
    obtain ⟨es, found, left, hrun, hobstacle, hnone, -⟩ := Collector.fails_iff_obstacle
      (m := logsRefused) hcollect rfl hfree
    rw [hrun.runState_eq] at hstopped
    cases found with
    | ok path => cases hstopped
    | error f =>
      exact ⟨es, f, left, hrun, hobstacle.mp ⟨f, rfl⟩, fun bytes => hnone f bytes rfl⟩

end MeshDoctor.Bundle
