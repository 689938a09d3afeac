import MeshDoctor.Proofs.Bundle.Cases
import MeshDoctor.Proofs.Bundle.Names

/-!
# Support bundles — how a whole collection can go on a machine

* `Complete`: a collection ends with a bundle.
* **`Collector.IsCollection.course`**: it does, or it stops before the dumps, or its index is refused.
* `Collector.TurnsOut`: what the dump of a pod finds, by what was exchanged.
* `Complete.map_fst_perm`, `Complete.turnsOut`, `Complete.exists_of_mem_dumps`,
  `Complete.read_summary`, `Complete.indexAt?_summary`: the dumps and the index of a complete
  collection.
-/

namespace MeshDoctor.Bundle

open Machine FileTree

/-! ## Whole collections -/

/-- The collection ends with a bundle: the pods of the controller and of the mesh, the results of the
dumps and what the machine answers to their writes. -/
structure Complete (m : Machine) (c : Collector) (moment : Moment) (directory : String)
    (es : List Exchange) (left : FileTree) (pods : List Pod) (meshed : List PodRef)
    (results : List (PodRef × Except Failure Unit)) (dumps : List Exchange) : Prop where
  controllerPods_eq : m.world.finds c.mesh.controllerPods = .ok pods
  meshedPods_eq : m.world.finds (meshedPods c.mesh) = .ok meshed
  dumped : ∃ order results' dumps', order.Perm meshed ∧ results.Perm results' ∧ dumps.Perm dumps' ∧
    c.Dumped m.world directory order results' dumps'
  aboutFiles_eq : aboutFiles es = ⟨.makeDirectories (logDirectory directory), .ok ()⟩ ::
    ⟨.makeDirectories (dumpDirectory directory), .ok ()⟩ ::
      (logWrites m.world directory (pods.map (·.ref)) ++ dumps ++
        [⟨.writePath (summaryPath directory)
          (c.index m.world moment (pods.map (·.ref)) results).text, .ok ()⟩])
  written : ∃ s, m.host (.writePath (summaryPath directory)
    (c.index m.world moment (pods.map (·.ref)) results).text) s = (.ok (), left)

/-- How a collection can go: the exchanges, what is found and the files that are left. -/
inductive Course (m : Machine) (c : Collector) (moment : Moment) (directory : String) (t : FileTree)
    (es : List Exchange) : Except Failure String → FileTree → Prop where
  /-- It stops before the dumps. -/
  | stopped {es' : List Exchange} {f : Failure} {left : FileTree}
    (hrun : m.host.Runs (c.prepare moment directory) t es' (.error f) left)
    (h : Obstacle m.world c.mesh directory es) : Course m c moment directory t es (.error f) left
  /-- The index is refused. -/
  | unindexed {text : String} {f g : Failure} {s left : FileTree}
    (hlast : es.getLast? = some ⟨.writePath (summaryPath directory) text, .error g⟩)
    (hhost : m.host (.writePath (summaryPath directory) text) s = (.error g, left)) :
    Course m c moment directory t es (.error f) left
  /-- It ends with a bundle. -/
  | complete {left : FileTree} {pods : List Pod} {meshed : List PodRef}
    {results : List (PodRef × Except Failure Unit)} {dumps : List Exchange}
    (h : Complete m c moment directory es left pods meshed results dumps) :
    Course m c moment directory t es (.ok directory) left

/-- **How a collection can go.** -/
theorem Collector.IsCollection.course {m : Machine} {c : Collector} {limit : Nat} {output : String}
    {x : Lookup String} {moment : Moment} {t left : FileTree} {es : List Exchange}
    {found : Except Failure String} (hx : c.IsCollection limit output x)
    (hnow : m.world .now = .ok moment) (h : m.host.Runs x t es found left) :
    Course m c moment (bundlePath output moment) t es found left := by
  obtain ⟨dumps, hdumps, rfl⟩ := hx
  rw [collectWith] at h
  obtain ⟨f, hasked, -⟩ | ⟨found', es₁, t₁, rest₁, hasked, h₁, rfl⟩ := h.bind_cases
  · have hanswer := (hasked.of_request).2
    rw [m.host_of_not_concerned rfl, hnow] at hanswer
    cases hanswer
  obtain ⟨rfl, hanswer⟩ := hasked.of_request
  rw [m.host_of_not_concerned rfl, hnow] at hanswer
  cases hanswer
  obtain ⟨f, hprepare, rfl⟩ | ⟨⟨i, pods⟩, es₂, t₂, rest₂, hprepare, h₂, rfl⟩ := h₁.bind_cases
  · obtain ⟨f, heq, hobstacle⟩ | ⟨_, _, -, -, heq, -⟩ := prepare_cases hprepare
    · exact .stopped hprepare (hobstacle.append_left _)
    · cases heq
  obtain ⟨f, heq, -⟩ | ⟨controllers, meshed, hcontrollers, hmeshed, heq, habout₂⟩ :=
    prepare_cases hprepare
  · cases heq
  cases heq
  obtain ⟨f, hdump, rfl⟩ | ⟨results, es₃, t₃, rest₃, hdump, hfinish, rfl⟩ := h₂.bind_cases
  · cases (hdump.of_lift).2.1
  obtain ⟨order, horder, hinterleaving⟩ := hdumps (bundlePath output moment) pods
  obtain ⟨es', results', hall, hes, hresults⟩ := hinterleaving.followAll m.host t₂
  rw [List.append_nil] at hall
  obtain ⟨rfl, heq, -⟩ := hdump.of_lift
  obtain rfl := Except.ok.inj heq
  have hanswers : ∀ e ∈ es', e.1.concernsFiles = false → e.2 = m.world e.1 := fun e he =>
    answer_of_steps hdump.steps e (hes.mem_iff.mpr he)
  have hdumped := dumped_of_followAll hall hanswers
  obtain ⟨g, rfl, hlast, hhost⟩ | ⟨rfl, habout₄, hhost⟩ := finish_cases moment hfinish
  · refine .unindexed ?_ hhost
    simp only [List.getLast?_append, hlast, Option.some_or]
  · refine .complete ⟨hcontrollers, hmeshed,
      ⟨order, results', _, horder, hresults, hes.filter _, hdumped⟩, ?_, _, hhost⟩
    rw [aboutFiles_append, aboutFiles_append, aboutFiles_append, habout₂, habout₄,
      List.append_assoc]
    rfl

variable {m : Machine} {c : Collector} {w : World} {left : FileTree} {es dumps : List Exchange}
  {directory : String} {moment : Moment} {order : List PodRef}
  {results : List (PodRef × Except Failure Unit)}

/-! ## Dumps -/

namespace Collector

/-- The dump of a pod fails with its sidecar, or it goes like the attempt to write its file. -/
def TurnsOut (c : Collector) (w : World) (directory : String) (es : List Exchange) (pod : PodRef)
    (result : Except Failure Unit) : Prop :=
  (∃ f, c.document w pod = .error f ∧ result = .error f) ∨
    ∃ text answer, c.document w pod = .ok text ∧
      ⟨.writePath (dumpPath directory pod) text, answer⟩ ∈ es ∧
      result = addContext ("Failed to write config dump for " ++ pod.text) answer

namespace Dumped

theorem map_fst (h : c.Dumped w directory order results dumps) : results.map (·.1) = order := by
  induction h with
  | nil => rfl
  | unread _ _ ih => exact congrArg (_ :: ·) ih
  | tried _ _ _ ih => exact congrArg (_ :: ·) ih

theorem turnsOut (h : c.Dumped w directory order results dumps) :
    ∀ result ∈ results, c.TurnsOut w directory dumps result.1 result.2 := by
  induction h with
  | nil => exact fun _ hresult => (nomatch hresult)
  | unread hdocument _ ih =>
    rintro result (_ | ⟨_, hresult⟩)
    · exact .inl ⟨_, hdocument, rfl⟩
    · exact ih result hresult
  | tried answer hdocument _ ih =>
    rintro result (_ | ⟨_, hresult⟩)
    · exact .inr ⟨_, answer, hdocument, List.mem_cons_self, rfl⟩
    · obtain hunread | ⟨text, answer', htext, hmem, heq⟩ := ih result hresult
      · exact .inl hunread
      · exact .inr ⟨text, answer', htext, List.mem_cons_of_mem _ hmem, heq⟩

theorem paths_sublist (h : c.Dumped w directory order results dumps) :
    (paths dumps).Sublist (order.map (dumpPath directory)) := by
  induction h with
  | nil => exact .slnil
  | unread _ _ ih => exact ih.cons _
  | tried _ _ _ ih => exact ih.cons_cons _

theorem exists_of_mem (h : c.Dumped w directory order results dumps) :
    ∀ e ∈ dumps, ∃ pod ∈ order, ∃ text answer, c.document w pod = .ok text ∧
      e = ⟨.writePath (dumpPath directory pod) text, answer⟩ := by
  induction h with
  | nil => exact fun _ he => (nomatch he)
  | unread _ _ ih =>
    intro e he
    obtain ⟨pod, hpod, hwrite⟩ := ih e he
    exact ⟨pod, List.mem_cons_of_mem _ hpod, hwrite⟩
  | tried answer hdocument _ ih =>
    rintro e (_ | ⟨_, he⟩)
    · exact ⟨_, List.mem_cons_self, _, answer, hdocument, rfl⟩
    · obtain ⟨pod, hpod, hwrite⟩ := ih e he
      exact ⟨pod, List.mem_cons_of_mem _ hpod, hwrite⟩

end Dumped

end Collector

/-! ## Logs -/

theorem exists_of_mem_logWrites {pods : List PodRef} {e : Exchange}
    (h : e ∈ logWrites w directory pods) : ∃ pod ∈ pods, ∃ text, w (.logs pod none) = .ok text ∧
      e = ⟨.writePath (logPath directory pod) text, .ok ()⟩ := by
  obtain ⟨pod, hpod, hwrite⟩ := List.mem_filterMap.mp h
  refine ⟨pod, hpod, ?_⟩
  cases hlogs : w (.logs pod none) with
  | error f =>
    simp only [hlogs] at hwrite
    cases hwrite
  | ok text =>
    simp only [hlogs, Option.some.injEq] at hwrite
    exact ⟨text, rfl, hwrite.symm⟩

/-! ## Complete collections -/

namespace Complete

variable {pods : List Pod} {meshed : List PodRef}
  (h : Complete m c moment directory es left pods meshed results dumps)
include h

theorem map_fst_perm : (results.map (·.1)).Perm meshed := by
  obtain ⟨order, results', dumps', horder, hresults, -, hdumped⟩ := h.dumped
  refine (hresults.map _).trans ?_
  rwa [hdumped.map_fst]

theorem exists_of_mem_dumps : ∀ e ∈ dumps, ∃ pod ∈ meshed, ∃ text answer,
    c.document m.world pod = .ok text ∧ e = ⟨.writePath (dumpPath directory pod) text, answer⟩ := by
  obtain ⟨order, results', dumps', horder, -, hdumps, hdumped⟩ := h.dumped
  intro e he
  obtain ⟨pod, hpod, hwrite⟩ := hdumped.exists_of_mem e (hdumps.mem_iff.mp he)
  exact ⟨pod, horder.mem_iff.mp hpod, hwrite⟩

theorem mem_of_mem_dumps : ∀ e ∈ dumps, e ∈ es := by
  intro e he
  obtain ⟨pod, -, text, answer, -, rfl⟩ := h.exists_of_mem_dumps e he
  rw [← mem_aboutFiles rfl, h.aboutFiles_eq]
  simp [he]

theorem turnsOut : ∀ result ∈ results, c.TurnsOut m.world directory es result.1 result.2 := by
  obtain ⟨order, results', dumps', -, hresults, hdumps, hdumped⟩ := h.dumped
  intro result hresult
  obtain hunread | ⟨text, answer, htext, hmem, heq⟩ :=
    hdumped.turnsOut result (hresults.mem_iff.mp hresult)
  · exact .inl hunread
  · exact .inr ⟨text, answer, htext, h.mem_of_mem_dumps _ (hdumps.mem_iff.mpr hmem), heq⟩

/-- The index of a complete collection can be read. -/
theorem read_summary : left.read (summaryPath directory) =
    .ok (Text.encode (c.index m.world moment (pods.map (·.ref)) results).text) := by
  obtain ⟨s, hhost⟩ := h.written
  exact read_of_write (write_of_host hhost)

theorem indexAt?_summary : indexAt? left (summaryPath directory) =
    some (c.index m.world moment (pods.map (·.ref)) results) :=
  indexAt?_of_read h.read_summary

end Complete

end MeshDoctor.Bundle
