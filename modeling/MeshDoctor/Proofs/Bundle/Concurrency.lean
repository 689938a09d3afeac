import MeshDoctor.Proofs.Bundle.Course
import MeshDoctor.Proofs.Bundle.Members
import MeshDoctor.Proofs.Files.Steady

/-!
# Support bundles — the order of the dumps

Some dumps are under way at the same time and may end in any order. Each of them writes to a place of
its own, so the order shows in the order of the errors only.

* `Collector.Dumped.apart`: the dumps of different pods write to different places.
* **`Collector.runs_dumps`**: in any order, every dump gets the answers that are due at the start.
* `Collector.dumps_congr`, `finish_congr`: two orders, up to the index and with it.
* **`Collector.order_independent`**: two orders lead to the same result, the same files
  and, but for the order of the errors, the same index.
-/

namespace MeshDoctor.Bundle

open Machine FileTree

variable {m : Machine} {c : Collector} {w : World} {t s s' : FileTree} {es es' dumps : List Exchange}
  {directory output : String} {moment : Moment} {order order' meshed : List PodRef}
  {results results' : List (PodRef × Except Failure Unit)} {way : List String}

namespace Collector

/-! ## Dumps -/

namespace Dumped

theorem exists_of_mem_paths (h : c.Dumped w directory order results dumps) :
    ∀ path ∈ paths dumps, ∃ pod ∈ order, path = dumpPath directory pod := by
  intro path hpath
  obtain ⟨pod, hpod, rfl⟩ := List.mem_map.mp (h.paths_sublist.subset hpath)
  exact ⟨pod, hpod, rfl⟩

theorem writesOnly (h : c.Dumped w directory order results (aboutFiles es)) : WritesOnly es := by
  intro e he hconcerns
  obtain ⟨pod, -, text, answer, -, rfl⟩ := h.exists_of_mem e ((mem_aboutFiles hconcerns).mpr he)
  exact ⟨dumpPath directory pod, text, rfl⟩

/-- **The dumps of different pods** write to different places. -/
theorem apart (h : c.Dumped w directory order results (aboutFiles es)) (hdirectory : directory ≠ "")
    (hnodup : order.Nodup) (hnames : ∀ pod ∈ order, pod.IsNamed)
    (hwalk : t.walk (t.origin (dumpDirectory directory)) (pathParts (dumpDirectory directory)) =
      .ok way) : Apart t es := by
  refine ⟨h.writesOnly, ?_, ?_⟩
  · intro path hpath
    rw [← paths_aboutFiles] at hpath
    obtain ⟨pod, hpod, rfl⟩ := h.exists_of_mem_paths path hpath
    exact ⟨way, dumpFile pod, .of_walk (dumpDirectory_ne_empty directory)
      (isPlainName_dumpFile (hnames pod hpod)) hwalk⟩
  · have hways := nodup_wayOf_dumpPath hdirectory t hnodup hnames
    have hsublist := h.paths_sublist.map t.wayOf
    rw [paths_aboutFiles] at hsublist
    exact hsublist.nodup hways

end Dumped

section Dumps

variable (hsteady : m.IsSteady) (hdirectory : directory ≠ "")
  (hwalk : t.walk (t.origin (dumpDirectory directory)) (pathParts (dumpDirectory directory)) =
    .ok way)
  (hnodup : meshed.Nodup) (hnames : ∀ pod ∈ meshed, pod.IsNamed)
include hsteady hdirectory hwalk hnodup hnames

/-- **Whatever the order**, every dump gets the answers that are due at the start. -/
theorem runs_dumps {limit : Nat} {x : Inquiry (List (PodRef × Except Failure Unit))}
    (horder : order.Perm meshed) (hx : Interleaving limit (c.dumpTasks directory order) [] x) :
    let tasks := c.dumpTasks directory meshed
    ∃ es results s, m.host.Runs (liftM x : Lookup _) t es (.ok results) s ∧ Apart t es ∧
      (results.map (·.1)).Perm meshed ∧
      results.Perm (tasks.map fun task => (task.1, task.2.run (m.due t))) ∧
      es.Perm ((tasks.flatMap fun task => task.2.trace (m.due t)).map fun r => ⟨r, m.due t r⟩) := by
  intro tasks
  obtain ⟨es₁, results₁, hall₁, hes₁, hresults₁⟩ := hx.followAll m.host t
  rw [List.append_nil] at hall₁
  have htasks : (c.dumpTasks directory order).Perm tasks := horder.map _
  obtain ⟨es, results, hall, hes₂, hresults₂⟩ := hall₁.perm htasks
  have hes := hes₁.trans hes₂
  have hresults := hresults₁.trans hresults₂
  have hrun : m.host.Runs (liftM x : Lookup _) t _ (.ok _) _ := m.host.runs_lift x t
  have hdumped : c.Dumped m.world directory meshed results (aboutFiles es) :=
    dumped_of_followAll hall fun e he => answer_of_steps hrun.steps e (hes.mem_iff.mpr he)
  have hapart := (hdumped.apart hdirectory hnodup hnames hwalk).perm hes.symm
  obtain ⟨rfl, rfl⟩ := hall.of_answers (w := m.due t) fun e he =>
    hapart.answers hrun.steps hsteady e (hes.mem_iff.mpr he)
  refine ⟨_, _, _, hrun, hapart, ?_, hresults, hes⟩
  have hfst := hresults.map (·.1)
  rwa [hdumped.map_fst] at hfst

/-- **The dumps in two orders** have the same results and leave the same files. -/
theorem dumps_congr {limit limit' : Nat} {x y : Inquiry (List (PodRef × Except Failure Unit))}
    (horder : order.Perm meshed) (hx : Interleaving limit (c.dumpTasks directory order) [] x)
    (horder' : order'.Perm meshed) (hy : Interleaving limit' (c.dumpTasks directory order') [] y) :
    ∃ es es' results results' s s', m.host.Runs (liftM x : Lookup _) t es (.ok results) s ∧
      m.host.Runs (liftM y : Lookup _) t es' (.ok results') s' ∧ results'.Perm results ∧
      (results.map (·.1)).Perm meshed ∧ t.SameDirectories s ∧ t.SameDirectories s' ∧
      ∀ way, s'.entry? way = s.entry? way := by
  obtain ⟨es, results, s, hrun, hapart, hfst, hresults, hes⟩ :=
    runs_dumps hsteady hdirectory hwalk hnodup hnames horder hx
  obtain ⟨es', results', s', hrun', hapart', -, hresults', hes'⟩ :=
    runs_dumps hsteady hdirectory hwalk hnodup hnames horder' hy
  exact ⟨es, es', results, results', s, s', hrun, hrun', hresults'.trans hresults.symm, hfst,
    sameDirectories_steps hapart.writesOnly hrun.steps,
    sameDirectories_steps hapart'.writesOnly hrun'.steps,
    hapart.entry?_perm hrun.steps hsteady (hes.trans hes'.symm) hrun'.steps⟩

end Dumps

end Collector

/-! ## The index -/

/-- **The index after two orders** is refused in both or written in both. -/
theorem finish_congr (hsteady : m.IsSteady) (hdirectory : directory ≠ "")
    (hwalk : t.walk (t.origin directory) (pathParts directory) = .ok way)
    (hs : t.SameDirectories s) (hs' : t.SameDirectories s')
    (hentries : ∀ way, s'.entry? way = s.entry? way) (c : Collector) (moment : Moment)
    (pods : List PodRef) (results results' : List (PodRef × Except Failure Unit)) :
    ∃ es es' found left left',
      m.host.Runs (Collector.finish directory (c.index m.world moment pods []) results) s
        es found left ∧
      m.host.Runs (Collector.finish directory (c.index m.world moment pods []) results') s'
        es' found left' ∧
      (∀ way, way ≠ t.wayOf (summaryPath directory) → left'.entry? way = left.entry? way) ∧
      ((∃ f, found = .error f) → ∀ way, left'.entry? way = left.entry? way) ∧
      ∀ path, found = .ok path → path = directory ∧
        left.read (summaryPath directory) =
          .ok (Text.encode (c.index m.world moment pods results).text) ∧
        left'.read (summaryPath directory) =
          .ok (Text.encode (c.index m.world moment pods results').text) := by
  have hreach : s.Reaches (summaryPath directory) way "summary.json" :=
    (Reaches.of_walk hdirectory isPlainName_summary hwalk).keep hs.keeps
  have hkeeps : s.KeepsDirectories s' :=
    ⟨hs'.here_eq.trans hs.here_eq.symm, fun h => (hentries _).trans h⟩
  have hway : s.wayOf (summaryPath directory) = t.wayOf (summaryPath directory) :=
    hs.keeps.wayOf_eq _
  rw [← hway]
  obtain ⟨es, found, left, hrun⟩ := m.host.exists_runs
    (Collector.finish directory (c.index m.world moment pods []) results) s
  obtain ⟨es', found', left', hrun'⟩ := m.host.exists_runs
    (Collector.finish directory (c.index m.world moment pods []) results') s'
  have hcases := Collector.finish_cases moment hrun
  have hcases' := Collector.finish_cases moment hrun'
  -- The texts of the two indices make no difference.
  generalize (c.index m.world moment pods results).text = text at hcases ⊢
  generalize (c.index m.world moment pods results').text = text' at hcases' ⊢
  obtain ⟨g, rfl, -, hhost⟩ | ⟨rfl, -, hhost⟩ := hcases
  · obtain ⟨g', rfl, -, hhost'⟩ | ⟨-, -, hhost'⟩ := hcases'
    · obtain ⟨heq, hothers, hall⟩ :=
        host_writePath_congr hsteady hreach hkeeps hentries hhost hhost'
      cases heq
      refine ⟨es, es', _, left, left', hrun, hrun', hothers, fun _ => hall ⟨g, rfl⟩, ?_⟩
      rintro path ⟨⟩
    · cases (host_writePath_congr hsteady hreach hkeeps hentries hhost hhost').1
  · obtain ⟨g', -, -, hhost'⟩ | ⟨rfl, -, hhost'⟩ := hcases'
    · cases (host_writePath_congr hsteady hreach hkeeps hentries hhost hhost').1
    · obtain ⟨-, hothers, -⟩ := host_writePath_congr hsteady hreach hkeeps hentries hhost hhost'
      refine ⟨es, es', _, left, left', hrun, hrun', hothers, ?_, ?_⟩
      · rintro ⟨f, ⟨⟩⟩
      rintro path ⟨⟩
      exact ⟨rfl, read_of_write (write_of_host hhost), read_of_write (write_of_host hhost')⟩

/-- **The order of the dumps shows in the order of the errors only.** However the dumps of the pods
take turns, the result is the same, the files but the index are the same, and the index notes each of
the pods once. -/
theorem Collector.order_independent {limit limit' : Nat} {x y : Lookup String}
    (hx : x = c.collect output ∨ c.IsCollection limit output x)
    (hy : y = c.collect output ∨ c.IsCollection limit' output y)
    (hsteady : m.IsSteady) (hnow : m.world .now = .ok moment)
    (hnames : ∀ meshed, m.world.finds (meshedPods c.mesh) = .ok meshed →
      meshed.Nodup ∧ ∀ pod ∈ meshed, pod.IsNamed) (t : FileTree) :
    ∃ es es' found left left', m.host.Runs x t es found left ∧ m.host.Runs y t es' found left' ∧
      (∀ way, way ≠ t.wayOf (summaryPath (bundlePath output moment)) →
        left'.entry? way = left.entry? way) ∧
      ((∃ f, found = .error f) → ∀ way, left'.entry? way = left.entry? way) ∧
      ∀ path, found = .ok path → path = bundlePath output moment ∧
        ∃ pods meshed results results', m.world.finds (meshedPods c.mesh) = .ok meshed ∧
          (succeeded results ++ (failed results).map (·.1)).Perm meshed ∧ results'.Perm results ∧
          left.read (summaryPath path) =
            .ok (Text.encode (c.index m.world moment pods results).text) ∧
          left'.read (summaryPath path) =
            .ok (Text.encode (c.index m.world moment pods results').text) ∧
          indexAt? left (summaryPath path) = some (c.index m.world moment pods results) ∧
          indexAt? left' (summaryPath path) = some (c.index m.world moment pods results') ∧
          (c.index m.world moment pods results').configDumps =
            (c.index m.world moment pods results).configDumps ∧
          (c.index m.world moment pods results').errors.Perm
            (c.index m.world moment pods results).errors := by
  obtain ⟨limit, dumps, hdumps, rfl⟩ := exists_isCollection hx
  obtain ⟨limit', dumps', hdumps', rfl⟩ := exists_isCollection hy
  have hdirectory := bundlePath_ne_empty output moment
  have hasked : m.host.Runs (request .now) t [⟨.now, .ok moment⟩] (.ok moment) t := by
    have hrequest := m.host.runs_request .now t
    rwa [m.host_of_not_concerned rfl, hnow] at hrequest
  obtain ⟨es₁, prepared, t₁, hprepare⟩ :=
    m.host.exists_runs (c.prepare moment (bundlePath output moment)) t
  obtain ⟨f, rfl, -⟩ | ⟨pods, meshed, -, hmeshed, rfl, habout⟩ := prepare_cases hprepare
  · refine ⟨_, _, .error f, t₁, t₁, hasked.bind_ok (hprepare.bind_error _),
      hasked.bind_ok (hprepare.bind_error _), fun _ _ => rfl, fun _ _ => rfl, ?_⟩
    rintro path ⟨⟩
  obtain ⟨hnodup, hnamed⟩ := hnames meshed hmeshed
  have hmade : ⟨.makeDirectories (dumpDirectory (bundlePath output moment)), .ok ()⟩ ∈ es₁ := by
    rw [← mem_aboutFiles rfl, habout]
    exact List.mem_cons_of_mem _ List.mem_cons_self
  have hwalk := reached_of_made hprepare.steps hmade
  obtain ⟨order, horder, hinterleaving⟩ := hdumps (bundlePath output moment) meshed
  obtain ⟨order', horder', hinterleaving'⟩ := hdumps' (bundlePath output moment) meshed
  obtain ⟨es₂, es₂', results, results', s, s', hrun, hrun', hresults, hfst, hs, hs', hentries⟩ :=
    dumps_congr hsteady hdirectory hwalk hnodup hnamed horder hinterleaving horder' hinterleaving'
  obtain ⟨es₃, es₃', found, left, left', hfinish, hfinish', hothers, hall, hread⟩ :=
    finish_congr hsteady hdirectory
      (walk_of_walk_joinPath hdirectory isPlainName_configDumps hwalk) hs hs' hentries c moment
      (pods.map (·.ref)) results results'
  rw [(keepsDirectories_steps hprepare.steps).wayOf_eq] at hothers
  refine ⟨_, _, found, left, left', hasked.bind_ok (hprepare.bind_ok (hrun.bind_ok hfinish)),
    hasked.bind_ok (hprepare.bind_ok (hrun'.bind_ok hfinish')), hothers, hall, ?_⟩
  intro path hfound
  obtain ⟨rfl, hleft, hleft'⟩ := hread path hfound
  obtain ⟨hindex, herrors⟩ := c.index_perm m.world moment (pods.map (·.ref)) hresults.symm
  refine ⟨rfl, pods.map (·.ref), meshed, results, results', hmeshed, ?_, hresults, ?_, ?_, ?_, ?_, ?_,
    ?_⟩
  · exact (succeeded_append_failed_perm results).trans hfst
  · exact hleft
  · exact hleft'
  · exact indexAt?_of_read hleft
  · exact indexAt?_of_read hleft'
  · exact congrArg (·.configDumps) hindex
  · exact herrors

/-- The bundle of the shop has the same files if its pods are done with in the opposite order. The two
indices in them account for both pods and agree but for the order of the errors. -/
theorem order_independent_shop : ∃ es es' path left left' i i',
  ∃ results results' : List (PodRef × Except Failure Unit),
    shopMachine.host.Runs (shopCollector.collect "out") {} es (.ok path) left ∧
      shopMachine.host.Runs (shopCollector.collectWith
        (fun directory pods => Inquiry.inTurn (shopCollector.dumpTasks directory pods.reverse))
        "out") {} es' (.ok path) left' ∧
      (∀ way, way ≠ ({} : FileTree).wayOf (summaryPath (bundlePath "out" shopMoment)) →
        left'.entry? way = left.entry? way) ∧
      indexAt? left (summaryPath path) = some i ∧ indexAt? left' (summaryPath path) = some i' ∧
      i.configDumps = Collector.sortNames ((succeeded results).map dumpFile) ∧
      i'.configDumps = i.configDumps ∧ i'.errors.Perm i.errors ∧ results'.Perm results ∧
      (succeeded results ++ (failed results).map (·.1)).Perm
        [⟨"shop", "buyer"⟩, ⟨"shop", "seller"⟩] := by
  have hcollect : shopCollector.collect "out" = shopCollector.collect "out" ∨
      shopCollector.IsCollection 4 "out" (shopCollector.collect "out") := .inl rfl
  have hreversed : shopCollector.IsCollection 4 "out" (shopCollector.collectWith
      (fun directory pods => Inquiry.inTurn (shopCollector.dumpTasks directory pods.reverse))
      "out") :=
    ⟨_, fun directory pods => ⟨pods.reverse, pods.reverse_perm, .inTurn (by decide) _⟩, rfl⟩
  have hnames (meshed) (h : shopMachine.world.finds (meshedPods shopCollector.mesh) = .ok meshed) :
      meshed.Nodup ∧ ∀ pod ∈ meshed, pod.IsNamed := by
    obtain ⟨hnodup, hmem⟩ := isNamed_meshedShop.of_finds_meshedPods (w := shopMachine.world)
      (by decide) (fun _ _ => rfl) h
    exact ⟨hnodup, fun pod hpod => isNamed_meshedShop.isNamed_of_isMeshed ((hmem pod).mp hpod)⟩
  have hdone : ((shopCollector.collect "out").run.runState shopMachine.host {}).1.toBool = true := by
    decide +kernel
  obtain ⟨es, es', found, left, left', hrun, hrun', hothers, -, hok⟩ :=
    Collector.order_independent (m := shopMachine) hcollect (.inr hreversed)
      (fun _ _ _ _ _ => rfl) rfl hnames {}
  rw [hrun.runState_eq] at hdone
  cases found with
  | error f => cases hdone
  | ok path =>
    obtain ⟨rfl, pods, meshed, results, results', hmeshed, hpods, hresults, -, -, hindex, hindex',
      hdumps, herrors⟩ := hok path rfl
    obtain rfl := Except.ok.inj hmeshed
    exact ⟨es, es', _, left, left', _, _, results, results', hrun, hrun', hothers, hindex, hindex', rfl,
      hdumps, herrors, hresults, hpods⟩

end MeshDoctor.Bundle
