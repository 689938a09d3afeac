import MeshDoctor.Proofs.Bundle.Course
import MeshDoctor.Proofs.Bundle.Members

/-!
# Support bundles — what a bundle holds

Where no file is refused, a bundle holds everything that can be read of the mesh, and its index says
why the rest is missing.

* `Explains`: a list says why pods are without a result; `Explains.perm`: only one list does.
* `Collector.IsPart`, `Complete.isPart`: what belongs to a bundle, and that nothing else is in it.
* `Complete.nodup_ways`: no file of a bundle takes the place of another one.
* `Complete.mem_configDumps_iff`, `Complete.nodup_configDumps`: which configurations the index names.
* **`Collector.holds_all`**: the logs of the controller and the configurations of the
  mesh are in the bundle or in the errors of its index, and nothing else is in the bundle.
-/

namespace MeshDoctor.Bundle

open Machine FileTree

variable {m : Machine} {c : Collector} {t left : FileTree} {es dumps : List Exchange}
  {directory output : String} {moment : Moment} {w : World} {cluster : Snapshot}
  {results : List (PodRef × Except Failure Unit)}

/-! ## Explanations -/

/-- The list says of every pod in question that is without a result why, of each of them once and of
no other pod. -/
structure Explains {α : Type} (asked : PodRef → Prop) (result : PodRef → Except Failure α)
    (reasons : List (PodRef × Failure)) : Prop where
  nodup : (reasons.map (·.1)).Nodup
  mem_iff (pod : PodRef) (f : Failure) : (pod, f) ∈ reasons ↔ asked pod ∧ result pod = .error f

/-- Up to the order, only one list explains the failures of pods. -/
theorem Explains.perm {α : Type} {asked : PodRef → Prop} {result : PodRef → Except Failure α}
    {reasons : List (PodRef × Failure)} {pods : List PodRef} (h : Explains asked result reasons)
    (hnodup : pods.Nodup) (hpods : ∀ pod, pod ∈ pods ↔ asked pod) :
    reasons.Perm (failed (pods.map fun pod => (pod, result pod))) := by
  have hfailed : (failed (pods.map fun pod => (pod, result pod))).Nodup := by
    refine .of_map (·.1) ((failed_sublist _).nodup ?_)
    rw [List.map_map]
    exact (List.map_id pods).symm ▸ hnodup
  refine (List.perm_ext_iff_of_nodup (.of_map _ h.nodup) hfailed).mpr fun ⟨pod, f⟩ => ?_
  rw [h.mem_iff, mem_failed, List.mem_map, ← hpods]
  constructor
  · rintro ⟨hpod, hresult⟩
    exact ⟨pod, hpod, by rw [hresult]⟩
  · rintro ⟨other, hpod, heq⟩
    obtain ⟨rfl, hresult⟩ := Prod.mk.inj heq
    exact ⟨hpod, hresult⟩

theorem explains_logs {mesh : Mesh} {controllers meshed : List PodRef}
    (hmembers : cluster.Members mesh controllers meshed) (w : World) :
    Explains (cluster.IsController mesh) (fun pod => w (.logs pod none))
      (failed (podLogs w controllers)) := by
  refine ⟨?_, fun pod f => ?_⟩
  · refine (failed_sublist _).nodup ?_
    rw [map_fst_podLogs]
    exact hmembers.nodup_controllers
  · rw [mem_failed, mem_podLogs, hmembers.mem_controllers]
    exact Iff.rfl

/-! ## The files of a bundle -/

/-- The way leads to the index, to logs of the controller or to a configuration of the mesh. -/
def Collector.IsPart (c : Collector) (cluster : Snapshot) (w : World) (t : FileTree)
    (directory : String) (way : List String) : Prop :=
  way = t.wayOf (summaryPath directory) ∨
    (∃ pod text, cluster.IsController c.mesh pod ∧ w (.logs pod none) = .ok text ∧
      way = t.wayOf (logPath directory pod)) ∨
    ∃ pod text, cluster.IsMeshed c.mesh pod ∧ c.document w pod = .ok text ∧
      way = t.wayOf (dumpPath directory pod)

/-- The configuration of a pod is part of a bundle only if it can be read. -/
theorem Collector.IsPart.exists_document {pod : PodRef}
    (h : c.IsPart cluster w t directory (t.wayOf (dumpPath directory pod)))
    (hnamed : cluster.IsNamed) (hdirectory : directory ≠ "")
    (hpod : cluster.IsMeshed c.mesh pod) : ∃ text, c.document w pod = .ok text := by
  have hnames := hnamed.isNamed_of_isMeshed hpod
  have hway := wayOf_dumpPath hdirectory t hnames
  obtain heq | ⟨pod', text, hpod', -, heq⟩ | ⟨pod', text, hpod', hdocument, heq⟩ := h
  · rw [hway, wayOf_summaryPath hdirectory] at heq
    simp at heq
  · rw [hway, wayOf_logPath hdirectory t (hnamed.isName_of_isController hpod')] at heq
    simp at heq
  · rw [hway, wayOf_dumpPath hdirectory t (hnamed.isNamed_of_isMeshed hpod')] at heq
    have hsame : dumpFile pod = dumpFile pod' := by simpa using heq
    obtain rfl := dumpFile_inj hnames (hnamed.isNamed_of_isMeshed hpod') hsame
    exact ⟨text, hdocument⟩

theorem paths_logWrites_sublist (w : World) (directory : String) (pods : List PodRef) :
    (paths (logWrites w directory pods)).Sublist (pods.map (logPath directory)) := by
  induction pods with
  | nil => exact .slnil
  | cons pod pods ih =>
    rw [logWrites, List.filterMap_cons, List.map_cons]
    cases w (.logs pod none) with
    | ok logs => exact ih.cons_cons _
    | error f => exact ih.cons _

theorem exists_of_mem_logPaths {pods : List PodRef} {path : String}
    (hpath : path ∈ paths (logWrites w directory pods)) :
    ∃ pod ∈ pods, path = logPath directory pod := by
  obtain ⟨pod, hpod, rfl⟩ := List.mem_map.mp ((paths_logWrites_sublist ..).subset hpath)
  exact ⟨pod, hpod, rfl⟩

namespace Complete

variable {pods : List Pod} {meshed : List PodRef}
  (h : Complete m c moment directory es left pods meshed results dumps)
include h

theorem paths_eq : paths es = paths (logWrites m.world directory (pods.map (·.ref))) ++
    paths dumps ++ [summaryPath directory] := by
  rw [← paths_aboutFiles, h.aboutFiles_eq, paths_cons_of_not_written rfl,
    paths_cons_of_not_written rfl, paths_append, paths_append]
  rfl

theorem exists_of_mem_dumpPaths {path : String} (hpath : path ∈ paths dumps) :
    ∃ pod ∈ meshed, path = dumpPath directory pod := by
  obtain ⟨e, he, hwritten⟩ := List.mem_filterMap.mp hpath
  obtain ⟨pod, hpod, text, answer, -, rfl⟩ := h.exists_of_mem_dumps e he
  exact ⟨pod, hpod, (Option.some.inj hwritten).symm⟩

section Members

variable (hnamed : cluster.IsNamed) (hmembers : cluster.Members c.mesh (pods.map (·.ref)) meshed)
  (hdirectory : directory ≠ "")
include hnamed hmembers hdirectory

/-- No file of a bundle takes the place of another one. -/
theorem nodup_ways (t : FileTree) : ((paths es).map t.wayOf).Nodup := by
  have hname : ∀ pod ∈ pods.map (·.ref), IsKubernetesName pod.name := fun pod hpod =>
    hnamed.isName_of_isController ((hmembers.mem_controllers pod).mp hpod)
  have hnames : ∀ pod ∈ meshed, pod.IsNamed := fun pod hpod =>
    hnamed.isNamed_of_isMeshed ((hmembers.mem_meshed pod).mp hpod)
  have hlogs : ((paths (logWrites m.world directory (pods.map (·.ref)))).map t.wayOf).Nodup := by
    have hsublist := (paths_logWrites_sublist m.world directory (pods.map (·.ref))).map t.wayOf
    exact hsublist.nodup (nodup_wayOf_logPath hdirectory t hmembers.nodup_controllers
      (fun pod hpod => ((hmembers.mem_controllers pod).mp hpod).1) hname)
  have hdumps : ((paths dumps).map t.wayOf).Nodup := by
    obtain ⟨order, results', dumps', horder, -, hperm, hdumped⟩ := h.dumped
    have hsublist := hdumped.paths_sublist.map t.wayOf
    refine ((hperm.filterMap _).map t.wayOf).nodup_iff.mpr (hsublist.nodup ?_)
    exact nodup_wayOf_dumpPath hdirectory t (horder.nodup_iff.mpr hmembers.nodup_meshed)
      fun pod hpod => hnames pod (horder.mem_iff.mp hpod)
  rw [h.paths_eq, List.map_append, List.map_append, List.nodup_append, List.nodup_append]
  refine ⟨⟨hlogs, hdumps, ?_⟩, List.nodup_singleton _, ?_⟩
  · intro way hway way' hway' heq
    obtain ⟨path, hpath, rfl⟩ := List.mem_map.mp hway
    obtain ⟨path', hpath', rfl⟩ := List.mem_map.mp hway'
    obtain ⟨pod, hpod, rfl⟩ := exists_of_mem_logPaths hpath
    obtain ⟨pod', hpod', rfl⟩ := h.exists_of_mem_dumpPaths hpath'
    rw [wayOf_logPath hdirectory t (hname pod hpod),
      wayOf_dumpPath hdirectory t (hnames pod' hpod')] at heq
    simp at heq
  · intro way hway way' hway' heq
    obtain rfl := List.mem_singleton.mp hway'
    rw [wayOf_summaryPath hdirectory] at heq
    subst heq
    rcases List.mem_append.mp hway with hway | hway
    · obtain ⟨path, hpath, hsame⟩ := List.mem_map.mp hway
      obtain ⟨pod, hpod, rfl⟩ := exists_of_mem_logPaths hpath
      rw [wayOf_logPath hdirectory t (hname pod hpod)] at hsame
      simp at hsame
    · obtain ⟨path, hpath, hsame⟩ := List.mem_map.mp hway
      obtain ⟨pod, hpod, rfl⟩ := h.exists_of_mem_dumpPaths hpath
      rw [wayOf_dumpPath hdirectory t (hnames pod hpod)] at hsame
      simp at hsame

end Members

/-- What is written is the index, logs of the controller or a configuration of the mesh. -/
theorem cases_of_write {path text : String} {answer : Except Failure Unit}
    (he : ⟨.writePath path text, answer⟩ ∈ es) :
    path = summaryPath directory ∨
      (∃ pod ∈ pods.map (·.ref), m.world (.logs pod none) = .ok text ∧
        path = logPath directory pod) ∨
      ∃ pod ∈ meshed, c.document m.world pod = .ok text ∧ path = dumpPath directory pod := by
  rw [← mem_aboutFiles rfl, h.aboutFiles_eq] at he
  simp only [List.mem_cons, List.mem_append, List.not_mem_nil, or_false] at he
  rcases he with he | he | (he | he) | he
  · cases he
  · cases he
  · obtain ⟨pod, hpod, logs, hlogs, heq⟩ := exists_of_mem_logWrites he
    cases heq
    exact .inr (.inl ⟨pod, hpod, hlogs, rfl⟩)
  · obtain ⟨pod, hpod, document, answer', hdocument, heq⟩ := h.exists_of_mem_dumps _ he
    cases heq
    exact .inr (.inr ⟨pod, hpod, hdocument, rfl⟩)
  · exact .inl (write_inj he).1

theorem mem_of_logs {pod : PodRef} {text : String} (hpod : pod ∈ pods.map (·.ref))
    (hlogs : m.world (.logs pod none) = .ok text) :
    ⟨.writePath (logPath directory pod) text, .ok ()⟩ ∈ es := by
  have hmem : ⟨.writePath (logPath directory pod) text, .ok ()⟩ ∈
      logWrites m.world directory (pods.map (·.ref)) := by
    refine List.mem_filterMap.mpr ⟨pod, hpod, ?_⟩
    simp only [hlogs]
  rw [← mem_aboutFiles rfl, h.aboutFiles_eq]
  simp [hmem]

theorem exists_result {pod : PodRef} (hpod : pod ∈ meshed) :
    ∃ result, (pod, result) ∈ results := by
  obtain ⟨result, hresult, rfl⟩ := List.mem_map.mp (h.map_fst_perm.mem_iff.mpr hpod)
  exact ⟨result.2, hresult⟩

section Accepted

variable (haccepted : ∀ path text f, ⟨.writePath path text, .error f⟩ ∉ es)
include haccepted

/-- A dump has a result if its document can be read. -/
theorem result_cases {pod : PodRef} {result : Except Failure Unit}
    (hresult : (pod, result) ∈ results) :
    (∃ f, c.document m.world pod = .error f ∧ result = .error f) ∨
      ∃ text, c.document m.world pod = .ok text ∧
        ⟨.writePath (dumpPath directory pod) text, .ok ()⟩ ∈ es ∧ result = .ok () := by
  obtain hunread | ⟨text, answer, hdocument, hmem, heq⟩ := h.turnsOut _ hresult
  · exact .inl hunread
  · cases answer with
    | error f => exact absurd hmem (haccepted _ _ f)
    | ok u => exact .inr ⟨text, hdocument, hmem, heq⟩

theorem explains_dumps (hmembers : cluster.Members c.mesh (pods.map (·.ref)) meshed) :
    Explains (cluster.IsMeshed c.mesh) (c.document m.world) (failed results) := by
  refine ⟨?_, fun pod f => ?_⟩
  · exact (failed_sublist results).nodup (h.map_fst_perm.nodup_iff.mpr hmembers.nodup_meshed)
  · rw [mem_failed, ← hmembers.mem_meshed]
    constructor
    · intro hresult
      refine ⟨h.map_fst_perm.mem_iff.mp (List.mem_map.mpr ⟨_, hresult, rfl⟩), ?_⟩
      obtain ⟨f', hdocument, heq⟩ | ⟨text, -, -, heq⟩ := h.result_cases haccepted hresult
      · rw [hdocument]
        exact congrArg Except.error (Except.error.inj heq).symm
      · cases heq
    · rintro ⟨hpod, hdocument⟩
      obtain ⟨result, hresult⟩ := h.exists_result hpod
      obtain ⟨f', hdocument', rfl⟩ | ⟨text, hdocument', -⟩ := h.result_cases haccepted hresult
      · rw [hdocument] at hdocument'
        rwa [Except.error.inj hdocument']
      · rw [hdocument] at hdocument'
        cases hdocument'

section Members

variable (hnamed : cluster.IsNamed) (hmembers : cluster.Members c.mesh (pods.map (·.ref)) meshed)
include hnamed hmembers

/-- The index names the configurations of the pods whose documents can be read. -/
theorem mem_configDumps_iff {pod : PodRef} (hpod : pod ∈ meshed) :
    dumpFile pod ∈ (c.index m.world moment (pods.map (·.ref)) results).configDumps ↔
      ∃ text, c.document m.world pod = .ok text := by
  rw [Collector.index, (Collector.sortNames_perm _).mem_iff, List.mem_map]
  constructor
  · rintro ⟨pod', hsucceeded, hfile⟩
    obtain ⟨u, hresult⟩ := mem_succeeded.mp hsucceeded
    have hpod' := h.map_fst_perm.mem_iff.mp (List.mem_map_of_mem hresult)
    obtain rfl := dumpFile_inj (hnamed.isNamed_of_isMeshed ((hmembers.mem_meshed pod').mp hpod'))
      (hnamed.isNamed_of_isMeshed ((hmembers.mem_meshed pod).mp hpod)) hfile
    obtain ⟨f, -, heq⟩ | ⟨text, hdocument, -⟩ := h.result_cases haccepted hresult
    · cases heq
    · exact ⟨text, hdocument⟩
  · rintro ⟨text, hdocument⟩
    obtain ⟨result, hresult⟩ := h.exists_result hpod
    obtain ⟨f, hunread, -⟩ | ⟨text', -, -, rfl⟩ := h.result_cases haccepted hresult
    · rw [hdocument] at hunread
      cases hunread
    · exact ⟨pod, mem_succeeded.mpr ⟨(), hresult⟩, rfl⟩

omit haccepted in
theorem nodup_configDumps :
    (c.index m.world moment (pods.map (·.ref)) results).configDumps.Nodup := by
  have hpods := (succeeded_sublist results).nodup
    (h.map_fst_perm.nodup_iff.mpr hmembers.nodup_meshed)
  have hnames : ∀ pod ∈ succeeded results, pod.IsNamed := fun pod hpod =>
    hnamed.isNamed_of_isMeshed ((hmembers.mem_meshed pod).mp
      (h.map_fst_perm.mem_iff.mp ((succeeded_sublist results).subset hpod)))
  rw [Collector.index, (Collector.sortNames_perm _).nodup_iff]
  refine List.pairwise_map.mpr (hpods.imp_of_mem fun {pod pod'} hpod hpod' hne heq => hne ?_)
  exact dumpFile_inj (hnames pod hpod) (hnames pod' hpod') heq

end Members

/-- Below the directory there was nothing, so every file there was written. -/
theorem isPart (hsteps : m.host.Steps t es left) (hnamed : cluster.IsNamed)
    (hmembers : cluster.Members c.mesh (pods.map (·.ref)) meshed) (hdirectory : directory ≠ "")
    (hfree : t.IsFree directory) {way : List String} {bytes : List UInt8}
    (hbelow : left.wayOf directory <+: way) (hfile : left.entry? way = some (.file bytes)) :
    c.IsPart cluster m.world left directory way := by
  have hways := (keepsDirectories_steps hsteps).wayOf_eq
  rw [hways] at hbelow
  obtain ⟨path, text, he, rfl, -⟩ | ⟨-, hthere⟩ :=
    (file_steps_iff hsteps haccepted (h.nodup_ways hnamed hmembers hdirectory t)).mp hfile
  · rw [← hways]
    obtain rfl | ⟨pod, hpod, hlogs, rfl⟩ | ⟨pod, hpod, hdocument, rfl⟩ := h.cases_of_write he
    · exact .inl rfl
    · exact .inr (.inl ⟨pod, text, (hmembers.mem_controllers pod).mp hpod, hlogs, rfl⟩)
    · exact .inr (.inr ⟨pod, text, (hmembers.mem_meshed pod).mp hpod, hdocument, rfl⟩)
  · rw [hfree way hbelow] at hthere
    cases hthere

end Accepted

end Complete

/-! ## Whole bundles -/

/-- **A bundle holds all that can be read of a mesh**, byte for byte, and nothing else; the index in
it names each configuration once and says once why the rest is missing. -/
theorem Collector.holds_all {limit : Nat} {x : Lookup String} {path : String}
    (hx : x = c.collect output ∨ c.IsCollection limit output x) (hnow : m.world .now = .ok moment)
    (hlists : ∀ kind query, m.world (.list kind query) = cluster.world (.list kind query))
    (hnamed : cluster.IsNamed) (hmesh : ',' ∉ c.mesh.name.toList)
    (hcontroller : ',' ∉ c.mesh.controllerName.toList)
    (hfree : t.IsFree (bundlePath output moment)) (hrun : m.host.Runs x t es (.ok path) left)
    (haccepted : ∀ file text f, ⟨.writePath file text, .error f⟩ ∉ es) :
    path = bundlePath output moment ∧ ∃ (i : Index) (unread undumped : List (PodRef × Failure)),
      left.read (summaryPath path) = .ok (Text.encode i.text) ∧
      indexAt? left (summaryPath path) = some i ∧
      Explains (cluster.IsController c.mesh) (fun pod => m.world (.logs pod none)) unread ∧
      Explains (cluster.IsMeshed c.mesh) (c.document m.world) undumped ∧
      i.errors =
        versionErrors m.world c.mesh ++ unread.map (·.2.text) ++ undumped.map dumpError ∧
      i.errors.length = undumped.length + unread.length +
        (match m.world.finds c.mesh.controllerVersion with | .ok _ => 0 | .error _ => 1) ∧
      (∀ pod text, cluster.IsMeshed c.mesh pod → c.document m.world pod = .ok text →
        left.read (dumpPath path pod) = .ok (Text.encode text) ∧
          i.configDumps.count (pod.namespace ++ "_" ++ pod.name ++ ".json") = 1) ∧
      (∀ pod f, cluster.IsMeshed c.mesh pod → c.document m.world pod = .error f →
        (∀ bytes, left.read (dumpPath path pod) ≠ .ok bytes) ∧
          pod.namespace ++ "_" ++ pod.name ++ ".json" ∉ i.configDumps) ∧
      (∀ pod text, cluster.IsController c.mesh pod → m.world (.logs pod none) = .ok text →
        left.read (logPath path pod) = .ok (Text.encode text) ∧
          pod.name ++ ".log" ∈ i.controllerLogs) ∧
      ∀ way bytes, left.wayOf path <+: way → left.entry? way = some (.file bytes) →
        c.IsPart cluster m.world left path way := by
  obtain ⟨limit, hx⟩ := exists_isCollection hx
  cases hx.course hnow hrun with
  | @complete _ pods meshed results dumps h =>
  have hdirectory := bundlePath_ne_empty output moment
  have hmembers := hnamed.members hmesh hcontroller hlists h.controllerPods_eq h.meshedPods_eq
  have hnodup := h.nodup_ways hnamed hmembers hdirectory t
  have hpart {way : List String} {bytes : List UInt8}
      (hbelow : left.wayOf (bundlePath output moment) <+: way)
      (hfile : left.entry? way = some (.file bytes)) :=
    h.isPart haccepted hrun.steps hnamed hmembers hdirectory hfree hbelow hfile
  refine ⟨rfl, c.index m.world moment (pods.map (·.ref)) results,
    failed (podLogs m.world (pods.map (·.ref))), failed results, ?_, ?_,
    explains_logs hmembers m.world, h.explains_dumps haccepted hmembers, c.errors_index ..,
    c.length_errors_index .., ?_, ?_, ?_, fun way bytes hbelow hfile => ?_⟩
  · exact h.read_summary
  · exact h.indexAt?_summary
  · intro pod text hpod hdocument
    have hmem := (hmembers.mem_meshed pod).mpr hpod
    have hlisted := (h.mem_configDumps_iff haccepted hnamed hmembers hmem).mpr ⟨text, hdocument⟩
    refine ⟨?_, List.count_eq_one_of_mem (h.nodup_configDumps hnamed hmembers) hlisted⟩
    obtain ⟨result, hresult⟩ := h.exists_result hmem
    obtain ⟨f, hunread, -⟩ | ⟨text', hdocument', he, -⟩ := h.result_cases haccepted hresult
    · rw [hdocument] at hunread
      cases hunread
    · rw [hdocument] at hdocument'
      cases hdocument'
      exact read_of_mem hrun.steps haccepted hnodup he
  · intro pod f hpod hdocument
    constructor
    · intro bytes hread
      obtain ⟨-, -, hfile⟩ := read_eq_ok_iff.mp hread
      have hbelow : left.wayOf (bundlePath output moment) <+:
          left.wayOf (dumpPath (bundlePath output moment) pod) := by
        rw [wayOf_dumpPath hdirectory left (hnamed.isNamed_of_isMeshed hpod)]
        exact List.prefix_append _ _
      obtain ⟨text, hread⟩ := (hpart hbelow hfile).exists_document hnamed hdirectory hpod
      cases hdocument.symm.trans hread
    · intro hlisted
      have hmem := (hmembers.mem_meshed pod).mpr hpod
      obtain ⟨text, hread⟩ := (h.mem_configDumps_iff haccepted hnamed hmembers hmem).mp hlisted
      cases hdocument.symm.trans hread
  · intro pod text hpod hlogs
    have hmem := (hmembers.mem_controllers pod).mpr hpod
    refine ⟨read_of_mem hrun.steps haccepted hnodup (h.mem_of_logs hmem hlogs), ?_⟩
    exact List.mem_map.mpr ⟨pod, mem_succeeded.mpr ⟨text, mem_podLogs.mpr ⟨hmem, hlogs⟩⟩, rfl⟩
  · exact hpart hbelow hfile

/-- In the exchange a file was refused. -/
def refusesFile : Exchange → Bool
  | ⟨.writePath _ _, .error _⟩ => true
  | _ => false

/-- The bundle of the shop holds the logs of the controller and the configuration of the buyer. Its
index names both of them, and says why there is no version and no configuration of the seller. -/
theorem holds_all_shop :
    let directory := "out/osm-doctor-20240101-000000"
    ∃ es left i, shopMachine.host.Runs (shopCollector.collect "out") {} es (.ok directory) left ∧
      left.read (directory ++ "/logs/controller-0.log") = .ok (Text.encode "started") ∧
      left.read (directory ++ "/config_dumps/shop_buyer.json") = .ok (Text.encode "configured") ∧
      (∀ bytes, left.read (directory ++ "/config_dumps/shop_seller.json") ≠ .ok bytes) ∧
      (∀ way bytes, left.wayOf directory <+: way → left.entry? way = some (.file bytes) →
        shopCollector.IsPart meshedShop shopMachine.world left directory way) ∧
      indexAt? left (directory ++ "/summary.json") = some i ∧
      "controller-0.log" ∈ i.controllerLogs ∧ i.configDumps.count "shop_buyer.json" = 1 ∧
      "shop_seller.json" ∉ i.configDumps ∧
      i.errors = ["Could not determine osm-controller version in namespace osm-system",
        "shop/seller: no getter"] := by
  intro directory
  have hcollect : shopCollector.collect "out" = shopCollector.collect "out" ∨
      shopCollector.IsCollection 4 "out" (shopCollector.collect "out") := .inl rfl
  have hlists : ∀ kind query,
      shopMachine.world (.list kind query) = meshedShop.world (.list kind query) := fun _ _ => rfl
  have haccepted : ((shopCollector.collect "out").run.exchanges shopMachine.host {}).all
      (!refusesFile ·) = true := by decide +kernel
  have hdone : ((shopCollector.collect "out").run.runState shopMachine.host {}).1.toBool = true := by
    decide +kernel
  obtain ⟨es, found, left, hrun⟩ := shopMachine.host.exists_runs (shopCollector.collect "out") {}
  rw [hrun.exchanges_eq] at haccepted
  rw [hrun.runState_eq] at hdone
  cases found with
  | error f => cases hdone
  | ok path =>
    obtain ⟨hpath, i, unread, undumped, -, hindex, hunread, hundumped, herrors, -, hdump, hmissing,
      hlog, hpart⟩ := Collector.holds_all hcollect rfl hlists isNamed_meshedShop (by decide) (by decide)
        (isFree_bundlePath (by decide) (by decide)) hrun fun file text f he =>
          Bool.false_ne_true (List.all_eq_true.mp haccepted _ he)
    obtain rfl : path = directory := hpath.trans bundlePath_shopMoment
    have hmembers := members_meshedShop
    have hmeshed := hmembers.mem_meshed
    have hnone : unread = [] :=
      (hunread.perm hmembers.nodup_controllers hmembers.mem_controllers).eq_nil
    have hseller : undumped = [(⟨"shop", "seller"⟩, .say "no getter")] :=
      (hundumped.perm hmembers.nodup_meshed hmeshed).eq_singleton
    -- The files of the bundle, by their paths.
    have hempty : directory ≠ "" := by decide
    have hlast : directory.toList.getLast? ≠ some '/' := by decide
    have hnames : ∀ pod ∈ [⟨"shop", "buyer"⟩, ⟨"shop", "seller"⟩],
        dumpPath directory pod = directory ++ "/" ++ "config_dumps" ++ "/" ++ dumpFile pod :=
      fun pod hpod => dumpPath_eq_append hempty hlast
        (isNamed_meshedShop.isNamed_of_isMeshed ((hmeshed pod).mp hpod))
    obtain ⟨hbuyer, hnamed⟩ := hdump ⟨"shop", "buyer"⟩ _ ((hmeshed _).mp (by simp)) rfl
    obtain ⟨habsent, hunnamed⟩ := hmissing ⟨"shop", "seller"⟩ _ ((hmeshed _).mp (by simp)) rfl
    obtain ⟨hstarted, hlisted⟩ := hlog ⟨"osm-system", "controller-0"⟩ _
      ((hmembers.mem_controllers _).mp (List.mem_singleton_self _)) rfl
    rw [hnames _ (by simp)] at hbuyer habsent
    rw [logPath_eq_append hempty hlast ⟨by decide, by decide⟩] at hstarted
    rw [summaryPath_eq_append hempty hlast] at hindex
    refine ⟨es, left, i, hrun, hstarted, hbuyer, habsent, hpart, hindex, hlisted, hnamed, hunnamed,
      ?_⟩
    rw [herrors, hnone, hseller]
    rfl

end MeshDoctor.Bundle
