import MeshDoctor.Proofs.Bundle.Index
import MeshDoctor.Proofs.Files.Tree

/-!
# Support bundles — the names of the files

* `IsKubernetesName`, `PodRef.IsNamed`: names without slashes and underscores.
* `logFile_inj`, **`dumpFile_inj`**: different pods have different files.
* `logPath_ne_dumpPath`: so have logs and configurations.
* `summaryPath_eq_append`, `logPath_eq_append`, `dumpPath_eq_append`: the paths as texts.
* `wayOf_logPath`, `wayOf_dumpPath`, `wayOf_summaryPath`: the ways to the files of a bundle.
* `nodup_wayOf_logPath`, `nodup_wayOf_dumpPath`: no file takes the place of another one.
-/

namespace MeshDoctor

/-- Kubernetes has neither slashes nor underscores in names. -/
structure IsKubernetesName (name : String) : Prop where
  no_slash : '/' ∉ name.toList
  no_underscore : '_' ∉ name.toList

/-- Both parts of the address of a pod are such names. -/
structure PodRef.IsNamed (pod : PodRef) : Prop where
  namespace_isName : IsKubernetesName pod.namespace
  name_isName : IsKubernetesName pod.name

namespace Bundle

open FileTree

variable {directory : String} {pod pod' : PodRef}

/-! ## File names -/

theorem isPlainName_of_length {name : String} (hslash : '/' ∉ name.toList)
    (hlength : 2 < name.length) : IsPlainName name where
  no_slash := hslash
  ne_empty := by
    rintro rfl
    exact absurd hlength (by decide)
  ne_dot := by
    rintro rfl
    exact absurd hlength (by decide)
  ne_dots := by
    rintro rfl
    exact absurd hlength (by decide)

theorem isPlainName_logFile (h : IsKubernetesName pod.name) : IsPlainName (logFile pod) := by
  refine isPlainName_of_length ?_ ?_
  · simp [logFile, h.no_slash]
  · have htail : ".log".length = 4 := by decide
    rw [logFile, String.length_append]
    omega

theorem isPlainName_dumpFile (h : pod.IsNamed) : IsPlainName (dumpFile pod) := by
  refine isPlainName_of_length ?_ ?_
  · simp [dumpFile, h.namespace_isName.no_slash, h.name_isName.no_slash]
  · have htail : ".json".length = 5 := by decide
    rw [dumpFile, String.length_append]
    omega

theorem isPlainName_logs : IsPlainName "logs" := isPlainName_of_length (by decide) (by decide)

theorem isPlainName_configDumps : IsPlainName "config_dumps" :=
  isPlainName_of_length (by decide) (by decide)

theorem isPlainName_summary : IsPlainName "summary.json" :=
  isPlainName_of_length (by decide) (by decide)

theorem logFile_inj (h : logFile pod = logFile pod') : pod.name = pod'.name := by
  have hchars := congrArg String.toList h
  rw [logFile, logFile, String.toList_append, String.toList_append] at hchars
  exact String.toList_injective (List.append_cancel_right hchars)

/-- **Different pods have different files**, since the underscore ends the namespace. -/
theorem dumpFile_inj (hpod : pod.IsNamed) (hpod' : pod'.IsNamed)
    (h : dumpFile pod = dumpFile pod') : pod = pod' := by
  have hcut (pod : PodRef) (hpod : pod.IsNamed) :
      Text.cutFirst '_' (dumpFile pod).toList =
        some (pod.namespace.toList, pod.name.toList ++ ".json".toList) := by
    rw [← Text.cutFirst_append _ hpod.namespace_isName.no_underscore]
    simp [dumpFile]
  have hparts := hcut pod hpod
  rw [h, hcut pod' hpod'] at hparts
  obtain ⟨hnamespace, hname⟩ := Prod.mk.inj (Option.some.inj hparts)
  have heq : pod'.namespace = pod.namespace := String.toList_injective hnamespace
  have heq' : pod'.name = pod.name := String.toList_injective (List.append_cancel_right hname)
  cases pod
  cases pod'
  cases heq
  cases heq'
  rfl

theorem logPath_ne_dumpPath (directory : String) (pod pod' : PodRef) :
    logPath directory pod ≠ dumpPath directory pod' := by
  obtain ⟨front, hlog⟩ := exists_joinPath_append (logDirectory directory) pod.name ".log"
  obtain ⟨front', hdump⟩ := exists_joinPath_append (dumpDirectory directory)
    (pod'.namespace ++ "_" ++ pod'.name) ".json"
  intro heq
  have hlast : (front ++ ".log").toList.getLast? = (front' ++ ".json").toList.getLast? := by
    rw [← hlog, ← hdump]
    exact congrArg (·.toList.getLast?) heq
  simp at hlast

/-! ## Paths -/

theorem logDirectory_ne_empty (directory : String) : logDirectory directory ≠ "" :=
  joinPath_ne_empty directory (by decide)

theorem dumpDirectory_ne_empty (directory : String) : dumpDirectory directory ≠ "" :=
  joinPath_ne_empty directory (by decide)

section Paths

variable (hdirectory : directory ≠ "") (hlast : directory.toList.getLast? ≠ some '/')
include hdirectory hlast

theorem summaryPath_eq_append : summaryPath directory = directory ++ "/" ++ "summary.json" :=
  joinPath_eq_append hdirectory hlast isPlainName_summary

theorem logPath_eq_append (h : IsKubernetesName pod.name) :
    logPath directory pod = directory ++ "/" ++ "logs" ++ "/" ++ logFile pod := by
  have hlogs : logDirectory directory = directory ++ "/" ++ "logs" :=
    joinPath_eq_append hdirectory hlast isPlainName_logs
  rw [logPath_eq, joinPath_eq_append (logDirectory_ne_empty directory) ?_ (isPlainName_logFile h),
    hlogs]
  simp [hlogs]

theorem dumpPath_eq_append (h : pod.IsNamed) :
    dumpPath directory pod = directory ++ "/" ++ "config_dumps" ++ "/" ++ dumpFile pod := by
  have hdumps : dumpDirectory directory = directory ++ "/" ++ "config_dumps" :=
    joinPath_eq_append hdirectory hlast isPlainName_configDumps
  rw [dumpPath_eq, joinPath_eq_append (dumpDirectory_ne_empty directory) ?_ (isPlainName_dumpFile h),
    hdumps]
  simp [hdumps]

end Paths

/-! ## Ways -/

theorem bundlePath_ne_empty (output : String) (moment : Moment) : bundlePath output moment ≠ "" := by
  refine joinPath_ne_empty output fun hempty => ?_
  have hlength := congrArg String.length hempty
  have hprefix : "osm-doctor-".length = 11 := by decide
  rw [String.length_append, hprefix, String.length_empty] at hlength
  omega

/-- In an empty tree there is room for a bundle. -/
theorem isFree_bundlePath {output : String} (houtput : output ≠ "") {moment : Moment}
    (hstamp : '/' ∉ moment.stamp.toList) : ({} : FileTree).IsFree (bundlePath output moment) := by
  have hname : IsPlainName ("osm-doctor-" ++ moment.stamp) := by
    refine isPlainName_of_length ?_ ?_
    · rw [String.toList_append, List.mem_append]
      exact not_or.mpr ⟨by decide, hstamp⟩
    · have hprefix : "osm-doctor-".length = 11 := by decide
      rw [String.length_append, hprefix]
      omega
  refine isFree_of_entries_eq_nil rfl ?_
  rw [bundlePath, wayOf_joinPath houtput hname]
  exact List.append_ne_nil_of_right_ne_nil _ (List.cons_ne_nil _ _)

variable (hdirectory : directory ≠ "") (t : FileTree)
include hdirectory

theorem wayOf_summaryPath :
    t.wayOf (summaryPath directory) = t.wayOf directory ++ ["summary.json"] :=
  wayOf_joinPath hdirectory isPlainName_summary t

theorem wayOf_logDirectory : t.wayOf (logDirectory directory) = t.wayOf directory ++ ["logs"] :=
  wayOf_joinPath hdirectory isPlainName_logs t

theorem wayOf_dumpDirectory :
    t.wayOf (dumpDirectory directory) = t.wayOf directory ++ ["config_dumps"] :=
  wayOf_joinPath hdirectory isPlainName_configDumps t

theorem wayOf_logPath (h : IsKubernetesName pod.name) :
    t.wayOf (logPath directory pod) = t.wayOf directory ++ ["logs", logFile pod] := by
  rw [logPath_eq, wayOf_joinPath (logDirectory_ne_empty directory) (isPlainName_logFile h),
    wayOf_logDirectory hdirectory, List.append_assoc]
  rfl

theorem wayOf_dumpPath (h : pod.IsNamed) :
    t.wayOf (dumpPath directory pod) = t.wayOf directory ++ ["config_dumps", dumpFile pod] := by
  rw [dumpPath_eq, wayOf_joinPath (dumpDirectory_ne_empty directory) (isPlainName_dumpFile h),
    wayOf_dumpDirectory hdirectory, List.append_assoc]
  rfl

theorem nodup_wayOf_logPath {ns : String} {pods : List PodRef} (hnodup : pods.Nodup)
    (hns : ∀ pod ∈ pods, pod.namespace = ns) (hnames : ∀ pod ∈ pods, IsKubernetesName pod.name) :
    ((pods.map (logPath directory)).map t.wayOf).Nodup := by
  refine List.pairwise_map.mpr (List.pairwise_map.mpr ?_)
  refine hnodup.imp_of_mem fun {pod pod'} hpod hpod' hne heq => hne ?_
  rw [wayOf_logPath hdirectory t (hnames pod hpod),
    wayOf_logPath hdirectory t (hnames pod' hpod')] at heq
  have hfile : logFile pod = logFile pod' := by simpa using heq
  have hspace : pod.namespace = pod'.namespace := (hns pod hpod).trans (hns pod' hpod').symm
  cases pod
  cases pod'
  cases hspace
  cases logFile_inj hfile
  rfl

theorem nodup_wayOf_dumpPath {pods : List PodRef} (hnodup : pods.Nodup)
    (hnames : ∀ pod ∈ pods, pod.IsNamed) :
    ((pods.map (dumpPath directory)).map t.wayOf).Nodup := by
  refine List.pairwise_map.mpr (List.pairwise_map.mpr ?_)
  refine hnodup.imp_of_mem fun {pod pod'} hpod hpod' hne heq => hne ?_
  rw [wayOf_dumpPath hdirectory t (hnames pod hpod),
    wayOf_dumpPath hdirectory t (hnames pod' hpod')] at heq
  have hfile : dumpFile pod = dumpFile pod' := by simpa using heq
  exact dumpFile_inj (hnames pod hpod) (hnames pod' hpod') hfile

end Bundle

end MeshDoctor
