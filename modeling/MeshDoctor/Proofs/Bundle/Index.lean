import MeshDoctor.Bundle
import MeshDoctor.Files.Tree
import MeshDoctor.Proofs.Inquiry.Finds
import MeshDoctor.Proofs.Json.Codec
import MeshDoctor.Proofs.Json.ReadBack
import MeshDoctor.Proofs.Text.Utf8

/-!
# Support bundles — the index

* `bundlePath`, `logPath`, `dumpPath`, `summaryPath`: where the parts of a bundle are.
* `Index.read?`, `indexAt?`: the index that a text denotes and the one that a file holds;
  **`Index.read?_text`**: it is the one that was written.
* `succeeded`, `failed`: the pods with and without a result; `succeeded_append_failed_perm`.
* `Collector.index`: the index of a bundle, by what the cluster answers and how the dumps turn out.
* `Collector.errors_index`, `Collector.length_errors_index`: the errors that it notes.
* **`Collector.index_perm`**: the order of the dumps shows in the order of the errors only.
-/

namespace MeshDoctor.Bundle

open Envoy Json

/-! ## Paths -/

/-- The directory of a bundle. -/
def bundlePath (output : String) (moment : Moment) : String :=
  joinPath output ("osm-doctor-" ++ moment.stamp)

/-- The path of the logs of a pod. -/
def logPath (directory : String) (pod : PodRef) : String :=
  joinPath (joinPath directory "logs") (pod.name ++ ".log")

/-- The path of the configuration of a pod. -/
def dumpPath (directory : String) (pod : PodRef) : String :=
  joinPath (joinPath directory "config_dumps") (pod.namespace ++ "_" ++ pod.name ++ ".json")

/-- The path of the index. -/
def summaryPath (directory : String) : String :=
  joinPath directory "summary.json"

/-- Logs are written there. -/
theorem logPath_eq (directory : String) (pod : PodRef) :
    logPath directory pod = joinPath (logDirectory directory) (logFile pod) := rfl

/-- Configurations are written there. -/
theorem dumpPath_eq (directory : String) (pod : PodRef) :
    dumpPath directory pod = joinPath (dumpDirectory directory) (dumpFile pod) := rfl

/-! ## The file of the index -/

namespace Index

/-- The names of the fields in the file. -/
def fieldNames : List String :=
  ["created_at", "mesh_namespace", "mesh_name", "controller_version", "controller_logs",
    "config_dumps", "errors"]

/-- The index that a text denotes, each field under its name. -/
def read? (text : String) : Option Index := do
  match ← Document.read? fieldNames text with
  | .other _ => none
  | .object members =>
    some {
      createdAt := ← needed asText (members.lookup "created_at")
      meshNamespace := ← needed asText (members.lookup "mesh_namespace")
      meshName := ← needed asText (members.lookup "mesh_name")
      controllerVersion := ← optional asText (members.lookup "controller_version")
      controllerLogs := ← needed (asList asText) (members.lookup "controller_logs")
      configDumps := ← needed (asList asText) (members.lookup "config_dumps")
      errors := ← needed (asList asText) (members.lookup "errors") }

theorem readable_of_mem_members (i : Index) :
    ∀ m ∈ i.members, Readable (nestingLimit - 1) m.2 := by
  have htext (text : String) : Readable (nestingLimit - 1) (.string text) := .string text
  have htexts (texts : List String) : Readable (nestingLimit - 1) (.ofTexts texts) := .ofTexts texts
  simp only [members, List.forall_mem_cons, htext, htexts, true_and]
  exact ⟨.ofOption .string _, fun _ hm => nomatch hm⟩

/-- **The text of an index denotes the index.** -/
theorem read?_text (i : Index) : read? i.text = some i := by
  rw [read?, text, Document.read?_pretty fieldNames i.readable_of_mem_members]
  simp [members, List.lookup_cons]

end Index

/-- The index that a file holds. -/
def indexAt? (t : FileTree) (path : String) : Option Index := do
  let bytes ← (t.read path).toOption
  Index.read? (← (Text.decodeStrict bytes).toOption)

theorem indexAt?_of_read {t : FileTree} {path : String} {i : Index}
    (h : t.read path = .ok (Text.encode i.text)) : indexAt? t path = some i := by
  rw [indexAt?, h]
  simp only [Except.toOption, Option.bind_eq_bind, Option.bind_some, Text.decodeStrict_encode,
    i.read?_text]

/-! ## Results for pods -/

section Results

variable {α : Type}

/-- The pods with a result. -/
def succeeded : List (PodRef × Except Failure α) → List PodRef :=
  List.filterMap fun
    | (pod, .ok _) => some pod
    | (_, .error _) => none

/-- The pods without a result and why. -/
def failed : List (PodRef × Except Failure α) → List (PodRef × Failure) :=
  List.filterMap fun
    | (_, .ok _) => none
    | (pod, .error f) => some (pod, f)

@[simp] theorem succeeded_nil : succeeded ([] : List (PodRef × Except Failure α)) = [] := rfl

@[simp] theorem failed_nil : failed ([] : List (PodRef × Except Failure α)) = [] := rfl

@[simp] theorem succeeded_cons_ok (pod : PodRef) (a : α)
    (results : List (PodRef × Except Failure α)) :
    succeeded ((pod, .ok a) :: results) = pod :: succeeded results := rfl

@[simp] theorem succeeded_cons_error (pod : PodRef) (f : Failure)
    (results : List (PodRef × Except Failure α)) :
    succeeded ((pod, .error f) :: results) = succeeded results := rfl

@[simp] theorem failed_cons_ok (pod : PodRef) (a : α)
    (results : List (PodRef × Except Failure α)) :
    failed ((pod, .ok a) :: results) = failed results := rfl

@[simp] theorem failed_cons_error (pod : PodRef) (f : Failure)
    (results : List (PodRef × Except Failure α)) :
    failed ((pod, .error f) :: results) = (pod, f) :: failed results := rfl

theorem mem_succeeded {results : List (PodRef × Except Failure α)} {pod : PodRef} :
    pod ∈ succeeded results ↔ ∃ a, (pod, .ok a) ∈ results := by
  induction results with
  | nil => simp
  | cons result results ih =>
    obtain ⟨pod', a | f⟩ := result
    · simp [ih]
    · simp [ih, exists_or]

theorem mem_failed {results : List (PodRef × Except Failure α)} {pod : PodRef} {f : Failure} :
    (pod, f) ∈ failed results ↔ (pod, .error f) ∈ results := by
  induction results with
  | nil => simp
  | cons result results ih =>
    obtain ⟨pod', a | f'⟩ := result
    · simp [ih]
    · simp [ih]

theorem failed_sublist (results : List (PodRef × Except Failure α)) :
    ((failed results).map (·.1)).Sublist (results.map (·.1)) := by
  induction results with
  | nil => exact .slnil
  | cons result results ih =>
    obtain ⟨pod, a | f⟩ := result
    · exact ih.cons_cons pod
    · exact ih.cons pod

theorem succeeded_sublist (results : List (PodRef × Except Failure α)) :
    (succeeded results).Sublist (results.map (·.1)) := by
  induction results with
  | nil => exact .slnil
  | cons result results ih =>
    obtain ⟨pod, a | f⟩ := result
    · exact ih.cons pod
    · exact ih.cons_cons pod

/-- **No result is lost or counted twice.** -/
theorem succeeded_append_failed_perm (results : List (PodRef × Except Failure α)) :
    (succeeded results ++ (failed results).map (·.1)).Perm (results.map (·.1)) := by
  induction results with
  | nil => exact .nil
  | cons result results ih =>
    obtain ⟨pod, a | f⟩ := result
    · exact List.perm_middle.trans (ih.cons pod)
    · exact ih.cons pod

end Results

/-! ## The index -/

/-- The logs of pods. -/
def podLogs (w : World) (pods : List PodRef) : List (PodRef × Except Failure String) :=
  pods.map fun pod => (pod, w (.logs pod none))

theorem map_fst_podLogs (w : World) (pods : List PodRef) : (podLogs w pods).map (·.1) = pods := by
  rw [podLogs, List.map_map]
  exact List.map_id pods

theorem mem_podLogs {w : World} {pods : List PodRef} {pod : PodRef} {result : Except Failure String} :
    (pod, result) ∈ podLogs w pods ↔ pod ∈ pods ∧ w (.logs pod none) = result := by
  rw [podLogs, List.mem_map]
  constructor
  · rintro ⟨other, hpod, heq⟩
    cases heq
    exact ⟨hpod, rfl⟩
  · rintro ⟨hpod, rfl⟩
    exact ⟨pod, hpod, rfl⟩

/-- How the index says why the version is missing. -/
def versionErrors (w : World) (mesh : Mesh) : List String :=
  match w.finds mesh.controllerVersion with
  | .ok _ => []
  | .error f => [f.text]

/-- How the index says why a configuration is missing. -/
def dumpError : PodRef × Failure → String
  | (pod, f) => pod.text ++ ": " ++ f.text

namespace Index

/-- The index with more logs. -/
def withLogs (i : Index) (logs : List (PodRef × Except Failure String)) : Index :=
  { i with
    controllerLogs := i.controllerLogs ++ (succeeded logs).map logFile
    errors := i.errors ++ (failed logs).map (·.2.text) }

/-- The index with more configurations. -/
def withDumps (i : Index) (results : List (PodRef × Except Failure Unit)) : Index :=
  { i with
    configDumps := i.configDumps ++ (succeeded results).map dumpFile
    errors := i.errors ++ (failed results).map dumpError }

theorem withLogs_nil (i : Index) : i.withLogs [] = i := by
  simp [withLogs]

theorem withLogs_cons (i : Index) (log : PodRef × Except Failure String)
    (logs : List (PodRef × Except Failure String)) :
    (i.withLogs [log]).withLogs logs = i.withLogs (log :: logs) := by
  obtain ⟨pod, text | f⟩ := log
  · simp [withLogs]
  · simp [withLogs]

theorem withDumps_nil (i : Index) : i.withDumps [] = i := by
  simp [withDumps]

theorem withDumps_cons (i : Index) (result : PodRef × Except Failure Unit)
    (results : List (PodRef × Except Failure Unit)) :
    (i.withDumps [result]).withDumps results = i.withDumps (result :: results) := by
  obtain ⟨pod, u | f⟩ := result
  · simp [withDumps]
  · simp [withDumps]

end Index

namespace Collector

/-- The document that the sidecar of a pod shows. -/
def document (c : Collector) (w : World) (pod : PodRef) : Except Failure String :=
  (c.getter pod).bind fun getter => w.finds getter.raw

/-- The index of a bundle with the logs of some pods and the results of some dumps. -/
def index (c : Collector) (w : World) (moment : Moment) (pods : List PodRef)
    (results : List (PodRef × Except Failure Unit)) : Index where
  createdAt := moment.date
  meshNamespace := c.mesh.namespace
  meshName := c.mesh.name
  controllerVersion := (w.finds c.mesh.controllerVersion).toOption.map (·.text)
  controllerLogs := (succeeded (podLogs w pods)).map logFile
  configDumps := sortNames ((succeeded results).map dumpFile)
  errors := versionErrors w c.mesh ++ (failed (podLogs w pods)).map (·.2.text)
    ++ (failed results).map dumpError

/-- The errors of a bundle: the version, logs and configurations that are missing. -/
theorem errors_index (c : Collector) (w : World) (moment : Moment) (pods : List PodRef)
    (results : List (PodRef × Except Failure Unit)) :
    (c.index w moment pods results).errors = versionErrors w c.mesh ++
      (failed (podLogs w pods)).map (·.2.text) ++ (failed results).map dumpError := rfl

theorem length_errors_index (c : Collector) (w : World) (moment : Moment) (pods : List PodRef)
    (results : List (PodRef × Except Failure Unit)) :
    (c.index w moment pods results).errors.length =
      (failed results).length + (failed (podLogs w pods)).length +
        match w.finds c.mesh.controllerVersion with
        | .ok _ => 0
        | .error _ => 1 := by
  rw [errors_index, List.length_append, List.length_append, List.length_map, List.length_map,
    versionErrors]
  cases w.finds c.mesh.controllerVersion with
  | ok release =>
    simp only [List.length_nil]
    omega
  | error f =>
    simp only [List.length_singleton]
    omega

theorem sortNames_nil : sortNames [] = [] := List.mergeSort_nil

theorem sortNames_perm (names : List String) : (sortNames names).Perm names :=
  List.mergeSort_perm ..

theorem pairwise_sortNames (names : List String) :
    (sortNames names).Pairwise fun a b => decide (a ≤ b) := by
  refine List.pairwise_mergeSort ?_ ?_ names
  · intro a b c hab hbc
    exact decide_eq_true (String.le_trans (of_decide_eq_true hab) (of_decide_eq_true hbc))
  · intro a b
    have htotal : a ≤ b ∨ b ≤ a := String.le_total a b
    simpa using htotal

/-- The order in which names are found does not show once they are sorted. -/
theorem sortNames_congr {names names' : List String} (h : names.Perm names') :
    sortNames names = sortNames names' := by
  refine List.Perm.eq_of_pairwise ?_ (pairwise_sortNames names) (pairwise_sortNames names') ?_
  · intro a b _ _ hab hba
    exact String.le_antisymm (of_decide_eq_true hab) (of_decide_eq_true hba)
  · exact ((sortNames_perm names).trans h).trans (sortNames_perm names').symm

/-- **The order of the dumps shows in the order of the errors only.** -/
theorem index_perm (c : Collector) (w : World) (moment : Moment) (pods : List PodRef)
    {results results' : List (PodRef × Except Failure Unit)} (h : results.Perm results') :
    c.index w moment pods results' =
        { c.index w moment pods results with errors := (c.index w moment pods results').errors } ∧
      (c.index w moment pods results').errors.Perm (c.index w moment pods results).errors := by
  have hsucceeded : (succeeded results).Perm (succeeded results') := h.filterMap _
  have hfailed : (failed results).Perm (failed results') := h.filterMap _
  refine ⟨?_, ?_⟩
  · rw [index, index, sortNames_congr (hsucceeded.map dumpFile)]
  · exact (hfailed.map dumpError).symm.append_left _

end Collector

end MeshDoctor.Bundle
