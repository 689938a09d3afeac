import MeshDoctor.Cluster.Mesh
import MeshDoctor.Envoy.Getter
import MeshDoctor.Files.Path
import MeshDoctor.Json.Printer

/-!
# Support bundles

A bundle is a directory with the logs of the controller, the configurations of the sidecars of the
mesh and an index. Some failures end the collection, others are noted in the index, which is written
last.

* `Bundle.Index`: the index.
* `Bundle.Collector`: the mesh, how the sidecars are read, and in which order that gets done.
* `Bundle.Collector.collect`: writes a bundle below a directory and gives its path.
-/

namespace MeshDoctor.Bundle

open Envoy Json

/-! ## The index -/

/-- What a bundle says about itself. -/
structure Index where
  createdAt : String
  meshNamespace : String
  meshName : String
  controllerVersion : Option String := none
  controllerLogs : List String := []
  configDumps : List String := []
  errors : List String := []
  deriving DecidableEq, Repr

namespace Index

/-- The members of the index, in the order of the file. -/
def members (i : Index) : List (String × Value) :=
  [("created_at", .string i.createdAt), ("mesh_namespace", .string i.meshNamespace),
    ("mesh_name", .string i.meshName), ("controller_version", .ofOptionText i.controllerVersion),
    ("controller_logs", .ofTexts i.controllerLogs), ("config_dumps", .ofTexts i.configDumps),
    ("errors", .ofTexts i.errors)]

/-- The text of the index. -/
def text (i : Index) : String :=
  (Value.object i.members).pretty

/-- The index with one more error. -/
def withError (i : Index) (error : String) : Index :=
  { i with errors := i.errors ++ [error] }

end Index

/-! ## Collecting -/

/-- What a bundle is collected from. -/
structure Collector where
  mesh : Mesh
  /-- How the sidecar of a pod is read. -/
  getter : PodRef → Except Failure Getter
  /-- The order in which pods are done with. -/
  schedule : List PodRef → List PodRef := id
  /-- It leaves out no pod and repeats none. -/
  schedule_perm : ∀ pods, (schedule pods).Perm pods := by exact fun pods => .refl pods

/-- Tells the user something. -/
def report (level : Level) (text : String) : Lookup Unit :=
  requestOr (.log level .bundle text) ()

/-- The file for the logs of a pod. -/
def logFile (pod : PodRef) : String :=
  pod.name ++ ".log"

/-- The file for the configuration of a pod. -/
def dumpFile (pod : PodRef) : String :=
  pod.namespace ++ "_" ++ pod.name ++ ".json"

/-- The directory for logs in a bundle. -/
def logDirectory (directory : String) : String :=
  joinPath directory "logs"

/-- The directory for configurations in a bundle. -/
def dumpDirectory (directory : String) : String :=
  joinPath directory "config_dumps"

/-- Makes a directory. -/
def makeDirectory (path : String) : Lookup Unit :=
  (request (.makeDirectories path)).within ("Failed to create " ++ path)

/-- Adds the logs of a pod. A pod without readable logs is noted. -/
def addLogs (directory : String) (i : Index) (pod : PodRef) : Lookup Index := do
  match ← (request (.logs pod none)).attempt with
  | .ok logs =>
    (request (.writePath (joinPath (logDirectory directory) (logFile pod)) logs)).within
      ("Failed to write logs for " ++ pod.text)
    pure { i with controllerLogs := i.controllerLogs ++ [logFile pod] }
  | .error f =>
    report .warn ("Could not read logs of " ++ pod.text ++ ": " ++ f.text)
    pure (i.withError f.text)

/-- Adds the logs of pods in order. -/
def addAllLogs (directory : String) (i : Index) : List PodRef → Lookup Index
  | [] => pure i
  | pod :: rest => do
    let i ← addLogs directory i pod
    addAllLogs directory i rest

/-- The pods with a sidecar in some namespaces. -/
def meshedIn : List String → Lookup (List PodRef)
  | [] => pure []
  | ns :: rest => do
    let pods ← listPods (.inNamespace ns)
    let more ← meshedIn rest
    pure ((pods.filter (·.hasSidecar)).map (·.ref) ++ more)

/-- The pods with a sidecar in all namespaces of a mesh. -/
def meshedPods (mesh : Mesh) : Lookup (List PodRef) := do
  let namespaces ← mesh.monitoredNamespaces
  meshedIn (namespaces.filterMap (·.metadata.name))

namespace Collector

/-- Writes the configuration of a pod. -/
def dump (c : Collector) (directory : String) (pod : PodRef) : Lookup Unit := do
  let getter ← Lookup.ofResult (c.getter pod)
  let text ← getter.raw
  (request (.writePath (joinPath (dumpDirectory directory) (dumpFile pod)) text)).within
    ("Failed to write config dump for " ++ pod.text)

/-- Writes the configurations of pods, with the result for each. -/
def dumpAll (c : Collector) (directory : String) :
    List PodRef → Lookup (List (PodRef × Except Failure Unit))
  | [] => pure []
  | pod :: rest => do
    let result ← (c.dump directory pod).attempt
    let results ← dumpAll c directory rest
    pure ((pod, result) :: results)

/-- Notes the result for a pod. -/
def noteDump (i : Index) : PodRef × Except Failure Unit → Lookup Index
  | (pod, .ok ()) => pure { i with configDumps := i.configDumps ++ [dumpFile pod] }
  | (pod, .error f) => do
    report .warn ("Could not dump config of " ++ pod.text ++ ": " ++ f.text)
    pure (i.withError (pod.text ++ ": " ++ f.text))

/-- Notes the results for pods in order. -/
def noteDumps (i : Index) : List (PodRef × Except Failure Unit) → Lookup Index
  | [] => pure i
  | result :: rest => do
    let i ← noteDump i result
    noteDumps i rest

/-- Sorts file names. -/
def sortNames (names : List String) : List String :=
  names.mergeSort fun a b => decide (a ≤ b)

/-- Adds the configurations of all sidecars of the mesh. -/
def addDumps (c : Collector) (directory : String) (i : Index) : Lookup Index := do
  let pods ← meshedPods c.mesh
  report .info ("Collecting config dumps from " ++ toString pods.length ++ " sidecars")
  let results ← c.dumpAll directory (c.schedule pods)
  let i ← noteDumps i results
  pure { i with configDumps := sortNames i.configDumps }

/-- Adds the version of the controller; failing to find it is noted. -/
def addVersion (c : Collector) (i : Index) : Lookup Index := do
  match ← c.mesh.controllerVersion.attempt with
  | .ok release => pure { i with controllerVersion := some release.text }
  | .error f => pure (i.withError f.text)

/-- Writes a bundle below a directory and gives its path. -/
def collect (c : Collector) (output : String) : Lookup String := do
  let moment : Moment ← request .now
  let directory := joinPath output ("osm-doctor-" ++ moment.stamp)
  makeDirectory (logDirectory directory)
  makeDirectory (dumpDirectory directory)
  let i : Index :=
    { createdAt := moment.date, meshNamespace := c.mesh.namespace, meshName := c.mesh.name }
  let i ← c.addVersion i
  let pods ← c.mesh.controllerPods
  let i ← addAllLogs directory i (pods.map (·.ref))
  let i ← c.addDumps directory i
  (request (.writePath (joinPath directory "summary.json") i.text)).within
    "Failed to write summary.json"
  report .info ("Bundle written to " ++ directory ++ " (" ++ toString i.controllerLogs.length
    ++ " logs, " ++ toString i.configDumps.length ++ " config dumps, " ++ toString i.errors.length
    ++ " errors)")
  pure directory

end Collector

end MeshDoctor.Bundle
