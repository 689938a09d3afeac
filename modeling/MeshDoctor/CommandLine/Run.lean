import MeshDoctor.Bundle
import MeshDoctor.Session

/-!
# Command lines — running

* `CommandLine.perform`: what a command does; its result counts the checks that it ran.
* `CommandLine.execute`: performs a command and gives the exit status of the program.
-/

namespace MeshDoctor.CommandLine

open Envoy

/-! ## Diagnostic commands -/

/-- Diagnoses traffic between two pods. -/
def podToPod (s : Session) (source destination : PodRef) : Lookup Summary := do
  tell .info ("Diagnosing connectivity from " ++ source.text ++ " to " ++ destination.text)
  let sourceGetter ← s.getter source
  let destinationGetter ← s.getter destination
  s.diagnose (s.suite.podToPod source destination sourceGetter destinationGetter)

/-- Diagnoses traffic from a pod to a URL. -/
def podToUrl (s : Session) (source : PodRef) (url : Url) : Lookup Summary := do
  tell .info ("Diagnosing connectivity from " ++ source.text ++ " to " ++ url.text)
  let getter ← s.getter source
  s.diagnose (s.suite.podToUrl source url.text getter)

/-- Shows the health of the control plane. -/
def controlPlaneStatus (s : Session) : Lookup Summary := do
  tell .info ("Checking control plane in " ++ s.config.meshNamespace)
  s.diagnose s.suite.controlPlane

/-- Diagnoses ingress traffic to a pod. -/
def ingressToPod (s : Session) (destination : PodRef) : Lookup Summary := do
  tell .info ("Diagnosing ingress to " ++ destination.text)
  let getter ← s.getter destination
  s.diagnose (s.suite.ingressToPod destination getter)

/-! ## Other commands -/

/-- Fails if a prerequisite is not met. -/
def requireAll (s : Session) : Except Failure Unit :=
  match s.ledger.firstMissing? Session.prerequisites with
  | some (name, reason) =>
    .error (.say ("Cannot collect a bundle, " ++ Session.unavailable name reason))
  | none => .ok ()

/-- Collects a support bundle. -/
def collect (s : Session) (output : String) : Lookup Summary := do
  Lookup.ofResult (requireAll s)
  let collector : Bundle.Collector := { mesh := s.config.mesh, getter := fun pod => .ok (.asking pod) }
  let directory ← collector.collect output
  tell .info ("✓ Support bundle created: " ++ directory)
  pure {}

/-- What a user is told after a configuration file was written. -/
def nextSteps : List String :=
  ["", "Next steps:", "  1. Set mesh_namespace and mesh_name to match your installation",
    "  2. Check the control plane:", "     osm-doctor control-plane status"]

/-- Tells the user some lines. -/
def tellAll : List String → Lookup Unit
  | [] => pure ()
  | line :: rest => do
    tell .info line
    tellAll rest

/-- Writes a new configuration file where there is none. -/
def init (path : String) : Lookup Summary := do
  let found : Bool ← requestOr (.pathExists path) false
  if found then throw (.say ("Configuration file already exists: " ++ path))
  else
    (request (.writePath path Config.sample.toYaml)).within "Failed to write configuration file"
    tellAll (("Example configuration created: " ++ path) :: nextSteps)
    pure {}

/-! ## Running -/

/-- Connects and goes on with the session, the cluster being asked through the tool. -/
def inSession (line : CommandLine) (x : Session → Lookup Summary) : Lookup Summary := do
  let s ← Session.connect line
  s.serve (x s)

/-- What a command does. -/
def perform (line : CommandLine) : Lookup Summary :=
  match line.command with
  | .podToPod source destination => line.inSession fun s => podToPod s source destination
  | .podToUrl source url => line.inSession fun s => podToUrl s source url
  | .controlPlaneStatus => line.inSession controlPlaneStatus
  | .ingressToPod destination => line.inSession fun s => ingressToPod s destination
  | .validate => line.inSession fun s => s.diagnose s.suite.validate
  | .collect output => line.inSession fun s => collect s output
  | .init => init line.config

/-- The exit status of a run in which checks failed, if that shall count. -/
def checksFailedStatus : UInt32 := 3

/-- The exit status of a result. -/
def exitStatus (line : CommandLine) : Except Failure Summary → UInt32
  | .ok summary => if line.failOnError && summary.hasFailures then checksFailedStatus else 0
  | .error _ => 1

/-- Performs a command and gives the exit status of the program; a failure is logged. -/
def execute (line : CommandLine) : Inquiry UInt32 := do
  let result ← line.perform.run
  match result with
  | .ok _ => pure (line.exitStatus result)
  | .error f => .ask (.log .error .command ("Error: " ++ f.text)) fun _ => .done (line.exitStatus result)

end MeshDoctor.CommandLine

namespace MeshDoctor

/-- The exit status for arguments that are no command line. -/
def UsageError.exitStatus (e : UsageError) : UInt32 :=
  if e.isMistake then 1 else 0

end MeshDoctor
