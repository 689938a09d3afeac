import MeshDoctor.CommandLine.Basic
import MeshDoctor.Config.Load
import MeshDoctor.Kubectl.Serve
import MeshDoctor.Report.Results
import MeshDoctor.Suite

/-!
# Sessions

A session knows the configuration of a run, the tool that reaches the cluster, and whether both are
there. A missing prerequisite does not end a session: the checks that need it are skipped.

* `Session.connect`: reads the configuration and tries the prerequisites.
* `Session.getter`: how the sidecar of a pod is read, if it has one.
* `Session.diagnose`: runs diagnostics and prints their report.
* `Session.serve`: an inquiry about the cluster, asked through the tool.
-/

namespace MeshDoctor

open Envoy

/-- Cluster access and prerequisites for one run. -/
structure Session where
  config : Config
  kubectl : Kubectl
  ledger : Ledger

/-- Tells the user something. -/
def tell (level : Level) (text : String) : Lookup Unit :=
  requestOr (.log level .command text) ()

/-- The configuration with the cluster that the command line points at. -/
def Config.pointedAt (c : Config) (line : CommandLine) : Config :=
  { c with
    kubeconfig := line.kubeconfig <|> c.kubeconfig
    kubeContext := line.context <|> c.kubeContext }

/-- The tool that a configuration names. -/
def Kubectl.ofConfig (c : Config) : Kubectl where
  program := c.kubectlPath
  kubeconfig := c.kubeconfig
  context := c.kubeContext

namespace Session

/-! ## Connecting -/

/-- The prerequisites of every check, in the order in which they are tried. -/
def prerequisites : List String := [toolName, clusterName]

/-- What is known about the prerequisites. The cluster is tried only if the tool is there. -/
def tryPrerequisites (k : Kubectl) : Lookup Ledger := do
  let installed ← k.probe.attempt
  let ledger := ({} : Ledger).record toolName installed
  match installed with
  | .ok () => pure (ledger.record clusterName (← k.ping.attempt))
  | .error _ => pure (ledger.unsatisfied clusterName "kubectl is not installed")

/-- Why a prerequisite is not met, in one line. -/
def unavailable (name reason : String) : String :=
  name ++ " unavailable: " ++ reason

/-- Warns of the prerequisites that are not met. -/
def warnOfMissing (ledger : Ledger) : List String → Lookup Unit
  | [] => pure ()
  | name :: rest => do
    match ledger.missingReason? name with
    | some reason => tell .warn (unavailable name reason)
    | none => pure ()
    warnOfMissing ledger rest

/-- Reads the configuration and tries the prerequisites. -/
def connect (line : CommandLine) : Lookup Session := do
  let loaded ← (Config.load line.config).within "Failed to load configuration"
  let config := loaded.pointedAt line
  let kubectl := Kubectl.ofConfig config
  let ledger ← tryPrerequisites kubectl
  warnOfMissing ledger prerequisites
  pure ⟨config, kubectl, ledger⟩

/-! ## Diagnosing -/

/-- The diagnostics of the mesh. -/
def suite (s : Session) : Suite where
  mesh := s.config.mesh
  components := s.config.components
  ledger := s.ledger

/-- Are all prerequisites met? -/
def isReady (s : Session) : Bool :=
  prerequisites.all s.ledger.isSatisfied

/-- How the sidecar of a pod is read; none for a pod that cannot be read or has no sidecar. -/
def getter (s : Session) (pod : PodRef) : Lookup (Option Getter) := do
  if !s.isReady then pure none
  else
    match ← (getPod pod).attempt with
    | .ok found => pure (if found.hasSidecar then some (.asking pod) else none)
    | .error _ => pure none

/-- Runs diagnostics and prints their report. -/
def diagnose (s : Session) (diagnostics : List Diagnostic) : Lookup Summary := do
  let records ← s.suite.records diagnostics
  requestOr (.print (reportText records false)) ()
  pure (Summary.ofRecords records)

/-! ## Reaching the cluster -/

/-- How the cluster is reached. -/
def access (s : Session) : Kubectl.Access where
  kubectl := s.kubectl
  adminPort := s.config.adminPort.toNat
  timeout := 1000 * s.config.adminTimeout.toNat

/-- An inquiry about the cluster, asked through the tool. -/
def serve {α : Type} (s : Session) (x : Lookup α) : Lookup α :=
  ExceptT.mk (x.run.substitute s.access.serve)

end Session

end MeshDoctor
