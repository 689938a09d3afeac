import MeshDoctor.PodRef
import MeshDoctor.Url.Basic

/-!
# Command lines

* `Command`: what a user can ask for.
* `CommandLine`: a command with the settings that every command takes.
* `UsageError`: why arguments are no command line. Asking for help is one of the reasons, but not a
  mistake.
-/

namespace MeshDoctor

/-- What a user can ask for. -/
inductive Command where
  /-- Diagnoses traffic between two pods. -/
  | podToPod (source destination : PodRef)
  /-- Diagnoses traffic from a pod to a URL outside the mesh. -/
  | podToUrl (source : PodRef) (url : Url)
  /-- Shows the health of the control plane. -/
  | controlPlaneStatus
  /-- Diagnoses ingress traffic to a pod. -/
  | ingressToPod (destination : PodRef)
  /-- Checks the configuration of the mesh as a whole. -/
  | validate
  /-- Collects a support bundle below a directory. -/
  | collect (output : String)
  /-- Writes a new configuration file. -/
  | init
  deriving DecidableEq, Repr

namespace Command

/-- The words that select a command. -/
def words : Command → String
  | podToPod _ _ => "connectivity pod-to-pod"
  | podToUrl _ _ => "connectivity pod-to-url"
  | controlPlaneStatus => "control-plane status"
  | ingressToPod _ => "ingress to-pod"
  | validate => "validate"
  | collect _ => "collect"
  | init => "init"

/-- What a command is about, in its written form. -/
def operands : Command → List String
  | podToPod source destination => [source.text, destination.text]
  | podToUrl source url => [source.text, url.text]
  | ingressToPod destination => [destination.text]
  | collect output => [output]
  | controlPlaneStatus => []
  | validate => []
  | init => []

end Command

/-- A command with its settings. -/
structure CommandLine where
  command : Command
  config : String := "osm-doctor.yaml"
  verbose : Bool := false
  kubeconfig : Option String := none
  context : Option String := none
  failOnError : Bool := false
  deriving DecidableEq, Repr

/-- Why arguments are no command line. -/
inductive UsageError where
  /-- Help was asked for. -/
  | helpRequested
  /-- Nothing was asked for where something has to be. -/
  | nothingGiven
  | missingCommand
  | unknownCommand
  | missingOperand
  | unknownArgument
  /-- An option without a value, or with an empty one where it may not be. -/
  | missingValue
  /-- A value for a flag. -/
  | unexpectedValue
  | repeatedOption
  /-- An operand that is not what it should be. -/
  | malformedOperand
  deriving DecidableEq, Repr

/-- Is it a mistake of the user? -/
def UsageError.isMistake (e : UsageError) : Bool :=
  e ≠ .helpRequested

end MeshDoctor
