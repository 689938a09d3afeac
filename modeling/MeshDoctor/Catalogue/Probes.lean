import MeshDoctor.Check.Basic
import MeshDoctor.Cluster.Typed

/-!
# Catalogue — probes

A request for a URL from inside a pod, by the status that comes back.
-/

namespace MeshDoctor.Catalogue

/-- The command that prints the status of a URL, given up after ten seconds. -/
def probeCommand (url : String) : List String :=
  ["curl", "-s", "-o", "/dev/null", "-w", "%\x7bhttp_code\x7d", "--max-time", "10", url]

/-- What the command printed means. A status from 1 to 399 says that the URL was reached. -/
def probeVerdict (printed : String) : Except Problem Outcome :=
  let text := Text.trim printed
  match Text.readNumeral UInt16.size text.toList with
  | .error e =>
    .error (.failedRequest ⟨["Unexpected curl output '" ++ text ++ "'"], .numeral e⟩)
  | .ok status =>
    if status = 0 ∨ 400 ≤ status then .error (.probeStatus status)
    else .ok (.info ("HTTP " ++ toString status))

/-- The pod reaches the URL from its first container that is not the sidecar. -/
def httpProbe (source : PodRef) (url : String) : Diagnosis Outcome := do
  let pod ← getPod source
  let printed ← request (.exec source pod.appContainer? (probeCommand url))
  Diagnosis.ofResult (probeVerdict printed)

end MeshDoctor.Catalogue
