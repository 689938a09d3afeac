import MeshDoctor.Check.Outcome
import MeshDoctor.Inquiry.Basic

/-!
# Checks

* `Check`: an inquiry with a description and advice for its failure.
* `Ledger`: which prerequisites are met; the last entry of a name counts.
* `Check.requiring`: a check that is skipped when a prerequisite is not met.
-/

namespace MeshDoctor

/-- A unit of diagnostic work. -/
structure Check where
  /-- What is being checked. -/
  description : String
  /-- The diagnosis; no outcome counts as an unknown one. -/
  run : Inquiry (Option Outcome)
  /-- Advice for a failure. -/
  suggestion : Except Problem String := .error .notImplemented
  /-- The remedy for a failure. -/
  remedy : Except Problem Unit := .error .notImplemented

/-! ## Prerequisites -/

/-- What is known about prerequisites, the latest first: met, or unmet for a reason. -/
structure Ledger where
  entries : List (String × Option String) := []
  deriving DecidableEq, Repr

namespace Ledger

/-- The prerequisite is met. -/
def satisfied (l : Ledger) (name : String) : Ledger :=
  ⟨(name, none) :: l.entries⟩

/-- The prerequisite is not met. -/
def unsatisfied (l : Ledger) (name reason : String) : Ledger :=
  ⟨(name, some reason) :: l.entries⟩

/-- The prerequisite is met if the attempt to use it succeeded. -/
def record (l : Ledger) (name : String) : Except Failure Unit → Ledger
  | .ok () => l.satisfied name
  | .error failure => l.unsatisfied name failure.text

/-- Why a prerequisite is not met; one that was never mentioned is. -/
def missingReason? (l : Ledger) (name : String) : Option String :=
  (l.entries.lookup name).join

/-- Is the prerequisite met? -/
def isSatisfied (l : Ledger) (name : String) : Bool :=
  (l.missingReason? name).isNone

/-- The first of some prerequisites that is not met, with the reason. -/
def firstMissing? (l : Ledger) (names : List String) : Option (String × String) :=
  names.findSome? fun name => (l.missingReason? name).map fun reason => (name, reason)

end Ledger

/-- The tool that reaches the cluster, as a prerequisite. -/
def toolName : String := "kubectl"

/-- The cluster, as a prerequisite. -/
def clusterName : String := "cluster"

namespace Check

/-- The check, skipped when one of its prerequisites is not met. -/
def requiring (c : Check) (needs : List String) (l : Ledger) : Check :=
  { c with
    run :=
      match l.firstMissing? needs with
      | some (name, reason) => .done (some (.skip (name ++ " unavailable: " ++ reason)))
      | none => c.run }

/-- The check, skipped when the tool or the cluster is not available. -/
def guarded (c : Check) (l : Ledger) : Check :=
  c.requiring [toolName, clusterName] l

end Check

end MeshDoctor
