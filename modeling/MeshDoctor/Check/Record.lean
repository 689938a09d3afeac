import MeshDoctor.Check.Basic

/-!
# Records

* `Record`: the flat result of a check; advice is kept for failures only.
* `runChecks`: one record for each check, in order.
* `Summary`: the counts over records.
-/

namespace MeshDoctor

/-- The flat result of a check. -/
structure Record where
  description : String
  status : Status
  diagnostics : String := ""
  suggestion : Option String := none
  problem : Option Problem := none
  deriving DecidableEq, Repr

/-- The record of a check with an outcome. -/
def Record.of (c : Check) (outcome : Outcome) : Record where
  description := c.description
  status := outcome.status
  diagnostics := outcome.diagnostics
  suggestion := if outcome.isFail then c.suggestion.toOption else none
  problem := outcome.problem?

/-- Runs a check. -/
def Check.record (c : Check) : Inquiry Record := do
  let outcome ← c.run
  pure (Record.of c (outcome.getD .unknown))

/-- Runs checks one after the other. -/
def runChecks : List Check → Inquiry (List Record)
  | [] => pure []
  | c :: rest => do
    let record ← c.record
    let records ← runChecks rest
    pure (record :: records)

/-- The counts over records. -/
structure Summary where
  total : Nat := 0
  passed : Nat := 0
  failed : Nat := 0
  deriving DecidableEq, Repr

namespace Summary

/-- Counts records. -/
def ofRecords (records : List Record) : Summary where
  total := records.length
  passed := records.countP (·.status = .pass)
  failed := records.countP (·.status = .fail)

/-- Did a check fail? -/
def hasFailures (s : Summary) : Bool := 0 < s.failed

end Summary

end MeshDoctor
