import MeshDoctor.Check.Record
import MeshDoctor.Report.Table

/-!
# Reports — results

* `Record.details`: what a record says besides its status.
* `resultsTable`: one row for each record.
* `Summary.line`: the counts in one line.
* `reportText`: the whole report of a run.
-/

namespace MeshDoctor

/-- The colour of a status. -/
def Status.colour : Status → Colour
  | .pass => .green
  | .fail => .red
  | .info => .cyan
  | .skip => .yellow
  | .unknown => .grey

/-- What a record says besides its status: diagnostics, problem and advice. -/
def Record.details (r : Record) : String :=
  String.intercalate "\n"
    ((if r.diagnostics.isEmpty then [] else [r.diagnostics])
      ++ (r.problem.toList.map fun p => "Error: " ++ p.fullText)
      ++ r.suggestion.toList.map fun s => "Suggestion: " ++ s)

/-- The row of the record of this number. -/
def Record.row (r : Record) (number : Nat) : List Cell :=
  [.ofText (toString number), .ofText r.description, .ofText r.status.word (some r.status.colour),
    .ofText r.details]

/-- The rows of records that are numbered from `number` on. -/
def resultRows (number : Nat) : List Record → List (List Cell)
  | [] => []
  | r :: rest => r.row number :: resultRows (number + 1) rest

/-- The table of records. -/
def resultsTable (records : List Record) : Table where
  heading := ["#", "Check", "Status", "Details"].map fun title => .ofText title (some .cyan)
  rows := resultRows 1 records

/-- The counts in one line, red and bold when a check failed and green otherwise. -/
def Summary.line (s : Summary) (styled : Bool) : String :=
  let text := toString s.total ++ " checks run, " ++ toString s.failed ++ " failed"
  if !styled then text
  else if s.hasFailures then escape "1;31" ++ text ++ escape "0"
  else escape "32" ++ text ++ escape "0"

/-- The report of a run. -/
def reportText (records : List Record) (styled : Bool) : String :=
  (resultsTable records).render styled ++ "\n" ++ (Summary.ofRecords records).line styled ++ "\n"

end MeshDoctor
