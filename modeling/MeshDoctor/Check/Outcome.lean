import MeshDoctor.Check.Problem

/-!
# Outcomes

* `Outcome`: the result of a check; only a failure carries a problem, and never a text.
* `Outcome.ofResult`: a problem on the way is a failure.
-/

namespace MeshDoctor

/-- The kind of an outcome. -/
inductive Status where
  | pass
  | fail
  | info
  | skip
  | unknown
  deriving DecidableEq, Repr

/-- The word for a kind of outcome. -/
def Status.word : Status → String
  | .pass => "Pass"
  | .fail => "Fail"
  | .info => "Info"
  | .skip => "Skip"
  | .unknown => "Unknown"

/-- The result of a check. -/
inductive Outcome where
  | pass (message : Option String)
  | fail (problem : Problem)
  | info (text : String)
  | skip (reason : String)
  | unknown
  deriving DecidableEq, Repr

namespace Outcome

/-- A pass that says something. -/
def passWith (message : String) : Outcome := pass (some message)

/-- The kind of an outcome. -/
def status : Outcome → Status
  | pass _ => .pass
  | fail _ => .fail
  | info _ => .info
  | skip _ => .skip
  | unknown => .unknown

/-- The text of an outcome, empty for a failure. -/
def diagnostics : Outcome → String
  | pass message => message.getD ""
  | info text => text
  | skip reason => reason
  | fail _ => ""
  | unknown => ""

/-- The problem of a failure. -/
def problem? : Outcome → Option Problem
  | fail problem => some problem
  | _ => none

/-- Is the outcome a failure? -/
def isFail (o : Outcome) : Bool := o.status = .fail

/-- A problem on the way is a failure. -/
def ofResult : Except Problem Outcome → Outcome
  | .ok outcome => outcome
  | .error problem => fail problem

end Outcome

end MeshDoctor
