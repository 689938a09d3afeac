import MeshDoctor.Proofs.Inquiry.Surroundings

/-!
# Inquiries — kinds of requests

* `Request.isOnCluster`, `Request.isToolUse`, `Request.isOutward`: is a request for the cluster, for
  a tool that reaches it, or for one of them?
* `Request.printed?`: the text that a request prints.
* `Request.isAside`: any other request.
-/

namespace MeshDoctor

namespace Request

/-- Is the request for the cluster? -/
def isOnCluster : Request → Bool
  | get .. | list .. | exec .. | logs .. | sidecar .. => true
  | _ => false

/-- Does the request use a tool that reaches the cluster? -/
def isToolUse : Request → Bool
  | run .. | start .. | admin .. => true
  | _ => false

/-- Does the request go to the cluster, itself or by a tool? -/
def isOutward (r : Request) : Bool := r.isOnCluster || r.isToolUse

/-- The text that the request prints. -/
def printed? : Request → Option String
  | print text => some text
  | _ => none

/-- Does the request stay on the machine and print nothing? -/
def isAside (r : Request) : Bool := !r.isOutward && r.printed?.isNone

theorem isOutward_of_isAside {r : Request} (h : r.isAside) : r.isOutward = false := by
  simp only [isAside, Bool.and_eq_true, Bool.not_eq_true'] at h
  exact h.1

theorem printed?_of_isAside {r : Request} (h : r.isAside) : r.printed? = none := by
  simp only [isAside, Bool.and_eq_true, Option.isNone_iff_eq_none] at h
  exact h.2

theorem printed?_of_isOutward {r : Request} (h : r.isOutward) : r.printed? = none := by
  cases r <;> first | rfl | cases h

theorem isOutward_of_isOnCluster {r : Request} (h : r.isOnCluster) : r.isOutward := by
  rw [isOutward, h, Bool.true_or]

theorem isOutward_of_isToolUse {r : Request} (h : r.isToolUse) : r.isOutward := by
  rw [isOutward, h, Bool.or_true]

end Request

namespace Inquiry.AsksOnly

variable {α : Type} {x : Inquiry α} (hx : x.AsksOnly (·.isAside))
include hx

theorem not_isOutward : x.AsksOnly (·.isOutward = false) :=
  hx.mono fun _ => Request.isOutward_of_isAside

theorem printed?_eq_none : x.AsksOnly (·.printed? = none) :=
  hx.mono fun _ => Request.printed?_of_isAside

end Inquiry.AsksOnly

end MeshDoctor
