import MeshDoctor.Failure
import MeshDoctor.Text.Pieces

/-!
# Pod references

A pod is addressed as `namespace/name`, with exactly one slash and something on both sides of it.

* `PodRef.text`: the written reference.
* `PodRef.read`: the reference that a text denotes, else the reason why there is none.
-/

namespace MeshDoctor

/-- The address of a pod. -/
structure PodRef where
  «namespace» : String
  name : String
  deriving DecidableEq, Repr, Inhabited

namespace PodRef

/-- The written reference. -/
def text (pod : PodRef) : String :=
  pod.namespace ++ "/" ++ pod.name

/-- The reference that a text denotes. -/
def read? (text : String) : Option PodRef :=
  match Text.cutFirst '/' text.toList with
  | some (ns, name) =>
    if ns ≠ [] ∧ name ≠ [] ∧ '/' ∉ name then some ⟨String.ofList ns, String.ofList name⟩ else none
  | none => none

/-- The reference that a text denotes, else the reason why there is none. -/
def read (text : String) : Except Failure PodRef :=
  match read? text with
  | some pod => .ok pod
  | none => .error (.say ("Invalid pod reference '" ++ text ++ "': expected namespace/name"))

end PodRef

end MeshDoctor
