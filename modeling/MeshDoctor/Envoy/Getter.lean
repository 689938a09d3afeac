import MeshDoctor.Envoy.ConfigDump
import MeshDoctor.Inquiry.Basic

/-!
# Envoy — reading a sidecar

* `Getter`: how the configuration of the sidecar of one pod is obtained, from a fixed answer or by
  asking the sidecar.
* `Getter.raw`, `Getter.config`: what the sidecar shows, as a text and decoded.
-/

namespace MeshDoctor.Envoy

/-- How the configuration of the sidecar of a pod is obtained. -/
inductive Getter where
  /-- The answer is fixed. -/
  | canned (pod : PodRef) (answer : Except Failure String)
  /-- The sidecar is asked. -/
  | asking (pod : PodRef)

namespace Getter

/-- The pod whose sidecar is read. -/
def pod : Getter → PodRef
  | canned pod _ => pod
  | asking pod => pod

/-- What the sidecar shows. -/
def raw : Getter → Lookup String
  | canned _ answer => .ofResult answer
  | asking pod => request (.sidecar pod)

/-- Decodes what a sidecar shows. -/
def decode (pod : PodRef) (text : String) : Except Failure ConfigDump :=
  addContext ("Failed to parse Envoy config of " ++ pod.text) (ConfigDump.ofText text)

/-- The configuration of the sidecar. -/
def config (g : Getter) : Lookup ConfigDump := do
  let text ← g.raw
  .ofResult (decode g.pod text)

end Getter

end MeshDoctor.Envoy
