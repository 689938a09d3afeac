import MeshDoctor.Envoy.Admin
import MeshDoctor.Kubectl.PortForward

/-!
# Kubectl — serving an inquiry

An inquiry about a cluster becomes one about a machine with the tool on it.

* `Kubectl.Access`: the tool, the admin port of sidecars and the time to wait for them.
* `Kubectl.Access.sidecar`: the configuration of a sidecar, over a forwarded port.
* `Kubectl.Access.serve`: each request on the cluster as runs of the tool.
-/

namespace MeshDoctor

namespace Kubectl

/-- How a machine reaches a cluster. -/
structure Access where
  kubectl : Kubectl
  /-- The port of the admin interface inside a pod. -/
  adminPort : Nat
  /-- The milliseconds to wait for it. -/
  timeout : Nat
  deriving DecidableEq, Repr

namespace Access

/-- The configuration that the sidecar of a pod shows, over a freshly forwarded port. -/
def sidecar (a : Access) (pod : PodRef) : Lookup String := do
  let port ← a.kubectl.forward pod a.adminPort
  let endpoint ← request (.admin port)
  .ofResult (Endpoint.configDump endpoint pod a.timeout).result

/-- What a request on the cluster asks of the machine; other requests are for the machine. -/
def serve (a : Access) : (r : Request) → Inquiry (Except Failure r.Answer)
  | .get kind ns name => (a.kubectl.get kind ns name).run
  | .list kind q => (a.kubectl.list kind q).run
  | .exec pod container command => (a.kubectl.exec pod container command).run
  | .logs pod container => (a.kubectl.logs pod container).run
  | .sidecar pod => (a.sidecar pod).run
  | r => .ask r .done

end Access

end Kubectl

end MeshDoctor
