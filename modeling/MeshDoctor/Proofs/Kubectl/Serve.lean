import MeshDoctor.Kubectl.Serve
import MeshDoctor.Proofs.Inquiry.Kinds

/-!
# Kubectl — what serving an inquiry asks of the machine

* `Kubectl.asks_perform`, `Kubectl.asks_get`, `Kubectl.asks_forward`: one run of the tool.
* `asksOnly_serve`, `serve_of_not_isOutward`: a request that goes out does so by the tool; others
  stay as they are.
* **`filterMap_printed?_serve`**: serving an inquiry prints what the inquiry prints.
-/

namespace MeshDoctor

open Inquiry

/-! ## Runs of the tool -/

namespace Kubectl

variable (k : Kubectl)

theorem asksOnly_perform (arguments : List String) (context : Option String) :
    (k.perform arguments context).run.AsksOnly (·.isToolUse) :=
  .bind (.within (.request (by rfl)) _) fun _ => trivial

theorem asksOnly_get (kind : String) (ns : Option String) (name : String) :
    (k.get kind ns name).run.AsksOnly (·.isToolUse) :=
  .bind (.within (.request (by rfl)) _) fun _ => trivial

theorem asksOnly_list (kind : String) (q : ListQuery) :
    (k.list kind q).run.AsksOnly (·.isToolUse) := by
  refine .bind (k.asksOnly_perform _ _) fun text => ?_
  split <;> trivial

theorem asksOnly_forward (pod : PodRef) (port : Nat) :
    (k.forward pod port).run.AsksOnly (·.isToolUse) :=
  .bind (.within (.request (by rfl)) _) fun _ => trivial

section Asks

variable {σ : Type} (host : Inquiry.Host σ) (s : σ)

theorem asks_perform (arguments : List String) (context : Option String) :
    host.asks (k.perform arguments context) s = [.run (k.invocation arguments)] := by
  rw [perform, Host.asks_bind_of_silent _ _ _ _ fun _ _ => rfl, Host.asks_within,
    Host.asks_request]

theorem asks_get (kind : String) (ns : Option String) (name : String) :
    host.asks (k.get kind ns name) s = [.run (k.invocation (getArguments kind ns name))] := by
  rw [get, Host.asks_bind_of_silent _ _ _ _ fun _ _ => rfl, Host.asks_within, Host.asks_request]

theorem asks_forward (pod : PodRef) (port : Nat) :
    host.asks (k.forward pod port) s = [.start (k.invocation (forwardArguments pod port))] := by
  rw [forward, Host.asks_bind_of_silent _ _ _ _ fun _ _ => rfl, Host.asks_within,
    Host.asks_request]

end Asks

namespace Access

variable (a : Access)

theorem asksOnly_sidecar (pod : PodRef) : (a.sidecar pod).run.AsksOnly (·.isToolUse) :=
  .bind (a.kubectl.asksOnly_forward pod a.adminPort) fun _ =>
    .bind (.request (by rfl)) fun _ => trivial

theorem asksOnly_serve {r : Request} (h : r.isOutward) :
    (a.serve r).AsksOnly (·.isToolUse) := by
  cases r with
  | get kind ns name => exact a.kubectl.asksOnly_get kind ns name
  | list kind q => exact a.kubectl.asksOnly_list kind q
  | exec pod container command => exact a.kubectl.asksOnly_perform _ _
  | logs pod container => exact a.kubectl.asksOnly_perform _ _
  | sidecar pod => exact a.asksOnly_sidecar pod
  | run invocation | start invocation | admin port => exact ⟨rfl, fun _ => trivial⟩
  | _ => cases h

theorem serve_of_not_isOutward {r : Request} (h : r.isOutward = false) :
    a.serve r = .ask r .done := by
  cases r <;> first | rfl | cases h

/-- **Serving an inquiry prints what the inquiry prints.** -/
theorem filterMap_printed?_serve {α σ : Type} (host : Inquiry.Host σ) (x : Inquiry α) (s : σ) :
    ((x.substitute a.serve).requests host s).filterMap Request.printed? =
      (x.requests (host.through a.serve) s).filterMap Request.printed? := by
  refine filterMap_requests_substitute a.serve (fun r s => ?_) x s
  -- What goes out prints nothing, and what does not is its own service.
  cases h : r.isOutward with
  | true =>
    rw [Request.printed?_of_isOutward h, Option.toList_none, List.filterMap_eq_nil_iff]
    intro r' hr'
    have htool : r'.isToolUse := (a.asksOnly_serve h).of_mem_requests hr'
    exact Request.printed?_of_isOutward (Request.isOutward_of_isToolUse htool)
  | false =>
    rw [a.serve_of_not_isOutward h]
    cases hr : r.printed? <;> simp [hr]

/-- An inquiry that stays on the machine does so when it is served. -/
theorem asksOnly_substitute_serve {α : Type} {x : Inquiry α}
    (hx : x.AsksOnly (·.isOutward = false)) :
    (x.substitute a.serve).AsksOnly (·.isOutward = false) := by
  refine hx.substitute fun r hr => ?_
  rw [a.serve_of_not_isOutward hr]
  exact ⟨hr, fun _ => trivial⟩

end Access

end Kubectl

end MeshDoctor
