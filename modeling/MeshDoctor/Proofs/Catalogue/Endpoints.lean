import Mathlib.Algebra.GroupWithZero.Nat
import MeshDoctor.Cluster.Snapshot
import MeshDoctor.Proofs.Catalogue.Outcomes
import MeshDoctor.Proofs.Envoy.RoundTrip

/-!
# Catalogue — endpoints of a destination

A dump lists endpoints by locality, and localities by load assignment.

* `LbEndpoint.IsAt`: the endpoint is a socket of the address.
* `ConfigDump.HasEndpoint`, `ConfigDump.endpointCount`, `ConfigDump.timesListed`: the endpoints of a
  dump, wherever they are listed.
* **`Diagnostic.endpoints_verdict`**: what the checks of endpoints say, and that they depend on how
  often each endpoint is listed, and not on where.
-/

namespace MeshDoctor

open Catalogue Envoy

/-! ## Endpoints of a dump -/

namespace Envoy

/-- The endpoint is a socket of the address. -/
def LbEndpoint.IsAt (e : LbEndpoint) (ip : String) : Prop :=
  ∃ endpoint address socket, e.endpoint = some endpoint ∧ endpoint.address = some address ∧
    address.socket = some socket ∧ socket.address = ip

theorem LbEndpoint.ip?_eq_some_iff {e : LbEndpoint} {ip : String} :
    e.ip? = some ip ↔ e.IsAt ip := by
  simp only [LbEndpoint.ip?, LbEndpoint.IsAt, Option.bind_eq_bind, Option.bind_eq_some_iff,
    Option.some.injEq]
  constructor
  · rintro ⟨endpoint, hendpoint, address, haddress, socket, hsocket, hip⟩
    exact ⟨endpoint, address, socket, hendpoint, haddress, hsocket, hip⟩
  · rintro ⟨endpoint, address, socket, hendpoint, haddress, hsocket, hip⟩
    exact ⟨endpoint, hendpoint, address, haddress, socket, hsocket, hip⟩

namespace ConfigDump

variable (dump : ConfigDump)

/-- A locality of a load assignment has the endpoint. -/
def HasEndpoint (e : LbEndpoint) : Prop :=
  ∃ entry ∈ dump.endpoints.dynamic, ∃ locality ∈ entry.endpointConfig.localities,
    e ∈ locality.endpoints

/-- The number of endpoints in all localities of all load assignments. -/
def endpointCount : Nat :=
  (dump.endpoints.dynamic.map fun entry =>
    (entry.endpointConfig.localities.map (·.endpoints.length)).sum).sum

/-- How often an endpoint is listed in all localities of all load assignments. -/
def timesListed (e : LbEndpoint) : Nat :=
  (dump.endpoints.dynamic.map fun entry =>
    (entry.endpointConfig.localities.map (·.endpoints.count e)).sum).sum

variable {dump} {e : LbEndpoint}

theorem mem_lbEndpoints_iff : e ∈ dump.lbEndpoints ↔ dump.HasEndpoint e := by
  simp [lbEndpoints, loadAssignments, LoadAssignment.lbEndpoints, HasEndpoint]

theorem length_lbEndpoints : dump.lbEndpoints.length = dump.endpointCount := by
  simp [lbEndpoints, loadAssignments, LoadAssignment.lbEndpoints, endpointCount,
    List.length_flatMap, Function.comp_def]

theorem count_lbEndpoints : dump.lbEndpoints.count e = dump.timesListed e := by
  simp [lbEndpoints, loadAssignments, LoadAssignment.lbEndpoints, timesListed,
    List.count_flatMap, Function.comp_def]

/-- Dumps that list every endpoint equally often have the same endpoints in another order. -/
theorem lbEndpoints_perm {dump' : ConfigDump}
    (h : ∀ e, dump'.timesListed e = dump.timesListed e) :
    dump'.lbEndpoints.Perm dump.lbEndpoints := by
  rw [List.perm_iff_count]
  intro e
  rw [count_lbEndpoints, count_lbEndpoints, h]

end ConfigDump

end Envoy

/-! ## The checks -/

namespace Catalogue

variable {w : World} {destination : PodRef} {getter : Option Getter} {dump : ConfigDump}

/-- The number of endpoints decides whether there are any. -/
theorem verdict_hasDestinationEndpoints (hdump : w.finds (loadConfig getter) = .ok dump) :
    w.verdict (hasDestinationEndpoints getter) =
      if dump.endpointCount = 0 then .fail .noDestinationEndpoints
      else .pass (some (toString dump.endpointCount ++ " endpoints")) := by
  rw [hasDestinationEndpoints, World.verdict_bind_of_ok hdump, ConfigDump.length_lbEndpoints]
  dsimp only
  split_ifs <;> rfl

theorem any_ip?_iff {ip : String} :
    dump.lbEndpoints.any (·.ip? = some ip) ↔ ∃ e, dump.HasEndpoint e ∧ e.IsAt ip := by
  simp only [List.any_eq_true, decide_eq_true_eq, LbEndpoint.ip?_eq_some_iff,
    ConfigDump.mem_lbEndpoints_iff]

theorem verdict_hasSpecificEndpoint {pod : Pod} {ip : String}
    (hdump : w.finds (loadConfig getter) = .ok dump)
    (hpod : w.finds (getPod destination) = .ok pod) (hip : pod.ip? = some ip) :
    w.verdict (hasSpecificEndpoint destination getter) =
      if dump.lbEndpoints.any (·.ip? = some ip) then .pass none
      else .fail (.endpointNotFound ip) := by
  rw [hasSpecificEndpoint, World.verdict_bind_of_ok hdump, World.verdict_lookup_of_ok hpod, hip]
  dsimp only
  split_ifs <;> rfl

/-- The search does not depend on where endpoints are listed, also when it does not get that far. -/
theorem verdict_hasSpecificEndpoint_of_perm {getter' : Option Getter} {dump' : ConfigDump}
    (hdump : w.finds (loadConfig getter) = .ok dump)
    (hdump' : w.finds (loadConfig getter') = .ok dump')
    (hperm : dump'.lbEndpoints.Perm dump.lbEndpoints) :
    w.verdict (hasSpecificEndpoint destination getter') =
      w.verdict (hasSpecificEndpoint destination getter) := by
  rw [hasSpecificEndpoint, hasSpecificEndpoint, World.verdict_bind_of_ok hdump,
    World.verdict_bind_of_ok hdump']
  simp only [hperm.any_eq]

end Catalogue

/-- **The checks of endpoints see every endpoint once, however endpoints are grouped.** One counts
them, and the other looks for a socket of the address of the pod. Neither outcome changes as long as
every endpoint is listed equally often, in whichever localities and load assignments. -/
theorem Diagnostic.endpoints_verdict (w : World) (source destination : PodRef)
    (getter : Option Getter) {dump : ConfigDump} (hdump : w.finds (loadConfig getter) = .ok dump) :
    let counted (getter : Option Getter) := (hasDestinationEndpoints source getter).outcome? w
    let found (getter : Option Getter) :=
      (hasSpecificEndpoint source destination getter).outcome? w
    (0 < dump.endpointCount →
      counted getter = some (.pass (some (toString dump.endpointCount ++ " endpoints")))) ∧
    (counted getter = some (.fail .noDestinationEndpoints) ↔ dump.endpointCount = 0) ∧
    (∀ pod ip, w.finds (getPod destination) = .ok pod → pod.ip? = some ip →
      (found getter = some (.pass none) ↔ ∃ e, dump.HasEndpoint e ∧ e.IsAt ip) ∧
      ((¬ ∃ e, dump.HasEndpoint e ∧ e.IsAt ip) →
        found getter = some (.fail (.endpointNotFound ip)))) ∧
    ∀ getter' dump', w.finds (loadConfig getter') = .ok dump' →
      (∀ e, dump'.timesListed e = dump.timesListed e) →
      counted getter' = counted getter ∧ found getter' = found getter := by
  intro counted found
  have hcounted {g : Option Getter} {dump : ConfigDump} (h : w.finds (loadConfig g) = .ok dump) :
      counted g = some (if dump.endpointCount = 0 then .fail .noDestinationEndpoints
        else .pass (some (toString dump.endpointCount ++ " endpoints"))) :=
    (outcome?_eq _ _).trans (congrArg some (verdict_hasDestinationEndpoints h))
  have hfound (g : Option Getter) :
      found g = some (w.verdict (Catalogue.hasSpecificEndpoint destination g)) :=
    outcome?_eq _ _
  refine ⟨fun hpos => ?_, ?_, fun pod ip hpod hip => ?_, fun getter' dump' hdump' htimes => ?_⟩
  · rw [hcounted hdump, if_neg (Nat.pos_iff_ne_zero.mp hpos)]
  · rw [hcounted hdump]
    split_ifs with hzero <;> simp [hzero]
  · rw [hfound, verdict_hasSpecificEndpoint hdump hpod hip, ← any_ip?_iff]
    split_ifs with hany <;> simp [hany]
  · have hperm := ConfigDump.lbEndpoints_perm htimes
    have hcount : dump'.endpointCount = dump.endpointCount := by
      rw [← ConfigDump.length_lbEndpoints, ← ConfigDump.length_lbEndpoints, hperm.length_eq]
    constructor
    · rw [hcounted hdump', hcounted hdump, hcount]
    · rw [hfound, hfound, verdict_hasSpecificEndpoint_of_perm hdump hdump' hperm]

/-! ## A store in two localities -/

/-- A store at an address. -/
def addressedShop : Snapshot where
  objects :=
    [(Kind.pods.name, .object
      [("metadata", .object [("name", .string "store"), ("namespace", .string "stock")]),
        ("status", .object [("podIP", .string "10.0.0.7")])])]

/-- A dump with these endpoints, by load assignment and by locality. -/
def endpointsOver (assignments : List (List (List LbEndpoint))) : ConfigDump where
  endpoints := ⟨assignments.map fun localities => ⟨⟨"stock/store", localities.map (⟨·⟩)⟩⟩⟩

/-- A sidecar with these endpoints. -/
def sidecarWith (assignments : List (List (List LbEndpoint))) : Getter :=
  .canned ⟨"shop", "buyer"⟩ (.ok (endpointsOver assignments).shown)

/-- An endpoint of the store and one without an address are counted and found together, and as well
apart, beside groups without endpoints. -/
theorem Diagnostic.endpoints_verdict_addressed :
    let store : LbEndpoint := ⟨some ⟨some ⟨some ⟨"10.0.0.7", 80⟩⟩⟩⟩
    let counted (assignments : List (List (List LbEndpoint))) :=
      (hasDestinationEndpoints ⟨"shop", "buyer"⟩ (some (sidecarWith assignments))).outcome?
        addressedShop.world
    let found (assignments : List (List (List LbEndpoint))) :=
      (hasSpecificEndpoint ⟨"shop", "buyer"⟩ ⟨"stock", "store"⟩
        (some (sidecarWith assignments))).outcome? addressedShop.world
    (∀ assignments, addressedShop.world.finds (loadConfig (some (sidecarWith assignments))) =
        .ok (endpointsOver assignments)) ∧
      counted [[[store, ⟨none⟩]]] = some (.pass (some "2 endpoints")) ∧
      found [[[store, ⟨none⟩]]] = some (.pass none) ∧
      counted [[[⟨none⟩], []], [], [[store]]] = some (.pass (some "2 endpoints")) ∧
      found [[[⟨none⟩], []], [], [[store]]] = some (.pass none) ∧
      found [[[⟨none⟩]]] = some (.fail (.endpointNotFound "10.0.0.7")) := by
  intro store counted found
  have hdump (assignments : List (List (List LbEndpoint))) :
      addressedShop.world.finds (loadConfig (some (sidecarWith assignments))) =
        .ok (endpointsOver assignments) :=
    finds_loadConfig_canned (ConfigDump.ofText_shown _)
  obtain ⟨pod, hpod, hip⟩ : ∃ pod,
      addressedShop.world.finds (getPod ⟨"stock", "store"⟩) = .ok pod ∧
        pod.ip? = some "10.0.0.7" := ⟨_, rfl, rfl⟩
  have hverdict (assignments : List (List (List LbEndpoint))) :=
    endpoints_verdict addressedShop.world ⟨"shop", "buyer"⟩ ⟨"stock", "store"⟩ _ (hdump assignments)
  obtain ⟨hcounted, -, hfound, hregrouped⟩ := hverdict [[[store, ⟨none⟩]]]
  have htext : toString (endpointsOver [[[store, ⟨none⟩]]]).endpointCount ++ " endpoints" =
      "2 endpoints" := by
    decide +kernel
  have hcount : counted [[[store, ⟨none⟩]]] = some (.pass (some "2 endpoints")) := by
    rw [← htext]
    exact hcounted (by decide)
  have hstore : found [[[store, ⟨none⟩]]] = some (.pass none) :=
    (hfound pod _ hpod hip).1.mpr ⟨store, ⟨_, List.mem_cons_self, _, List.mem_cons_self,
      List.mem_cons_self⟩, _, _, _, rfl, rfl, rfl, rfl⟩
  obtain ⟨hcount', hstore'⟩ := hregrouped _ _ (hdump [[[⟨none⟩], []], [], [[store]]]) fun e => by
    simp only [ConfigDump.timesListed, endpointsOver, List.map_cons, List.map_nil, List.sum_cons,
      List.sum_nil, List.count_cons, List.count_nil]
    omega
  refine ⟨hdump, hcount, hstore, hcount'.trans hcount, hstore'.trans hstore, ?_⟩
  obtain ⟨-, -, hmissing, -⟩ := hverdict [[[⟨none⟩]]]
  refine (hmissing pod _ hpod hip).2 ?_
  rintro ⟨e, ⟨entry, hentry, locality, hlocality, he⟩, endpoint, -, -, hendpoint, -⟩
  obtain rfl := List.mem_singleton.mp hentry
  obtain rfl := List.mem_singleton.mp hlocality
  obtain rfl := List.mem_singleton.mp he
  cases hendpoint

end MeshDoctor
