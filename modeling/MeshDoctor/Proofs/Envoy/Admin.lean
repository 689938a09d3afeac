import MeshDoctor.Kubectl.Serve
import MeshDoctor.Proofs.Inquiry.Finds
import MeshDoctor.Proofs.Polling

/-!
# Envoy — waiting for the admin interface

The statements are about any answers of the interface, and about any clock.

* `Endpoint.TurnsReady`, `Endpoint.GivesUp`: the attempt that ends the waiting, and how.
* `Endpoint.Concludes`: what an exchange comes to on a clock.
* `Endpoint.concludes_iff`: an exchange ends when the interface turns ready, or is given up.
* **`Endpoint.waitsFirst_configDump`**: the configuration is read once, after the first success.
-/

namespace MeshDoctor

namespace Endpoint

section

variable (e : Endpoint) (elapsed : Nat → Nat) (timeout : Nat)

/-- Does attempt `n` find the interface ready? -/
def IsReady (n : Nat) : Prop := ∃ r, e.ready n = some r ∧ r.isSuccess

/-- Has every answer to an attempt a body to read? -/
def IsReadable : Prop := ∀ n r, e.ready n = some r → r.body.isSome

/-- Does attempt `n` not find the interface ready, with time for another one? -/
def IsPending (n : Nat) : Prop := ¬ e.IsReady n ∧ elapsed n ≤ timeout

/-- Is attempt `n` the first to find the interface ready, and made in time? -/
def TurnsReady (n : Nat) : Prop := e.IsReady n ∧ ∀ m < n, e.IsPending elapsed timeout m

/-- Is the time found to be over after attempt `n`? -/
def GivesUp (n : Nat) : Prop :=
  (¬ e.IsReady n ∧ timeout < elapsed n) ∧ ∀ m < n, e.IsPending elapsed timeout m

variable (pod : PodRef)

/-- Does the exchange come to `x` on this clock? -/
def Concludes (x : Exchange) : Prop :=
  ∃ waited, ComesTo elapsed timeout (awaited pod) (fun n => (e.readyStep pod n).patient) waited ∧
    e.afterWaiting pod waited = x

/-- The exchanges that end with a last attempt. -/
inductive Ends : Exchange → Prop
  | read {n : Nat} (h : e.TurnsReady elapsed timeout n) :
      Ends ⟨fetch pod dumpPath e.dump, List.replicate (n + 1) readyPath ++ [dumpPath]⟩
  | gaveUp {n : Nat} (h : e.GivesUp elapsed timeout n) :
      Ends ⟨.error (timeoutFailure timeout (awaited pod)), List.replicate (n + 1) readyPath⟩

/-- Does an exchange wait until the interface is ready, and then read the configuration once? -/
structure Exchange.WaitsFirst (x : Exchange) : Prop where
  /-- Whether the interface is ready is asked one or more times, the configuration at most once. -/
  paths : ∃ n, x.paths = List.replicate (n + 1) readyPath ∨
    x.paths = List.replicate (n + 1) readyPath ++ [dumpPath]
  /-- The configuration is asked for right after the first success, if it is one in time. -/
  asked_iff : ∀ n, x.paths = List.replicate (n + 1) readyPath ++ [dumpPath] ↔
    e.TurnsReady elapsed timeout n
  /-- The result is the body of a success that answers this request. -/
  ok_iff : ∀ body, x.result = .ok body ↔ (∃ n, e.TurnsReady elapsed timeout n) ∧
    ∃ r, e.dump = some r ∧ r.isSuccess ∧ r.body = some body
  /-- Without a success in time, the failure is that the time is over. -/
  timedOut : (∀ n, ¬ e.TurnsReady elapsed timeout n) →
    x.result = .error (timeoutFailure timeout (awaited pod)) ∧ dumpPath ∉ x.paths
  /-- Any other status of the configuration is a failure that names the path and the status. -/
  refused : dumpPath ∈ x.paths → ∀ r, e.dump = some r → ¬ r.isSuccess →
    x.result = .error (.say ("Envoy admin " ++ dumpPath ++ " returned " ++ statusText r.status ++
      ": " ++ Text.trim (r.body.getD "")))

end

variable {e : Endpoint} {elapsed : Nat → Nat} {timeout : Nat} {pod : PodRef} {n k : Nat}

/-! ## Answers -/

/-- A body is read from a success that has one. -/
theorem fetch_eq_ok_iff {path body : String} {answer : Option Reply} :
    fetch pod path answer = .ok body ↔
      ∃ r, answer = some r ∧ r.isSuccess ∧ r.body = some body := by
  cases answer with
  | none => simp [fetch]
  | some r =>
    by_cases hsuccess : r.isSuccess = true
    · cases hbody : r.body <;> simp [fetch, hsuccess, hbody]
    · simp [fetch, hsuccess]

theorem fetch_of_not_isSuccess {path : String} {r : Reply} (h : ¬ r.isSuccess) :
    fetch pod path (some r) = .error (.say ("Envoy admin " ++ path ++ " returned "
      ++ statusText r.status ++ ": " ++ Text.trim (r.body.getD ""))) := by
  rw [fetch, if_neg h]

/-! ## Attempts -/

theorem patient_readyStep_of_isReady (hreadable : e.IsReadable) (h : e.IsReady n) (pod : PodRef) :
    (e.readyStep pod n).patient = .ready () := by
  obtain ⟨r, hr, hsuccess⟩ := h
  obtain ⟨body, hbody⟩ := Option.isSome_iff_exists.mp (hreadable n r hr)
  rw [readyStep, fetch_eq_ok_iff.mpr ⟨r, hr, hsuccess, hbody⟩]
  rfl

theorem patient_readyStep_of_not_isReady (h : ¬ e.IsReady n) (pod : PodRef) :
    (e.readyStep pod n).patient = .notYet := by
  rw [readyStep]
  cases hfetch : fetch pod readyPath (e.ready n) with
  | ok body =>
    obtain ⟨r, hr, hsuccess, -⟩ := fetch_eq_ok_iff.mp hfetch
    exact absurd ⟨r, hr, hsuccess⟩ h
  | error f => rfl

theorem isVain_iff (hreadable : e.IsReadable) :
    IsVain elapsed timeout (fun n => (e.readyStep pod n).patient) n ↔
      e.IsPending elapsed timeout n := by
  by_cases h : e.IsReady n
  · simp [IsVain, IsPending, h, patient_readyStep_of_isReady hreadable h]
  · simp [IsVain, IsPending, h, patient_readyStep_of_not_isReady h]

/-- The last attempt finds the interface ready, or the time over. -/
theorem endsAt_iff (hreadable : e.IsReadable) {description : String} {waited : Polled Unit} :
    EndsAt elapsed timeout description (fun n => (e.readyStep pod n).patient) n waited ↔
      (e.IsReady n ∧ waited = ⟨.ok (), n + 1⟩) ∨
        (¬ e.IsReady n ∧ timeout < elapsed n) ∧
          waited = ⟨.error (timeoutFailure timeout description), n + 1⟩ := by
  by_cases hready : e.IsReady n
  · have hstep := patient_readyStep_of_isReady hreadable hready pod
    constructor
    · intro h
      cases h with
      | ready h => exact .inl ⟨hready, rfl⟩
      | failed h => cases hstep.symm.trans h
      | timedOut h => cases hstep.symm.trans h
    · rintro (⟨-, rfl⟩ | ⟨⟨h, -⟩, -⟩)
      · exact .ready hstep
      · exact absurd hready h
  · have hstep := patient_readyStep_of_not_isReady hready pod
    constructor
    · intro h
      cases h with
      | ready h => cases hstep.symm.trans h
      | failed h => cases hstep.symm.trans h
      | timedOut _ hlate => exact .inr ⟨⟨hready, hlate⟩, rfl⟩
    · rintro (⟨h, -⟩ | ⟨⟨-, hlate⟩, rfl⟩)
      · exact absurd h hready
      · exact .timedOut hstep hlate

/-! ## The whole exchange -/

/-- **An exchange ends when the interface turns ready, or is given up.** -/
theorem concludes_iff (hreadable : e.IsReadable) {x : Exchange} :
    e.Concludes elapsed timeout pod x ↔ e.Ends elapsed timeout pod x := by
  simp only [Concludes, comesTo_iff, isVain_iff hreadable, endsAt_iff hreadable]
  constructor
  · rintro ⟨waited, ⟨n, hbefore, ⟨hready, rfl⟩ | ⟨hlate, rfl⟩⟩, rfl⟩
    · exact .read ⟨hready, hbefore⟩
    · exact .gaveUp ⟨hlate, hbefore⟩
  · rintro (⟨hready, hbefore⟩ | ⟨hlate, hbefore⟩)
    · exact ⟨_, ⟨_, hbefore, .inl ⟨hready, rfl⟩⟩, rfl⟩
    · exact ⟨_, ⟨_, hbefore, .inr ⟨hlate, rfl⟩⟩, rfl⟩

/-- An exchange that comes to nothing finds the interface pending for ever. -/
theorem exists_concludes_or_isPending (hreadable : e.IsReadable) :
    (∃ x, e.Concludes elapsed timeout pod x) ∨ ∀ n, e.IsPending elapsed timeout n := by
  rcases exists_comesTo_or_isVain elapsed timeout (awaited pod)
    (fun n => (e.readyStep pod n).patient) with ⟨waited, h⟩ | hvain
  · exact .inl ⟨_, waited, h, rfl⟩
  · exact .inr fun n => (isVain_iff hreadable).mp (hvain n)

/-- On the clock of the interface, an exchange comes to what the configuration is. -/
theorem concludes_configDump (e : Endpoint) (timeout : Nat) (pod : PodRef) :
    e.Concludes e.clock.elapsed timeout pod (e.configDump pod timeout) :=
  ⟨e.awaitReady pod timeout, comesTo_poll e.clock (by decide) timeout _ _, rfl⟩

theorem TurnsReady.unique (h : e.TurnsReady elapsed timeout n)
    (h' : e.TurnsReady elapsed timeout k) : n = k :=
  eq_of_first_not (fun hpending => hpending.1 h.1) h.2 (fun hpending => hpending.1 h'.1) h'.2

theorem TurnsReady.not_givesUp (h : e.TurnsReady elapsed timeout n) :
    ¬ e.GivesUp elapsed timeout k := by
  rintro ⟨hlate, hbefore⟩
  -- Both would be the first attempt that does not leave the interface pending.
  obtain rfl := eq_of_first_not (fun hpending => hpending.1 h.1) h.2
    (fun hpending => Nat.not_lt.mpr hpending.2 hlate.2) hbefore
  exact hlate.1 h.1

theorem dumpPath_notMem_replicate (n : Nat) : dumpPath ∉ List.replicate n readyPath := fun h =>
  absurd (List.eq_of_mem_replicate h) (by decide)

/-- An exchange that reads the configuration waits for it. -/
theorem TurnsReady.waitsFirst (h : e.TurnsReady elapsed timeout n) :
    (⟨fetch pod dumpPath e.dump, List.replicate (n + 1) readyPath ++ [dumpPath]⟩ :
      Exchange).WaitsFirst e elapsed timeout pod where
  paths := ⟨n, .inr rfl⟩
  asked_iff k := by
    refine ⟨fun hpaths => ?_, fun h' => by rw [h.unique h']⟩
    -- The number of attempts tells at which of them the interface was ready.
    have hlength := congrArg List.length hpaths
    simp only [List.length_append, List.length_replicate, List.length_singleton] at hlength
    obtain rfl : n = k := by omega
    exact h
  ok_iff body := by
    rw [fetch_eq_ok_iff]
    exact (and_iff_right ⟨n, h⟩).symm
  timedOut hnever := absurd h (hnever n)
  refused _ r hr hstatus := by
    simp only [hr]
    exact fetch_of_not_isSuccess hstatus

/-- An exchange that is given up does not read it. -/
theorem GivesUp.waitsFirst (h : e.GivesUp elapsed timeout n) :
    (⟨.error (timeoutFailure timeout (awaited pod)), List.replicate (n + 1) readyPath⟩ :
      Exchange).WaitsFirst e elapsed timeout pod := by
  have hsilent := dumpPath_notMem_replicate (n + 1)
  have hnever : ∀ k, ¬ e.TurnsReady elapsed timeout k := fun k hready => hready.not_givesUp h
  exact {
    paths := ⟨n, .inl rfl⟩
    asked_iff := fun k => by
      refine iff_of_false (fun hpaths => hsilent ?_) (hnever k)
      rw [show List.replicate (n + 1) readyPath = _ from hpaths]
      exact List.mem_append_right _ List.mem_cons_self
    ok_iff := fun body => by simp [hnever]
    timedOut := fun _ => ⟨rfl, hsilent⟩
    refused := fun hasked => absurd hasked hsilent }

theorem Ends.waitsFirst {x : Exchange} (h : e.Ends elapsed timeout pod x) :
    x.WaitsFirst e elapsed timeout pod := by
  cases h with
  | read h => exact h.waitsFirst
  | gaveUp h => exact h.waitsFirst

/-- **The configuration is read once, after the first success.** Whatever the interface answers, and
whatever the clock: an exchange that comes to an end has waited for a success, one that does not is
still waiting, and what a sidecar shows over an open port is such an exchange. -/
theorem waitsFirst_configDump (e : Endpoint) (hreadable : e.IsReadable) (elapsed : Nat → Nat)
    (timeout : Nat) (pod : PodRef) :
    (∀ x, e.Concludes elapsed timeout pod x → x.WaitsFirst e elapsed timeout pod) ∧
      ((∃ x, e.Concludes elapsed timeout pod x) ∨ ∀ n, e.IsPending elapsed timeout n) ∧
      e.Concludes e.clock.elapsed timeout pod (e.configDump pod timeout) ∧
      ∀ (a : Kubectl.Access) (w : World) (port : Nat), a.timeout = timeout →
        w.finds (a.kubectl.forward pod a.adminPort) = .ok port → w (.admin port) = .ok e →
          w.finds (a.sidecar pod) = (e.configDump pod timeout).result := by
  refine ⟨fun x hx => ((concludes_iff hreadable).mp hx).waitsFirst,
    exists_concludes_or_isPending hreadable, concludes_configDump e timeout pod, ?_⟩
  rintro a w port rfl hport hadmin
  have hasked : w.finds (request (.admin port)) = .ok e := hadmin
  rw [Kubectl.Access.sidecar, World.finds_bind_of_ok hport, World.finds_bind_of_ok hasked]
  rfl

/-- An interface that is not reached at first, then still starting, then ready. -/
def startingEndpoint (dump : Reply) : Endpoint where
  ready
    | 0 => none
    | 1 => some ⟨503, "PRE_INITIALIZING"⟩
    | _ => some ⟨200, "LIVE"⟩
  clock := .least adminInterval
  dump := dump

/-- A machine on which a port is forwarded to an interface. -/
def forwardingMachine (e : Endpoint) : World
  | .start _ => .ok ⟨Text.encode "Forwarding from 127.0.0.1:54321 -> 15000\n", false⟩
  | .admin _ => .ok e
  | r => World.silent r

/-- The starting interface is asked three times; then its refusal is what a sidecar shows. -/
theorem waitsFirst_configDump_starting :
    let e := startingEndpoint ⟨500, "no clusters\n"⟩
    let x := e.configDump ⟨"shop", "buyer"⟩ 1000
    let a : Kubectl.Access := ⟨⟨"kubectl", none, none⟩, 15000, 1000⟩
    e.IsReadable ∧ e.TurnsReady e.clock.elapsed 1000 2 ∧
      x.paths = ["/ready", "/ready", "/ready", "/config_dump?include_eds"] ∧
      (forwardingMachine e).finds (a.kubectl.forward ⟨"shop", "buyer"⟩ a.adminPort) = .ok 54321 ∧
      (forwardingMachine e).finds (a.sidecar ⟨"shop", "buyer"⟩) = .error (.say
        ("Envoy admin /config_dump?include_eds returned 500 Internal Server Error: " ++
          "no clusters")) := by
  intro e x a
  have hreadable : e.IsReadable := by
    rintro (_ | _ | n) r hr
    · cases hr
    · cases hr
      rfl
    · cases hr
      rfl
  have hready : e.TurnsReady e.clock.elapsed 1000 2 := by
    refine ⟨⟨_, rfl, rfl⟩, fun m hm => ?_⟩
    obtain rfl | rfl : m = 0 ∨ m = 1 := by omega
    · refine ⟨fun ⟨r, hr, _⟩ => ?_, by decide⟩
      cases hr
    · refine ⟨fun ⟨r, hr, hsuccess⟩ => ?_, by decide⟩
      cases hr
      cases hsuccess
  have hport : (forwardingMachine e).finds (a.kubectl.forward ⟨"shop", "buyer"⟩ a.adminPort) =
      .ok 54321 := by decide +kernel
  obtain ⟨hwaits, -, hconcludes, hsidecar⟩ :=
    waitsFirst_configDump e hreadable e.clock.elapsed 1000 ⟨"shop", "buyer"⟩
  have h := hwaits x hconcludes
  have hpaths := (h.asked_iff 2).mpr hready
  have hrefused := h.refused (by simp [hpaths]) _ rfl (by decide)
  refine ⟨hreadable, hready, hpaths, hport, (hsidecar a _ _ rfl hport rfl).trans ?_⟩
  exact hrefused.trans (by decide +kernel)

end Endpoint

end MeshDoctor
