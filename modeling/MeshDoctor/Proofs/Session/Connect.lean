import MeshDoctor.Proofs.Check.Ledger
import MeshDoctor.Proofs.Kubectl.Serve
import MeshDoctor.Session

/-!
# Sessions — connecting

* `Kubectl.versionRun`, `Kubectl.readyRun`: the two runs that try the tool and the cluster.
* `Kubectl.IsAvailable`: the tool is there, and the cluster answers it.
* `Kubectl.availabilityRuns`: the second run is made only if the first succeeds.
* `Session.isReady_iff`: a session is ready if no prerequisite is missing.
* `Session.finds_connect_of_error`: without a configuration, connecting fails.
* **`Session.exists_finds_connect`**: with one, it succeeds, and the session is ready exactly when
  the cluster is available.
* **`Session.filter_asks_connect`**: connecting makes no other requests on the cluster than the two
  runs.
-/

namespace MeshDoctor

open Inquiry

variable {σ : Type} (host : Inquiry.Host σ)

/-! ## Availability -/

/-- Does a run of a tool succeed? -/
def Inquiry.Host.succeeds (i : Invocation) (s : σ) : Bool :=
  match (host (.run i) s).1 with
  | .ok o => ToolOutput.success o
  | .error _ => false

namespace Kubectl

variable (k : Kubectl)

/-- The run that asks the tool for its version. -/
def versionRun : Invocation where
  program := k.program
  arguments := ["version", "--client"]

/-- The run that asks the cluster whether it is ready. -/
def readyRun : Invocation := k.invocation ["get", "--raw", "/readyz"]

/-- The tool is there, and the cluster answers it. -/
def IsAvailable (s : σ) : Prop :=
  host.succeeds k.versionRun s ∧ host.succeeds k.readyRun (host (.run k.versionRun) s).2

/-- The runs that try the tool and the cluster, the second only if the tool is there. -/
def availabilityRuns (s : σ) : List Request :=
  if host.succeeds k.versionRun s then [.run k.versionRun, .run k.readyRun]
  else [.run k.versionRun]

variable (s : σ)

theorem finds_probe :
    host.finds k.probe s =
      if host.succeeds k.versionRun s then .ok () else .error (missingTool k.program) := by
  rw [Host.finds, probe, ExceptT.run_mk, runState_ask, Host.succeeds, versionRun]
  cases (host (.run { program := k.program, arguments := ["version", "--client"] }) s).1 with
  | ok o => rfl
  | error f => rfl

theorem asks_probe : host.asks k.probe s = [.run k.versionRun] := by
  rw [Host.asks, probe, ExceptT.run_mk, requests_ask, versionRun]
  cases (host (.run { program := k.program, arguments := ["version", "--client"] }) s).1 with
  | ok o => rfl
  | error f => rfl

theorem after_probe : host.after k.probe s = (host (.run k.versionRun) s).2 := by
  rw [Host.after, probe, ExceptT.run_mk, runState_ask, versionRun]
  cases (host (.run { program := k.program, arguments := ["version", "--client"] }) s).1 with
  | ok o => rfl
  | error f => rfl

theorem finds_ping_eq_ok : host.finds k.ping s = .ok () ↔ host.succeeds k.readyRun s := by
  rw [ping, Host.finds_bind, perform, Host.finds_bind, Host.finds_within, Host.finds_request,
    Host.succeeds, readyRun]
  cases (host (.run (k.invocation ["get", "--raw", "/readyz"])) s).1 with
  | ok o =>
    have hprinted (o : ToolOutput) : (addContext "Kubernetes API server is not reachable"
        (outcome o)).bind (fun _ => .ok ()) = .ok () ↔ o.success := by
      rw [outcome]
      cases o.success <;> simp
    exact hprinted o
  | error f => simp

theorem asks_ping : host.asks k.ping s = [.run k.readyRun] := by
  rw [ping, Host.asks_bind_of_silent _ _ _ _ fun _ _ => rfl, asks_perform]
  rfl

end Kubectl

namespace Session

/-! ## Prerequisites -/

theorem isReady_iff (s : Session) :
    s.isReady ↔ s.ledger.firstMissing? [toolName, clusterName] = none := by
  rw [Ledger.firstMissing?_eq_none]
  simp [isReady, prerequisites, Ledger.isSatisfied]

theorem firstMissing?_of_not_isReady (s : Session) (h : s.isReady = false) :
    s.ledger.firstMissing? [toolName, clusterName] ≠ none := by
  intro hmet
  rw [s.isReady_iff.mpr hmet] at h
  cases h

theorem firstMissing?_record {l : Ledger} (htool : l.missingReason? toolName = none)
    (answered : Except Failure Unit) :
    (l.record clusterName answered).firstMissing? [toolName, clusterName] = none ↔
      answered = .ok () := by
  have htool' : (l.record clusterName answered).missingReason? toolName = none :=
    (l.missingReason?_apply (.record clusterName answered) toolName).trans htool
  have hcluster : (l.record clusterName answered).missingReason? clusterName = none ↔
      answered = .ok () := by
    rw [show l.record clusterName answered = l.apply (.record clusterName answered) from rfl,
      l.missingReason?_apply]
    rcases answered with _ | ⟨⟨⟩⟩ <;> simp [Ledger.Step.name, Ledger.Step.reason?]
  rw [Ledger.firstMissing?_eq_none, List.forall_mem_cons, List.forall_mem_singleton, hcluster]
  exact and_iff_right htool'

variable (k : Kubectl) (s : σ)

/-- The prerequisites are met exactly when the cluster is available. -/
theorem exists_finds_tryPrerequisites :
    ∃ l, host.finds (tryPrerequisites k) s = .ok l ∧
      (l.firstMissing? [toolName, clusterName] = none ↔ k.IsAvailable host s) := by
  rw [tryPrerequisites, Host.finds_bind, Host.finds_attempt, k.finds_probe, ok_bind,
    Host.after_attempt, k.after_probe]
  by_cases htool : host.succeeds k.versionRun s
  · rw [if_pos htool]
    dsimp only
    rw [Host.finds_bind, Host.finds_attempt, ok_bind]
    refine ⟨_, rfl, ?_⟩
    rw [Kubectl.IsAvailable, ← k.finds_ping_eq_ok]
    rw [firstMissing?_record rfl, and_iff_right htool]
  · rw [if_neg htool]
    refine ⟨_, rfl, ?_⟩
    -- The tool is missing, whatever is said of the cluster.
    constructor
    · intro hnone
      cases Ledger.firstMissing?_eq_none.mp hnone toolName List.mem_cons_self
    · intro havailable
      exact absurd havailable.1 htool

theorem asks_tryPrerequisites : host.asks (tryPrerequisites k) s = k.availabilityRuns host s := by
  rw [tryPrerequisites, Host.asks_bind, Host.asks_attempt, Host.finds_attempt, k.asks_probe,
    k.finds_probe, Kubectl.availabilityRuns]
  by_cases htool : host.succeeds k.versionRun s
  · simp [htool, Kubectl.asks_ping]
  · simp [htool]

/-! ## Connecting -/

theorem asksOnly_tell (level : Level) (text : String) :
    (tell level text).run.AsksOnly (·.isAside) :=
  .requestOr (by rfl)

theorem asksOnly_load (path : String) : (Config.load path).run.AsksOnly (·.isAside) := by
  have hrest (c : Config) : (do
      let value : Option String ← requestOr (.variable Config.namespaceVariable) none
      Lookup.ofResult (c.overrideNamespace value).validate).run.AsksOnly (·.isAside) :=
    .bind (.requestOr (by rfl)) fun _ => trivial
  refine .bind (.requestOr (by rfl)) fun found => ?_
  dsimp only
  split
  · exact .bind (.bind (.within (.request (by rfl)) _) fun _ => trivial) hrest
  · exact hrest {}

/-- Warnings are given and change nothing. -/
theorem finds_warnOfMissing (l : Ledger) (names : List String) (s : σ) :
    host.finds (warnOfMissing l names) s = .ok () := by
  induction names generalizing s with
  | nil => rfl
  | cons name rest ih =>
    rw [warnOfMissing]
    cases l.missingReason? name with
    | some reason => exact ih _
    | none => exact ih _

theorem asksOnly_warnOfMissing (l : Ledger) (names : List String) :
    (warnOfMissing l names).run.AsksOnly (·.isAside) := by
  induction names with
  | nil => trivial
  | cons name rest ih =>
    rw [warnOfMissing]
    split
    · exact .bind (asksOnly_tell _ _) fun _ => ih
    · exact ih

section Load

variable {line : CommandLine} {s}

theorem finds_connect_of_error {f : Failure}
    (h : host.finds (Config.load line.config) s = .error f) :
    host.finds (connect line) s = .error (f.within "Failed to load configuration") := by
  rw [connect, Host.finds_bind, Host.finds_within, h]
  rfl

variable {c : Config} (h : host.finds (Config.load line.config) s = .ok c)
include h

/-- **With a configuration, connecting succeeds, and the session is ready exactly when the cluster
is available.** -/
theorem exists_finds_connect :
    ∃ session, host.finds (connect line) s = .ok session ∧
      session.config = c.pointedAt line ∧
      session.kubectl = Kubectl.ofConfig (c.pointedAt line) ∧
      (session.isReady ↔ (Kubectl.ofConfig (c.pointedAt line)).IsAvailable host
        (host.after (Config.load line.config) s)) := by
  obtain ⟨l, hl, hmet⟩ := exists_finds_tryPrerequisites host
    (Kubectl.ofConfig (c.pointedAt line)) (host.after (Config.load line.config) s)
  refine ⟨⟨c.pointedAt line, Kubectl.ofConfig (c.pointedAt line), l⟩, ?_, rfl, rfl, ?_⟩
  · rw [connect, Host.finds_bind, Host.finds_within, h, addContext_ok, ok_bind, Host.after_within]
    dsimp only
    rw [Host.finds_bind, hl, ok_bind, Host.finds_bind, finds_warnOfMissing]
    rfl
  · rw [isReady_iff]
    exact hmet

/-- **Connecting asks nothing of the cluster but whether it is available.** -/
theorem filter_asks_connect :
    (host.asks (connect line) s).filter (·.isOutward) =
      (Kubectl.ofConfig (c.pointedAt line)).availabilityRuns host
        (host.after (Config.load line.config) s) := by
  obtain ⟨l, hl, -⟩ := exists_finds_tryPrerequisites host
    (Kubectl.ofConfig (c.pointedAt line)) (host.after (Config.load line.config) s)
  have hload : (host.asks (Config.load line.config) s).filter (·.isOutward) = [] :=
    (asksOnly_load line.config).not_isOutward.filter_requests_eq_nil host s
  have hwarn (s : σ) : (host.asks (warnOfMissing l prerequisites) s).filter (·.isOutward) = [] :=
    (asksOnly_warnOfMissing l prerequisites).not_isOutward.filter_requests_eq_nil host s
  have hruns (k : Kubectl) (s : σ) :
      (k.availabilityRuns host s).filter (·.isOutward) = k.availabilityRuns host s := by
    rw [Kubectl.availabilityRuns]
    split <;> rfl
  rw [connect, Host.asks_bind, Host.asks_within, Host.finds_within, h, addContext_ok,
    Host.after_within]
  dsimp only
  rw [Host.asks_bind, hl, asks_tryPrerequisites]
  dsimp only
  rw [Host.asks_bind_of_silent _ _ _ _ fun _ _ => rfl, List.filter_append, List.filter_append,
    hload, hruns, hwarn, List.nil_append, List.append_nil]

end Load

/-- Connecting prints nothing. -/
theorem asksOnly_connect (line : CommandLine) :
    (connect line).run.AsksOnly (·.printed? = none) := by
  have hping (k : Kubectl) : k.ping.run.AsksOnly (·.printed? = none) :=
    .bind (.bind (.within (.request (by rfl)) _) fun _ => trivial) fun _ => trivial
  have hprobe (k : Kubectl) : k.probe.run.AsksOnly (·.printed? = none) := by
    refine ⟨rfl, fun answer => ?_⟩
    cases answer <;> trivial
  have htry (k : Kubectl) : (tryPrerequisites k).run.AsksOnly (·.printed? = none) := by
    refine .bind (.attempt (hprobe k)) fun installed => ?_
    dsimp only
    split
    · exact .bind (.attempt (hping k)) fun _ => trivial
    · trivial
  refine .bind (.within (asksOnly_load line.config).printed?_eq_none _) fun loaded => ?_
  refine .bind (htry _) fun l => ?_
  exact .bind (asksOnly_warnOfMissing l prerequisites).printed?_eq_none fun _ => trivial

end Session

end MeshDoctor
