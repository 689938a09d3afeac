import MeshDoctor.Proofs.Catalogue.Scope
import MeshDoctor.Proofs.CommandLine.Sidecars
import MeshDoctor.Proofs.Kubectl.Tool
import MeshDoctor.Proofs.Suite.Records

/-!
# Kubectl — the tool in place of a snapshot

A tool that answers every command line as a snapshot of the cluster does can take its place: no
check sees the difference, but for one more context around the failure of a command in a pod.

* `Snapshot.over`: a world whose cluster is a snapshot.
* `Served`: the tool finds the same, or it wraps the failure of a command in a pod.
* `served_of_answers`: a single request, by its kind; `closed_isServed`: all that is put together
  from requests.
* **`Kubectl.Access.outcome_of_answers`**: the outcome of every check.
-/

namespace MeshDoctor

open Json

/-- The world with the snapshot for its cluster. -/
def Snapshot.over (c : Snapshot) (w : World) : World
  | .get kind ns name => c.world (.get kind ns name)
  | .list kind q => c.world (.list kind q)
  | .exec pod container command => c.world (.exec pod container command)
  | .logs pod container => c.world (.logs pod container)
  | r => w r

/-! ## What the tool finds instead -/

section

variable {α β ε : Type} {c : Snapshot} {asked asked' : List Request}

/-- All commands in pods that are among the requests succeed. -/
def Snapshot.RunsAll (c : Snapshot) (asked : List Request) : Prop :=
  ∀ pod container command, .exec pod container command ∈ asked → ∃ text, c.exec pod = .ok text

theorem Snapshot.RunsAll.append (h : c.RunsAll asked) (h' : c.RunsAll asked') :
    c.RunsAll (asked ++ asked') := by
  intro pod container command hmem
  rcases List.mem_append.mp hmem with hmem | hmem
  · exact h pod container command hmem
  · exact h' pod container command hmem

/-- The tool finds the same as the snapshot if all commands in pods succeed. If one fails, both find
its failure, but the tool in one more context. -/
inductive Served (c : Snapshot) (asked : List Request) (wrap : Failure → ε) :
    Except ε α → Except ε α → Prop where
  | same (h : c.RunsAll asked) (x : Except ε α) : Served c asked wrap x x
  | execFailed {pod : PodRef} {container : Option String} {command : List String}
    {message : String} (hasked : .exec pod container command ∈ asked)
    (h : c.exec pod = .error (.say message)) (contexts : List String) :
    Served c asked wrap (.error (wrap ⟨contexts, .note message⟩))
      (.error (wrap ⟨contexts ++ ["Failed to exec in pod " ++ pod.text],
        .note (Text.trim message)⟩))

namespace Served

/-- Where no command runs in a pod, the same is found. -/
theorem refl {wrap : Failure → ε}
    (h : ∀ pod container command, .exec pod container command ∉ asked) (x : Except ε α) :
    Served c asked wrap x x :=
  .same (fun pod container command hmem => absurd hmem (h pod container command)) x

/-- Commands that succeeded before make no difference. -/
theorem after {wrap : Failure → ε} {x y : Except ε α} (h : Served c asked' wrap x y)
    (hruns : c.RunsAll asked) : Served c (asked ++ asked') wrap x y := by
  cases h with
  | same hruns' => exact .same (hruns.append hruns') x
  | execFailed hasked hexec contexts =>
    exact .execFailed (List.mem_append_right _ hasked) hexec contexts

theorem bind {near far : World} {wrap : Failure → ε} {x : ExceptT ε Inquiry α}
    {f : α → ExceptT ε Inquiry β}
    (hx : Served c (near.asks x) wrap (near.finds x) (far.finds x))
    (hf : ∀ a, near.finds x = .ok a →
      Served c (near.asks (f a)) wrap (near.finds (f a)) (far.finds (f a))) :
    Served c (near.asks (x >>= f)) wrap (near.finds (x >>= f)) (far.finds (x >>= f)) := by
  rw [World.asks_bind, World.finds_bind, World.finds_bind]
  generalize near.finds x = found at hx hf
  generalize far.finds x = found' at hx
  cases hx with
  | same hruns =>
    cases found with
    | ok a => exact (hf a rfl).after hruns
    | error e => exact .same (by rwa [List.append_nil]) _
  | execFailed hasked hexec contexts =>
    exact .execFailed (List.mem_append_left _ hasked) hexec contexts

theorem within {x y : Except Failure α} (h : Served c asked id x y) (context : String) :
    Served c asked id (addContext context x) (addContext context y) := by
  cases h with
  | same hruns => exact .same hruns _
  | execFailed hasked hexec contexts => exact .execFailed hasked hexec (context :: contexts)

theorem ofFailed {x y : Except Failure α} (h : Served c asked id x y) :
    Served c asked Problem.failedRequest (Problem.ofFailed x) (Problem.ofFailed y) := by
  cases h with
  | same hruns => exact .same hruns _
  | execFailed hasked hexec contexts => exact .execFailed hasked hexec contexts

end Served

end

/-! ## A single request -/

theorem Snapshot.exec_eq_error {c : Snapshot} {pod : PodRef} {f : Failure}
    (h : c.exec pod = .error f) : ∃ message, f = .say message := by
  rw [exec] at h
  split at h
  · cases h
  · exact ⟨_, (Except.error.inj h).symm⟩
  · exact ⟨_, (Except.error.inj h).symm⟩

section Requests

variable {a : Kubectl.Access} {c : Snapshot} {w : World}

theorem served_exec {pod : PodRef} {container : Option String} {command : List String}
    (h : a.kubectl.Runs w (Kubectl.words (.exec pod container command))
      (·.ShowsText (c.exec pod))) :
    Served c [.exec pod container command] id (c.exec pod)
      (w.finds (a.kubectl.exec pod container command)) := by
  rw [a.kubectl.finds_exec_of_runs h]
  cases hexec : c.exec pod with
  | ok text =>
    refine .same ?_ _
    intro pod' container' command' hmem
    cases List.mem_singleton.mp hmem
    exact ⟨text, hexec⟩
  | error f =>
    obtain ⟨message, rfl⟩ := Snapshot.exec_eq_error hexec
    have htext : (Failure.say message).text = message := String.intercalate_singleton
    rw [Except.mapError, htext]
    exact .execFailed (List.mem_singleton_self _) hexec []

/-- **The tool answers a request as the snapshot does**, but for the context of a failed command. -/
theorem served_of_answers (hc : c.failures = []) {r : Request} (hr : r.isOnCluster)
    (h : a.kubectl.Answers c w r) :
    Served c [r] id (c.over (w.through a.serve) r) (w.through a.serve r) := by
  cases r with
  | get kind ns name =>
    have hfar : w.through a.serve (.get kind ns name) = c.get kind ns name :=
      a.kubectl.finds_get_of_runs h
    rw [Snapshot.over, c.world_of_failures hc, hfar]
    exact .refl (by simp) _
  | list kind q =>
    have hfar : w.through a.serve (.list kind q) = .ok (c.list kind q) :=
      a.kubectl.finds_list_of_runs h
    rw [Snapshot.over, c.world_of_failures hc, hfar]
    exact .refl (by simp) _
  | exec pod container command =>
    rw [Snapshot.over, c.world_of_failures hc]
    exact served_exec h
  | logs pod container =>
    have hfar : w.through a.serve (.logs pod container) = .ok (c.logsOf pod) :=
      a.kubectl.finds_logs_of_runs h
    rw [Snapshot.over, c.world_of_failures hc, hfar]
    exact .refl (by simp) _
  | sidecar pod => exact .refl (by simp) _
  | _ => cases hr

end Requests

/-! ## Checks -/

section Checks

variable {a : Kubectl.Access} {c : Snapshot} {w : World}

/-- The request for a definition runs no command in a pod. -/
theorem served_definitionMissing (hc : c.failures = []) {name : String}
    (h : a.kubectl.Answers c w (.get Kind.definitions.name none name)) :
    Served c ((c.over (w.through a.serve)).asks (Catalogue.definitionMissing name)) id
      ((c.over (w.through a.serve)).finds (Catalogue.definitionMissing name))
      ((w.through a.serve).finds (Catalogue.definitionMissing name)) := by
  have hasks := Catalogue.asks_definitionMissing (c.over (w.through a.serve)) name
  have hsame : (w.through a.serve).finds (Catalogue.definitionMissing name) =
      (c.over (w.through a.serve)).finds (Catalogue.definitionMissing name) := by
    refine World.finds_congr fun r hr => ?_
    rw [hasks, List.mem_singleton] at hr
    subst hr
    rw [Snapshot.over, c.world_of_failures hc]
    exact a.kubectl.finds_get_of_runs h
  rw [hsame, hasks]
  exact .refl (by simp) _

/-- What an inquiry finds through the tool, if the tool answers all that it asks. -/
def IsServed {α ε : Type} (a : Kubectl.Access) (c : Snapshot) (w : World) (wrap : Failure → ε)
    (x : ExceptT ε Inquiry α) : Prop :=
  (∀ r ∈ (c.over (w.through a.serve)).asks x, a.kubectl.Answers c w r) →
    Served c ((c.over (w.through a.serve)).asks x) wrap ((c.over (w.through a.serve)).finds x)
      ((w.through a.serve).finds x)

theorem IsServed.done {α ε : Type} {wrap : Failure → ε} (result : Except ε α) :
    IsServed a c w wrap (ExceptT.mk (.done result)) :=
  fun _ => .refl (fun _ _ _ => List.not_mem_nil) result

theorem IsServed.bind {α β ε : Type} {wrap : Failure → ε} {x : ExceptT ε Inquiry α}
    {f : α → ExceptT ε Inquiry β} (hx : IsServed a c w wrap x) (hf : ∀ b, IsServed a c w wrap (f b)) :
    IsServed a c w wrap (x >>= f) := by
  intro h
  rw [World.asks_bind] at h
  refine .bind (hx fun r hr => h r (List.mem_append_left _ hr)) fun b hb => ?_
  rw [hb] at h
  exact hf b fun r hr => h r (List.mem_append_right _ hr)

/-- **What is put together from requests is served if each request is.** -/
theorem closed_isServed (a : Kubectl.Access) (hc : c.failures = []) (w : World) :
    Catalogue.Closed (IsServed a c w id) (IsServed a c w Problem.failedRequest) where
  request hr := fun h => served_of_answers hc hr (h _ (List.mem_singleton_self _))
  definition name := fun h => served_definitionMissing hc <| h _ <| by
    rw [Catalogue.asks_definitionMissing]
    exact List.mem_singleton_self _
  done := .done
  bind := .bind
  within hx context := by
    intro h
    rw [World.asks_within] at h ⊢
    rw [World.finds_within, World.finds_within]
    exact (hx h).within context
  diagnose hx := by
    intro h
    rw [World.asks_liftM] at h ⊢
    rw [World.finds_liftM, World.finds_liftM]
    exact (hx h).ofFailed
  verdict := .done
  andThen := .bind

end Checks

/-- **A tool that answers as a snapshot does serves every check as the snapshot would.** The outcome
is the same unless a command fails in a pod. In that case it is this failure, which the tool reports
in one more context; blanks around the message, if there are any, are lost. -/
theorem Kubectl.Access.outcome_of_answers (a : Kubectl.Access) {c : Snapshot}
    (hc : c.failures = []) (w : World) (l : Ledger) (d : Diagnostic)
    (h : ∀ r ∈ (d.check.guarded l).run.trace (c.over (w.through a.serve)),
      a.kubectl.Answers c w r) :
    let asked := (d.check.guarded l).run.trace (c.over (w.through a.serve))
    let near := (d.check.guarded l).run.run (c.over (w.through a.serve))
    let far := ((d.check.guarded l).run.substitute a.serve).run w
    (c.RunsAll asked ∧ far = near) ∨
      ∃ pod container command message contexts,
        .exec pod container command ∈ asked ∧ c.exec pod = .error (.say message) ∧
        near = some (.fail (.failedRequest ⟨contexts, .note message⟩)) ∧
        far = some (.fail (.failedRequest ⟨contexts ++ ["Failed to exec in pod " ++ pod.text],
          .note (Text.trim message)⟩)) := by
  intro asked near far
  have hfar : far = (d.check.guarded l).run.run (w.through a.serve) := w.run_substitute a.serve _
  cases hmissing : l.firstMissing? [toolName, clusterName] with
  | some missing =>
    have hskip := d.check.run_guarded_of_unmet hmissing
    refine .inl ⟨fun pod container command hmem => ?_, ?_⟩
    · simp [asked, hskip] at hmem
    · rw [hfar]
      simp only [near, hskip, Inquiry.run_done]
  | none =>
    have hguarded : d.check.guarded l = d.check := d.check.guarded_of_met hmissing
    have hasked : asked = (c.over (w.through a.serve)).asks d.evaluate := by
      simp only [asked, hguarded]
      exact d.trace_check _
    have hnear : near = some (.ofResult ((c.over (w.through a.serve)).finds d.evaluate)) := by
      simp only [near, hguarded]
      exact d.outcome?_eq _
    replace hfar : far = some (.ofResult ((w.through a.serve).finds d.evaluate)) := by
      rw [hfar, hguarded]
      exact d.outcome?_eq _
    have hserved := d.closed_evaluate (closed_isServed a hc w) (hasked ▸ h)
    rw [hfar, hnear, hasked]
    generalize (c.over (w.through a.serve)).finds d.evaluate = found at hserved ⊢
    generalize (w.through a.serve).finds d.evaluate = found' at hserved ⊢
    cases hserved with
    | same hruns => exact .inl ⟨hruns, rfl⟩
    | @execFailed pod container command message hexec hfails contexts =>
      exact .inr ⟨pod, container, command, message, contexts, hexec, hfails, rfl, rfl⟩

/-- The buyer was started again. -/
def restartWarning : Value :=
  .object
    [("involvedObject", .object [("kind", .string "Pod"), ("name", .string "buyer")]),
      ("message", .string "Back-off restarting failed container"),
      ("metadata", named "buyer.17a1c0de" "shop"), ("reason", .string "BackOff"),
      ("type", .string "Warning")]

/-- A shop whose buyer gets no answer and has a warning. -/
def silentShop : Snapshot where
  objects := [(Kind.pods.name, .object [("metadata", named "buyer" "shop")]),
    (Kind.events.name, restartWarning)]
  execs := [("shop/buyer", .error "command timed out")]

theorem isReadable_silentShop : silentShop.IsReadable := by
  have hnamed (levels : Nat) (name ns : String) : Readable (levels + 1) (named name ns) := by
    refine .ofNames ["name", "namespace"] rfl (by decide) fun m hm => ?_
    simp only [List.mem_cons, List.not_mem_nil, or_false] at hm
    rcases hm with rfl | rfl <;> exact .string _
  intro o ho
  simp only [silentShop, List.mem_cons, List.not_mem_nil, or_false] at ho
  rcases ho with rfl | rfl
  · refine .ofNames ["metadata"] rfl (by decide) fun m hm => ?_
    rw [List.mem_singleton.mp hm]
    exact hnamed _ _ _
  · refine .ofNames ["involvedObject", "message", "metadata", "reason", "type"] rfl (by decide)
      fun m hm => ?_
    simp only [List.mem_cons, List.not_mem_nil, or_false] at hm
    rcases hm with rfl | rfl | rfl | rfl | rfl
    · refine .object (by decide) fun m hm => ?_
      simp only [List.mem_cons, List.not_mem_nil, or_false] at hm
      rcases hm with rfl | rfl <;> exact .string _
    · exact .string _
    · exact hnamed _ _ _
    · exact .string _
    · exact .string _

/-- Through the tool, the warning on the buyer is listed as it is, and the probe from the buyer fails
in one more context. -/
theorem outcome_of_answers_silentShop :
    let a : Kubectl.Access := { kubectl := {}, adminPort := 15000, timeout := 10000 }
    let w := CommandLine.machineFor silentShop
    let probe := (Diagnostic.httpProbe ⟨"shop", "buyer"⟩ "http://store").check.guarded {}
    let warnings := (Diagnostic.warningEvents "shop" (some "buyer")).check.guarded {}
    silentShop.failures = [] ∧
      (∀ r ∈ probe.run.trace (silentShop.over (w.through a.serve)) ++
        warnings.run.trace (silentShop.over (w.through a.serve)),
        a.kubectl.Answers silentShop w r) ∧
      (∃ o, w (.run ⟨"kubectl", ["get", "events", "-o", "json", "-n", "shop",
          "--field-selector", "type=Warning,involvedObject.name=buyer"], none⟩) = .ok o ∧
        o.ShowsItems [restartWarning]) ∧
      (warnings.run.substitute a.serve).run w =
        some (.info "buyer BackOff: Back-off restarting failed container") ∧
      probe.run.run (silentShop.over (w.through a.serve)) =
        some (.fail (.failedRequest (.say "command timed out"))) ∧
      (probe.run.substitute a.serve).run w =
        some (.fail (.failedRequest ⟨["Failed to exec in pod shop/buyer"],
          .note "command timed out"⟩)) := by
  intro a w probe warnings
  have hanswers : ∀ r, a.kubectl.Answers silentShop w r :=
    a.kubectl.answers_of_answerLine rfl isReadable_silentShop fun _ => rfl
  have hlisted : warnings.run.trace (silentShop.over (w.through a.serve)) =
      [.list Kind.events.name ((ListQuery.inNamespace "shop").withFields
        "type=Warning,involvedObject.name=buyer")] := by decide +kernel
  have hwarned : warnings.run.run (silentShop.over (w.through a.serve)) =
      some (.info "buyer BackOff: Back-off restarting failed container") := by decide +kernel
  have hnear : probe.run.run (silentShop.over (w.through a.serve)) =
      some (.fail (.failedRequest (.say "command timed out"))) := rfl
  have hasked : probe.run.trace (silentShop.over (w.through a.serve)) =
      [.get Kind.pods.name (some "shop") "buyer",
        .exec ⟨"shop", "buyer"⟩ none (Catalogue.probeCommand "http://store")] := rfl
  have hfailed : silentShop.exec ⟨"shop", "buyer"⟩ = .error (.say "command timed out") := rfl
  refine ⟨rfl, fun r _ => hanswers r, hanswers (.list Kind.events.name
    ((ListQuery.inNamespace "shop").withFields "type=Warning,involvedObject.name=buyer")), ?_,
    hnear, ?_⟩
  · obtain ⟨-, hfar⟩ | ⟨pod, container, command, message, contexts, hexec, -⟩ :=
      a.outcome_of_answers (c := silentShop) rfl w {} (.warningEvents "shop" (some "buyer"))
        fun r _ => hanswers r
    · exact hfar.trans hwarned
    · rw [hlisted] at hexec
      simp at hexec
  · obtain ⟨hruns, -⟩ | ⟨pod, container, command, message, contexts, hexec, hfails, hfound, hfar⟩ :=
      a.outcome_of_answers (c := silentShop) rfl w {} (.httpProbe ⟨"shop", "buyer"⟩ "http://store")
        fun r _ => hanswers r
    · obtain ⟨text, htext⟩ := hruns _ _ _ (hasked ▸ List.mem_cons_of_mem _ List.mem_cons_self)
      rw [hfailed] at htext
      cases htext
    · have hpod : pod = ⟨"shop", "buyer"⟩ := by
        replace hexec := hasked ▸ hexec
        simp only [List.mem_cons, List.not_mem_nil, or_false, reduceCtorEq, false_or,
          Request.exec.injEq] at hexec
        exact hexec.1
      subst hpod
      rw [hfailed] at hfails
      cases hfails
      cases hnear.symm.trans hfound
      exact hfar

end MeshDoctor
