import MeshDoctor.Proofs.CommandLine.Report

/-!
# Command lines — exit status

* `Summary.passed_add_failed_le`, `Summary.hasFailures_ofRecords`, `Suite.failed_ofRecords`: what
  the counts over records say.
* `CommandLine.runState_execute`: the exit status is that of what the command finds.
* `CommandLine.filter_requests_execute`, `CommandLine.filterMap_requests_execute`: running a command
  line asks and prints what the command does.
* `CommandLine.execute_diagnostic`, `CommandLine.execute_diagnostic_eq_one_iff`: the report and the
  status of a diagnostic command.
* **`CommandLine.execute_status`**: the exit status of every command, and what is left of it when
  the cluster is not available.
-/

namespace MeshDoctor

open Inquiry

/-! ## Counts -/

namespace Summary

variable (records : List Record)

theorem passed_add_failed_le :
    (ofRecords records).passed + (ofRecords records).failed ≤ (ofRecords records).total := by
  have hsplit := records.length_eq_countP_add_countP fun r => decide (r.status = .pass)
  have hfailed : records.countP (·.status = .fail) ≤
      records.countP fun r => decide ¬ decide (r.status = .pass) = true :=
    List.countP_mono_left fun r _ hr => by simp_all
  rw [ofRecords]
  dsimp only
  omega

theorem hasFailures_ofRecords :
    (ofRecords records).hasFailures ↔ ∃ r ∈ records, r.status = .fail := by
  rw [hasFailures, decide_eq_true_iff, ofRecords, List.countP_pos_iff]
  simp

end Summary

variable {σ : Type} (host : Inquiry.Host σ)

/-- Records of failures are those with a problem. -/
theorem Suite.failed_ofRecords (s : Suite) (ds : List Diagnostic) (st : σ) :
    let records := ((s.records ds).runState host st).1
    (Summary.ofRecords records).failed = records.countP (·.problem.isSome) := by
  refine List.countP_congr fun r hr => ?_
  rw [decide_eq_true_iff, s.problem_isSome_iff_of_mem host hr]

namespace CommandLine

open Session

variable (line : CommandLine) (st : σ)

/-! ## Running -/

theorem runState_execute :
    (line.execute.runState host st).1 = line.exitStatus (host.finds line.perform st) := by
  rw [execute, Inquiry.bind_eq, runState_bind]
  change _ = line.exitStatus (line.perform.run.runState host st).1
  cases (line.perform.run.runState host st).1 with
  | ok summary => rfl
  | error f => rfl

/-- Only a failure is told of in addition. -/
theorem requests_execute :
    ∃ told, line.execute.requests host st = host.asks line.perform st ++ told ∧
      ∀ r ∈ told, r.isAside := by
  rw [execute, Inquiry.bind_eq, requests_bind]
  cases h : (line.perform.run.runState host st).1 with
  | ok summary => exact ⟨[], rfl, fun r hr => nomatch hr⟩
  | error f => exact ⟨_, rfl, fun r hr => by rw [List.mem_singleton.mp hr]; rfl⟩

theorem filter_requests_execute :
    (line.execute.requests host st).filter (·.isOutward) =
      (host.asks line.perform st).filter (·.isOutward) := by
  obtain ⟨told, hrequests, htold⟩ := requests_execute host line st
  have hnone : told.filter (·.isOutward) = [] := by
    rw [List.filter_eq_nil_iff]
    intro r hr
    rw [Request.isOutward_of_isAside (htold r hr)]
    exact Bool.false_ne_true
  rw [hrequests, List.filter_append, hnone, List.append_nil]

theorem filterMap_requests_execute :
    (line.execute.requests host st).filterMap Request.printed? =
      (host.asks line.perform st).filterMap Request.printed? := by
  obtain ⟨told, hrequests, htold⟩ := requests_execute host line st
  have hnone : told.filterMap Request.printed? = [] := by
    rw [List.filterMap_eq_nil_iff]
    exact fun r hr => Request.printed?_of_isAside (htold r hr)
  rw [hrequests, List.filterMap_append, hnone, List.append_nil]

/-! ## Status -/

/-- The checks-failed status is given for a result with failures, if that shall count. -/
theorem exitStatus_ofRecords (records : List Record) :
    line.exitStatus (.ok (.ofRecords records)) =
      if line.failOnError ∧ ∃ r ∈ records, r.status = .fail then 3 else 0 := by
  have hcount := Summary.hasFailures_ofRecords records
  rw [exitStatus]
  split
  · next hfails =>
    rw [Bool.and_eq_true, hcount] at hfails
    rw [if_pos hfails]
    rfl
  · next hfails =>
    rw [Bool.and_eq_true, hcount] at hfails
    rw [if_neg hfails]

theorem exitStatus_ne_of_empty {result : Except Failure Summary}
    (h : ∀ summary, result = .ok summary → summary = {}) :
    line.exitStatus result ≠ 3 := by
  cases result with
  | ok summary =>
    rw [h summary rfl, exitStatus]
    simp [Summary.hasFailures]
  | error f =>
    rw [exitStatus]
    decide

/-! ## Other commands -/

theorem eq_empty_of_finds_collect {s : Session} {output : String} {summary : Summary}
    (h : host.finds (collect s output) st = .ok summary) : summary = {} := by
  rw [collect, Host.finds_bind, bind_eq_ok] at h
  obtain ⟨-, -, h⟩ := h
  dsimp only at h
  rw [Host.finds_bind, bind_eq_ok] at h
  obtain ⟨directory, -, h⟩ := h
  rw [Host.finds_bind, bind_eq_ok] at h
  obtain ⟨-, -, h⟩ := h
  exact (Except.ok.inj h).symm

theorem collect_of_not_isReady {s : Session} (hready : s.isReady = false) (output : String) :
    ∃ f, collect s output = throw f := by
  obtain ⟨⟨name, reason⟩, hmissing⟩ :=
    Option.ne_none_iff_exists'.mp (s.firstMissing?_of_not_isReady hready)
  refine ⟨.say ("Cannot collect a bundle, " ++ unavailable name reason), ?_⟩
  rw [collect, requireAll, prerequisites, hmissing]
  rfl

theorem eq_empty_of_finds_init {path : String} {summary : Summary}
    (h : host.finds (init path) st = .ok summary) : summary = {} := by
  obtain ⟨found, -, h⟩ := bind_eq_ok.mp
    ((host.finds_bind (requestOr (.pathExists path) false) _ st).symm.trans h)
  split at h
  · cases h
  · rw [Host.finds_bind, bind_eq_ok] at h
    obtain ⟨-, -, h⟩ := h
    rw [Host.finds_bind, bind_eq_ok] at h
    obtain ⟨-, -, h⟩ := h
    exact (Except.ok.inj h).symm

/-! ## Every command -/

section Collect

variable {line} {output : String} (hcommand : line.command = .collect output)
include hcommand

theorem perform_collect : line.perform = line.inSession fun s => collect s output := by
  rw [perform, hcommand]

theorem execute_collect_ne : (line.execute.runState host st).1 ≠ 3 := by
  rw [runState_execute, perform_collect hcommand]
  refine line.exitStatus_ne_of_empty fun summary h => ?_
  rw [inSession, Host.finds_bind, bind_eq_ok] at h
  obtain ⟨s, -, h⟩ := h
  rw [finds_serve] at h
  exact eq_empty_of_finds_collect (s.view host) _ h

/-- Without the prerequisites, collecting fails and asks nothing more of the cluster. -/
theorem execute_collect_of_not_isReady {s : Session}
    (hconnect : host.finds (connect line) st = .ok s) (hready : s.isReady = false) :
    (line.execute.runState host st).1 = 1 ∧
      (line.execute.requests host st).filter (·.isOutward) =
        (host.asks (connect line) st).filter (·.isOutward) := by
  obtain ⟨f, hcollect⟩ := collect_of_not_isReady hready output
  constructor
  · rw [runState_execute, perform_collect hcommand, finds_inSession host hconnect, hcollect]
    rfl
  · rw [filter_requests_execute, perform_collect hcommand, asks_inSession host hconnect, hcollect]
    exact congrArg _ (List.append_nil _)

end Collect

theorem execute_init_ne {line : CommandLine} (hcommand : line.command = .init) :
    (line.execute.runState host st).1 ≠ 3 := by
  rw [runState_execute, perform, hcommand]
  exact line.exitStatus_ne_of_empty fun summary h => eq_empty_of_finds_init host st h

section Diagnostic

variable {line} (hcommand : line.command.isDiagnostic)
include hcommand

theorem execute_diagnostic_of_error {f : Failure}
    (hload : host.finds (Config.load line.config) st = .error f) :
    (line.execute.runState host st).1 = 1 := by
  rw [runState_execute, perform_of_isDiagnostic hcommand, inSession, Host.finds_bind,
    finds_connect_of_error host hload]
  rfl

/-- In a session, the status of a diagnostic command depends on the report that it prints. -/
theorem execute_diagnostic {s : Session} (hconnect : host.finds (connect line) st = .ok s) :
    let listing := s.listChecks line.command
    let connected := host.after (connect line) st
    ∃ ds, (s.view host).finds listing connected = .ok ds ∧
      s.Examines (s.view host) line.command ds ∧
      let records :=
        ((s.suite.records ds).runState (s.view host) ((s.view host).after listing connected)).1
      (line.execute.requests host st).filterMap Request.printed? = [reportText records false] ∧
      (line.execute.runState host st).1 =
        (if line.failOnError ∧ ∃ r ∈ records, r.status = .fail then 3 else 0) ∧
      host.finds line.perform st = .ok (.ofRecords records) := by
  intro listing connected
  obtain ⟨ds, hlisted, hexamines, hfinds, hprinted⟩ := exists_report host hconnect hcommand
  refine ⟨ds, hlisted, hexamines, ?_, ?_, hfinds⟩
  · rw [filterMap_requests_execute, hprinted]
  · rw [runState_execute, hfinds, exitStatus_ofRecords]

/-- The status of a diagnostic command tells whether its configuration was loaded. -/
theorem execute_diagnostic_eq_one_iff :
    (line.execute.runState host st).1 = 1 ↔
      ∃ f, host.finds (Config.load line.config) st = .error f := by
  constructor
  · intro hstatus
    cases hload : host.finds (Config.load line.config) st with
    | error f => exact ⟨f, rfl⟩
    | ok c =>
      obtain ⟨s, hconnect, -⟩ := exists_finds_connect host hload
      obtain ⟨ds, -, -, -, hrun, -⟩ := execute_diagnostic host st hcommand hconnect
      rw [hrun] at hstatus
      split at hstatus <;> cases hstatus
  · rintro ⟨f, hload⟩
    exact execute_diagnostic_of_error host st hcommand hload

/-- Without the prerequisites, a diagnostic command asks nothing more of the cluster. -/
theorem filter_requests_of_not_isReady {s : Session}
    (hconnect : host.finds (connect line) st = .ok s) (hready : s.isReady = false) :
    (line.execute.requests host st).filter (·.isOutward) =
      (host.asks (connect line) st).filter (·.isOutward) := by
  rw [filter_requests_execute, filter_asks_perform host hconnect hcommand hready]

end Diagnostic

/-- **The exit status of every command**, whatever the machine, the tool and the cluster answer over
time. A diagnostic command lists its checks once it has connected, runs them from there on and prints
one report of their records; its status tells whether the configuration was loaded and, if that shall
count, whether a check in the report failed. If the cluster is not available, nothing but its
availability is asked, all checks are skipped and no bundle is collected. -/
theorem execute_status :
    let status := (line.execute.runState host st).1
    let requests := line.execute.requests host st
    let outward := requests.filter (·.isOutward)
    let loaded := host.finds (Config.load line.config) st
    let afterLoad := host.after (Config.load line.config) st
    let connected := host.after (connect line) st
    (line.command.isDiagnostic →
      (status = 1 ↔ ∃ f, loaded = .error f) ∧
      ∀ c, loaded = .ok c → ∃ s ds records summary,
        host.finds (connect line) st = .ok s ∧
        (s.view host).finds (s.listChecks line.command) connected = .ok ds ∧
        s.Examines (s.view host) line.command ds ∧
        records = ((s.suite.records ds).runState (s.view host)
          ((s.view host).after (s.listChecks line.command) connected)).1 ∧
        requests.filterMap Request.printed? = [reportText records false] ∧
        status = (if line.failOnError ∧ ∃ r ∈ records, r.status = .fail then 3 else 0) ∧
        host.finds line.perform st = .ok summary ∧
        summary.total = records.length ∧ summary.passed + summary.failed ≤ summary.total ∧
        summary.failed = records.countP (·.problem.isSome) ∧
        (¬ (Kubectl.ofConfig (c.pointedAt line)).IsAvailable host afterLoad →
          outward = (Kubectl.ofConfig (c.pointedAt line)).availabilityRuns host afterLoad ∧
          (∀ r ∈ records, r.status = .skip) ∧ status = 0)) ∧
    (∀ output, line.command = .collect output →
      status ≠ 3 ∧
      ∀ c, loaded = .ok c →
        ¬ (Kubectl.ofConfig (c.pointedAt line)).IsAvailable host afterLoad →
        outward = (Kubectl.ofConfig (c.pointedAt line)).availabilityRuns host afterLoad ∧
        status = 1) ∧
    (line.command = .init → status ≠ 3) := by
  intro status requests outward loaded afterLoad connected
  have hidle {c : Config} {s : Session} (hload : loaded = .ok c)
      (hoff : ¬ (Kubectl.ofConfig (c.pointedAt line)).IsAvailable host afterLoad)
      (hready : s.isReady ↔ (Kubectl.ofConfig (c.pointedAt line)).IsAvailable host afterLoad) :
      s.isReady = false := by
    rw [← Bool.not_eq_true, hready]
    exact hoff
  refine ⟨fun hcommand => ⟨execute_diagnostic_eq_one_iff host st hcommand, fun c hload => ?_⟩, ?_,
    execute_init_ne host st⟩
  · obtain ⟨s, hconnect, -, -, hready⟩ := exists_finds_connect host hload
    obtain ⟨ds, hlisted, hexamines, hprinted, hstatus, hfinds⟩ :=
      execute_diagnostic host st hcommand hconnect
    let start := (s.view host).after (s.listChecks line.command) connected
    let records := ((s.suite.records ds).runState (s.view host) start).1
    refine ⟨s, ds, records, .ofRecords records, hconnect, hlisted, hexamines, rfl, hprinted,
      hstatus, hfinds, rfl, Summary.passed_add_failed_le records,
      s.suite.failed_ofRecords (s.view host) ds start, fun hoff => ?_⟩
    have hnot := hidle hload hoff hready
    have hskipped : ∀ r ∈ records, r.status = .skip := fun r hr =>
      Suite.status_of_unmet _ (s.firstMissing?_of_not_isReady hnot) hr
    refine ⟨(filter_requests_of_not_isReady host st hcommand hconnect hnot).trans
      (filter_asks_connect host hload), hskipped, hstatus.trans (if_neg ?_)⟩
    -- A skipped check does not count as a failure.
    rintro ⟨-, r, hr, hfail⟩
    rw [hskipped r hr] at hfail
    cases hfail
  · intro output hcommand
    refine ⟨execute_collect_ne host st hcommand, fun c hload hoff => ?_⟩
    obtain ⟨s, hconnect, -, -, hready⟩ := exists_finds_connect host hload
    obtain ⟨hstatus, hrequests⟩ := execute_collect_of_not_isReady host st hcommand hconnect
      (hidle hload hoff hready)
    exact ⟨hrequests.trans (filter_asks_connect host hload), hstatus⟩

end CommandLine

end MeshDoctor
