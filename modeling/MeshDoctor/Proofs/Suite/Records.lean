import MeshDoctor.Proofs.Catalogue.Closure
import MeshDoctor.Proofs.Catalogue.Outcomes
import MeshDoctor.Proofs.Check.Runner
import MeshDoctor.Suite

/-!
# Suites — records

* `Suite.run_records`: a suite has one record for each of its checks, in order.
* `Check.guarded_of_met`, `Check.run_guarded_of_unmet`: what the guard of a check does.
* `Suite.recordIn_guarded`: the record of a check says why it was skipped, or what it found.
* `Suite.run_records_of_met`: all checks of a suite are run if no prerequisite is missing.
* `Suite.asksOnly_records`: in changing surroundings, too, the checks ask the cluster only.
* `Suite.status_of_unmet`, `Suite.asksOnly_records_of_unmet`: if a prerequisite is missing, all
  checks are skipped and nothing is asked.
-/

namespace MeshDoctor

theorem Diagnostic.recordIn_check (d : Diagnostic) (w : World) :
    d.check.recordIn w = .of d.check (w.verdict d.evaluate) := by
  have houtcome : d.check.run.run w = some (w.verdict d.evaluate) := d.outcome?_eq w
  rw [Check.recordIn, houtcome]
  rfl

theorem Diagnostic.status_recordIn (d : Diagnostic) (w : World) :
    (d.check.recordIn w).status = (w.verdict d.evaluate).status := by
  rw [recordIn_check]
  rfl

theorem Diagnostic.problem_recordIn (d : Diagnostic) (w : World) :
    (d.check.recordIn w).problem = (w.verdict d.evaluate).problem? := by
  rw [recordIn_check]
  rfl

/-! ## Prerequisites -/

namespace Check

variable {l : Ledger} (c : Check)

theorem guarded_of_met (h : l.firstMissing? [toolName, clusterName] = none) : c.guarded l = c :=
  c.requiring_of_met (Ledger.firstMissing?_eq_none.mp h)

theorem run_guarded_of_unmet {name reason : String}
    (h : l.firstMissing? [toolName, clusterName] = some (name, reason)) :
    (c.guarded l).run = .done (some (.skip (name ++ " unavailable: " ++ reason))) := by
  rw [guarded, requiring, h]

end Check

/-! ## Records in a world -/

namespace Suite

variable (s : Suite) (d : Diagnostic) (w : World)

theorem run_records (ds : List Diagnostic) :
    (s.records ds).run w = ds.map fun d => (d.check.guarded s.ledger).recordIn w := by
  rw [records, run_runChecks, List.map_map]
  rfl

theorem recordIn_guarded :
    (d.check.guarded s.ledger).recordIn w =
      match s.ledger.firstMissing? [toolName, clusterName] with
      | some (name, reason) => .of d.check (.skip (name ++ " unavailable: " ++ reason))
      | none => .of d.check (.ofResult (w.finds d.evaluate)) := by
  cases h : s.ledger.firstMissing? [toolName, clusterName] with
  | some missing =>
    rw [Check.recordIn, d.check.run_guarded_of_unmet h]
    rfl
  | none =>
    rw [d.check.guarded_of_met h]
    exact d.recordIn_check w

variable {s}

theorem run_records_of_met (h : s.ledger.firstMissing? [toolName, clusterName] = none)
    (ds : List Diagnostic) :
    (s.records ds).run w = ds.map fun d => d.check.recordIn w := by
  rw [run_records]
  exact List.map_congr_left fun d _ => congrArg (·.recordIn w) (d.check.guarded_of_met h)

end Suite

/-! ## Changing surroundings -/

section Surroundings

variable {σ : Type} (host : Inquiry.Host σ)

/-- Each record is that of a check, run at some time. -/
theorem exists_of_mem_runChecks {cs : List Check} {s : σ} {r : Record}
    (hr : r ∈ ((runChecks cs).runState host s).1) :
    ∃ c ∈ cs, ∃ s', r = .of c ((c.run.runState host s').1.getD .unknown) := by
  induction cs generalizing s with
  | nil => cases hr
  | cons c rest ih =>
    simp only [runChecks, Check.record, Inquiry.bind_eq, Inquiry.runState_bind, Inquiry.pure_eq,
      Inquiry.runState_done, List.mem_cons] at hr
    rcases hr with rfl | hr
    · exact ⟨c, List.mem_cons_self, s, rfl⟩
    · obtain ⟨c', hc', s', rfl⟩ := ih hr
      exact ⟨c', List.mem_cons_of_mem _ hc', s', rfl⟩

theorem asksOnly_runChecks {P : Request → Prop} {cs : List Check}
    (h : ∀ c ∈ cs, c.run.AsksOnly P) : (runChecks cs).AsksOnly P := by
  induction cs with
  | nil => trivial
  | cons c rest ih =>
    refine .andThen (.andThen (h c List.mem_cons_self) fun _ => trivial) fun record => ?_
    exact .andThen (ih fun c' hc' => h c' (List.mem_cons_of_mem _ hc')) fun _ => trivial

namespace Suite

variable (s : Suite) (ds : List Diagnostic)

theorem asksOnly_records : (s.records ds).AsksOnly (·.isOnCluster) := by
  refine asksOnly_runChecks fun c hc => ?_
  obtain ⟨d, -, rfl⟩ := List.mem_map.mp hc
  cases h : s.ledger.firstMissing? [toolName, clusterName] with
  | some missing =>
    rw [d.check.run_guarded_of_unmet h]
    trivial
  | none =>
    rw [d.check.guarded_of_met h]
    exact d.asksOnly_isOnCluster.andThen fun _ => trivial

variable {ds} {r : Record} {st : σ}

theorem problem_isSome_iff_of_mem (hr : r ∈ ((s.records ds).runState host st).1) :
    r.problem.isSome ↔ r.status = .fail := by
  obtain ⟨c, -, s', rfl⟩ := exists_of_mem_runChecks host hr
  exact Record.problem_isSome_iff _ _

section Unmet

variable {s} (h : s.ledger.firstMissing? [toolName, clusterName] ≠ none)
include h

/-- With a missing prerequisite, a check says so and does nothing else. -/
theorem exists_run_of_unmet {c : Check} (hc : c ∈ ds.map fun d => d.check.guarded s.ledger) :
    ∃ text, c.run = .done (some (.skip text)) := by
  obtain ⟨d, -, rfl⟩ := List.mem_map.mp hc
  obtain ⟨missing, hmissing⟩ := Option.ne_none_iff_exists'.mp h
  exact ⟨_, d.check.run_guarded_of_unmet hmissing⟩

theorem asksOnly_records_of_unmet (P : Request → Prop) : (s.records ds).AsksOnly P := by
  refine asksOnly_runChecks fun c hc => ?_
  obtain ⟨text, hrun⟩ := exists_run_of_unmet h hc
  rw [hrun]
  trivial

theorem status_of_unmet (hr : r ∈ ((s.records ds).runState host st).1) : r.status = .skip := by
  obtain ⟨c, hc, s', rfl⟩ := exists_of_mem_runChecks host hr
  obtain ⟨text, hrun⟩ := exists_run_of_unmet h hc
  rw [hrun]
  rfl

end Unmet

end Suite

end Surroundings

end MeshDoctor
