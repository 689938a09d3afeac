import MeshDoctor.Proofs.Check.Ledger
import MeshDoctor.Check.Record

/-!
# Checks — running them one after the other

* `Check.recordIn`: the record of a check in a world.
* `run_runChecks`, `trace_runChecks`: a run gives the records of the checks in order and makes their
  requests in order.
* `Check.announcing`: a check whose every run makes one more request, so that runs can be counted.
* **`runChecks_guarded`**: what a run of guarded checks gives.
-/

namespace MeshDoctor

/-! ## Records -/

/-- The record of a check in a world. -/
def Check.recordIn (w : World) (c : Check) : Record :=
  .of c ((c.run.run w).getD .unknown)

theorem Check.run_record (w : World) (c : Check) : c.record.run w = c.recordIn w := by
  rw [Check.record, Inquiry.bind_eq, Inquiry.run_bind]
  rfl

theorem Check.trace_record (w : World) (c : Check) : c.record.trace w = c.run.trace w := by
  rw [Check.record, Inquiry.bind_eq, Inquiry.trace_bind]
  simp

/-- **One record for each check, in order.** -/
theorem run_runChecks (w : World) (cs : List Check) :
    (runChecks cs).run w = cs.map (·.recordIn w) := by
  induction cs with
  | nil => rfl
  | cons c rest ih =>
    simp only [runChecks, Inquiry.bind_eq, Inquiry.run_bind, Inquiry.pure_eq, Inquiry.run_done,
      Check.run_record, ih, List.map_cons]

theorem trace_runChecks (w : World) (cs : List Check) :
    (runChecks cs).trace w = cs.flatMap (·.run.trace w) := by
  induction cs with
  | nil => rfl
  | cons c rest ih =>
    simp only [runChecks, Inquiry.bind_eq, Inquiry.trace_bind, Inquiry.pure_eq,
      Inquiry.trace_done, Check.trace_record, ih, List.append_nil, List.flatMap_cons]

section Shape

variable (c : Check) (outcome : Outcome)

theorem Record.problem_isSome_iff :
    (Record.of c outcome).problem.isSome ↔ (Record.of c outcome).status = .fail := by
  cases outcome <;> simp [Record.of, Outcome.problem?, Outcome.status]

theorem Record.diagnostics_eq_empty
    (h : (Record.of c outcome).status = .fail ∨ (Record.of c outcome).status = .unknown) :
    (Record.of c outcome).diagnostics = "" := by
  cases outcome <;> simp [Record.of, Outcome.status, Outcome.diagnostics] at h ⊢

theorem Record.suggestion_eq_some_iff (advice : String) :
    (Record.of c outcome).suggestion = some advice ↔
      (Record.of c outcome).status = .fail ∧ c.suggestion = .ok advice := by
  cases outcome with
  | fail problem =>
    cases h : c.suggestion <;> simp [Record.of, Outcome.isFail, Outcome.status, Except.toOption, h]
  | pass message | info text | skip reason | unknown =>
    simp [Record.of, Outcome.isFail, Outcome.status]

end Shape

/-! ## Guards -/

namespace Check

variable {c : Check} {l : Ledger} {needs : List String}

theorem requiring_of_met (h : ∀ name ∈ needs, l.missingReason? name = none) :
    c.requiring needs l = c := by
  rw [requiring, Ledger.firstMissing?_eq_none.mpr h]

theorem requiring_of_unmet {before after : List String} {name reason : String}
    (hbefore : ∀ other ∈ before, l.missingReason? other = none)
    (hname : l.missingReason? name = some reason) :
    c.requiring (before ++ name :: after) l =
      { c with run := .done (some (.skip (name ++ " unavailable: " ++ reason))) } := by
  rw [requiring, Ledger.firstMissing?_eq_some hbefore hname]

/-- The check, with a request at the start of each run. -/
def announcing (c : Check) (r : Request) : Check :=
  { c with run := .ask r fun _ => c.run }

end Check

section Run

variable (steps : List Ledger.Step) (w : World)

theorem recordIn_of_met {c : Check} {needs : List String}
    (h : ∀ name ∈ needs, ∀ reason, ¬ Ledger.LeftUnmet steps name reason) :
    (c.requiring needs (.after steps)).recordIn w = c.recordIn w ∧
      ∀ r, ((c.announcing r).requiring needs (.after steps)).run.trace w = r :: c.run.trace w := by
  have hmet : ∀ name ∈ needs, (Ledger.after steps).missingReason? name = none := by
    intro name hname
    rw [Option.eq_none_iff_forall_ne_some]
    intro reason hreason
    exact h name hname reason ((Ledger.missingReason?_after steps name reason).mp hreason)
  refine ⟨by rw [Check.requiring_of_met hmet], fun r => ?_⟩
  rw [Check.requiring_of_met hmet]
  rfl

theorem recordIn_of_unmet {c : Check} {before after : List String} {name reason : String}
    (hbefore : ∀ other ∈ before, ∀ reason, ¬ Ledger.LeftUnmet steps other reason)
    (hname : Ledger.LeftUnmet steps name reason) :
    (c.requiring (before ++ name :: after) (.after steps)).recordIn w =
        { description := c.description, status := .skip
          diagnostics := name ++ " unavailable: " ++ reason } ∧
      ∀ r, ((c.announcing r).requiring (before ++ name :: after) (.after steps)).run.trace w =
        [] := by
  have hmet : ∀ other ∈ before, (Ledger.after steps).missingReason? other = none := by
    intro other ho
    rw [Option.eq_none_iff_forall_ne_some]
    intro reason hreason
    exact hbefore other ho reason ((Ledger.missingReason?_after steps other reason).mp hreason)
  have hunmet := (Ledger.missingReason?_after steps name reason).mpr hname
  refine ⟨by rw [Check.requiring_of_unmet hmet hunmet]; rfl, fun r => ?_⟩
  rw [Check.requiring_of_unmet hmet hunmet]
  rfl

/-- **What a run of guarded checks gives.** There is one record for each check, in order; a check
whose needs are met runs once and any other never does, and says which need comes first. -/
theorem runChecks_guarded (cs : List (Check × List String)) :
    let l := Ledger.after steps
    (runChecks (cs.map fun p => p.1.requiring p.2 l)).run w =
        cs.map (fun p => (p.1.requiring p.2 l).recordIn w) ∧
      (runChecks (cs.map fun p => p.1.requiring p.2 l)).trace w =
        cs.flatMap (fun p => (p.1.requiring p.2 l).run.trace w) ∧
      (∀ name reason, l.missingReason? name = some reason ↔
        Ledger.LeftUnmet steps name reason) ∧
      ∀ (c : Check) (needs : List String),
        ((∀ name ∈ needs, ∀ reason, ¬ Ledger.LeftUnmet steps name reason) →
          (c.requiring needs l).recordIn w = c.recordIn w ∧
            ∀ r, ((c.announcing r).requiring needs l).run.trace w = r :: c.run.trace w) ∧
        (∀ before name after reason, needs = before ++ name :: after →
          (∀ other ∈ before, ∀ reason, ¬ Ledger.LeftUnmet steps other reason) →
          Ledger.LeftUnmet steps name reason →
          (c.requiring needs l).recordIn w =
              { description := c.description, status := .skip
                diagnostics := name ++ " unavailable: " ++ reason } ∧
            ∀ r, ((c.announcing r).requiring needs l).run.trace w = []) ∧
        (c.run.run w = none →
          (c.recordIn w).status = .unknown ∧ (c.recordIn w).diagnostics = "") ∧
        (((c.requiring needs l).recordIn w).problem.isSome ↔
          ((c.requiring needs l).recordIn w).status = .fail) ∧
        (((c.requiring needs l).recordIn w).status = .fail ∨
            ((c.requiring needs l).recordIn w).status = .unknown →
          ((c.requiring needs l).recordIn w).diagnostics = "") ∧
        ∀ advice, ((c.requiring needs l).recordIn w).suggestion = some advice ↔
          ((c.requiring needs l).recordIn w).status = .fail ∧ c.suggestion = .ok advice := by
  intro l
  refine ⟨?_, ?_, Ledger.missingReason?_after steps, fun c needs => ⟨?_, ?_, ?_, ?_, ?_, ?_⟩⟩
  · rw [run_runChecks, List.map_map]
    rfl
  · rw [trace_runChecks, List.flatMap_map]
  · exact recordIn_of_met steps w
  · rintro before name after reason rfl hbefore hname
    exact recordIn_of_unmet steps w hbefore hname
  · intro hnone
    rw [Check.recordIn, hnone]
    exact ⟨rfl, rfl⟩
  · exact Record.problem_isSome_iff _ _
  · exact Record.diagnostics_eq_empty _ _
  · exact Record.suggestion_eq_some_iff (c.requiring needs l) _

end Run

end MeshDoctor
