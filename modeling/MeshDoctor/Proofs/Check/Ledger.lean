import Mathlib.Data.List.Induction
import MeshDoctor.Check.Basic

/-!
# Checks — what a ledger remembers

* `Ledger.Step`, `Ledger.after`: what can be noted about a prerequisite, and the ledger after a
  sequence of notes.
* `Ledger.LeftUnmet`: the last note on a name left it unmet.
* **`Ledger.missingReason?_after`**: only the last note on a name counts.
* `Ledger.firstMissing?_eq_some`, `Ledger.firstMissing?_eq_none`: what the guard of a check finds.
-/

namespace MeshDoctor.Ledger

/-! ## Notes -/

/-- What can be noted about a prerequisite. -/
inductive Step where
  | satisfied (name : String)
  | unsatisfied (name reason : String)
  | record (name : String) (result : Except Failure Unit)

/-- The prerequisite that a note is about. -/
def Step.name : Step → String
  | satisfied name => name
  | unsatisfied name _ => name
  | record name _ => name

/-- Why the prerequisite is not met, according to a note. -/
def Step.reason? : Step → Option String
  | satisfied _ => none
  | unsatisfied _ reason => some reason
  | record _ (.ok ()) => none
  | record _ (.error failure) => some failure.text

/-- The ledger with one more note. -/
def apply (l : Ledger) : Step → Ledger
  | .satisfied name => l.satisfied name
  | .unsatisfied name reason => l.unsatisfied name reason
  | .record name result => l.record name result

/-- The ledger after some notes. -/
def after (steps : List Step) : Ledger :=
  steps.foldl apply {}

theorem after_append_singleton (steps : List Step) (step : Step) :
    after (steps ++ [step]) = (after steps).apply step := by
  rw [after, after, List.foldl_append, List.foldl_cons, List.foldl_nil]

/-! ## The last note counts -/

theorem entries_apply (l : Ledger) (step : Step) :
    (l.apply step).entries = (step.name, step.reason?) :: l.entries := by
  cases step with
  | satisfied name => rfl
  | unsatisfied name reason => rfl
  | record name result => cases result <;> rfl

theorem missingReason?_apply (l : Ledger) (step : Step) (name : String) :
    (l.apply step).missingReason? name =
      if step.name = name then step.reason? else l.missingReason? name := by
  rw [missingReason?, entries_apply, List.lookup_cons]
  by_cases h : step.name = name
  · simp [h]
  · have hne : (name == step.name) = false := by simpa using Ne.symm h
    rw [hne, if_neg h]
    rfl

/-- The last note on the name says that it is not met, for this reason. -/
def LeftUnmet (steps : List Step) (name reason : String) : Prop :=
  ∃ earlier step later, steps = earlier ++ step :: later ∧ step.name = name ∧
    step.reason? = some reason ∧ ∀ other ∈ later, other.name ≠ name

theorem not_leftUnmet_nil (name reason : String) : ¬ LeftUnmet [] name reason := by
  rintro ⟨earlier, step, later, h, -⟩
  simp at h

theorem leftUnmet_append_singleton (steps : List Step) (step : Step) (name reason : String) :
    LeftUnmet (steps ++ [step]) name reason ↔
      if step.name = name then step.reason? = some reason else LeftUnmet steps name reason := by
  constructor
  · rintro ⟨earlier, last, later, h, hname, hreason, hlater⟩
    -- The last note on the name is the note itself or comes before it.
    cases later using List.reverseRecOn with
    | nil =>
      obtain ⟨rfl, rfl⟩ : steps = earlier ∧ step = last := by simpa using h
      rw [if_pos hname]
      exact hreason
    | append_singleton later other =>
      have hsplit : steps ++ [step] = (earlier ++ last :: later) ++ [other] := by simpa using h
      obtain ⟨rfl, hstep⟩ := List.append_inj' hsplit rfl
      obtain rfl : step = other := by simpa using hstep
      rw [if_neg (hlater step (by simp))]
      exact ⟨earlier, last, later, rfl, hname, hreason, fun o ho => hlater o (by simp [ho])⟩
  · intro h
    split at h
    · next hname => exact ⟨steps, step, [], rfl, hname, h, by simp⟩
    · next hname =>
      obtain ⟨earlier, last, later, rfl, hlast, hreason, hlater⟩ := h
      refine ⟨earlier, last, later ++ [step], by simp, hlast, hreason, fun other ho => ?_⟩
      rcases List.mem_append.mp ho with ho | ho
      · exact hlater other ho
      · obtain rfl : other = step := by simpa using ho
        exact hname

/-- **The last note on a name decides.** -/
theorem missingReason?_after (steps : List Step) (name reason : String) :
    (after steps).missingReason? name = some reason ↔ LeftUnmet steps name reason := by
  induction steps using List.reverseRecOn with
  | nil =>
    constructor
    · intro h
      cases h
    · intro h
      exact absurd h (not_leftUnmet_nil name reason)
  | append_singleton steps step ih =>
    rw [after_append_singleton, missingReason?_apply, leftUnmet_append_singleton]
    split
    · rfl
    · exact ih

/-! ## The first prerequisite that is not met -/

theorem firstMissing?_eq_none {l : Ledger} {names : List String} :
    l.firstMissing? names = none ↔ ∀ name ∈ names, l.missingReason? name = none := by
  simp [firstMissing?]

theorem firstMissing?_eq_some {l : Ledger} {before after : List String} {name reason : String}
    (hbefore : ∀ other ∈ before, l.missingReason? other = none)
    (hname : l.missingReason? name = some reason) :
    l.firstMissing? (before ++ name :: after) = some (name, reason) := by
  have hnone : before.findSome?
      (fun other => (l.missingReason? other).map fun reason => (other, reason)) = none := by
    rw [List.findSome?_eq_none_iff]
    intro other ho
    rw [hbefore other ho]
    rfl
  rw [firstMissing?, List.findSome?_append, hnone, List.findSome?_cons, hname]
  rfl

end MeshDoctor.Ledger
