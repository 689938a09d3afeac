import MeshDoctor.Failure

/-!
# Polling

A condition is tried again and again until it gives a value, fails for good, or the time is over.
The time is looked at after an attempt that gave nothing.

* `Step`: what an attempt gives, `Step.patient` when failures count as nothing yet.
* `pollFrom`: the attempts from one number on, none if they are not over after `fuel` of them.
* `Clock`: when attempts are over, if there is an interval between them.
* `poll`: the attempts on a clock; with an interval they are always over in time.
-/

namespace MeshDoctor

/-- What an attempt gives. -/
inductive Step (α : Type) where
  | notYet
  | ready (a : α)
  | failed (f : Failure)
  deriving Repr

/-- An attempt of which failures count as nothing yet. -/
def Step.patient : Step Bool → Step Unit
  | .ready true => .ready ()
  | _ => .notYet

/-- How attempts ended, and how many there were. -/
structure Polled (α : Type) where
  result : Except Failure α
  attempts : Nat

/-- The failure of a condition that `description` names, after `timeout` milliseconds. -/
def timeoutFailure (timeout : Nat) (description : String) : Failure :=
  .say ("Timeout after " ++ toString timeout ++ " ms: " ++ description)

section

variable {α : Type}

/-- The attempts from number `n` on; attempt `n` is over `elapsed n` milliseconds after the start. -/
def pollFrom (elapsed : Nat → Nat) (timeout : Nat) (description : String) (step : Nat → Step α) :
    (fuel n : Nat) → Option (Polled α)
  | 0, _ => none
  | fuel + 1, n =>
    match step n with
    | .ready a => some ⟨.ok a, n + 1⟩
    | .failed f => some ⟨.error f, n + 1⟩
    | .notYet =>
      if timeout < elapsed n then some ⟨.error (timeoutFailure timeout description), n + 1⟩
      else pollFrom elapsed timeout description step fuel (n + 1)

/-- When attempts are over, in milliseconds since the start, with `interval` between two of them. -/
structure Clock (interval : Nat) where
  elapsed : Nat → Nat
  le_elapsed : ∀ n, n * interval ≤ elapsed n

/-- The clock on which nothing but the intervals takes time. -/
def Clock.least (interval : Nat) : Clock interval :=
  ⟨fun n => n * interval, fun _ => Nat.le_refl _⟩

/-- The most attempts that fit into `timeout` milliseconds. -/
def attemptLimit (timeout interval : Nat) : Nat :=
  timeout / interval + 2

/-- The attempts on a clock. -/
def poll {interval : Nat} (clock : Clock interval) (timeout : Nat) (description : String)
    (step : Nat → Step α) : Polled α :=
  match pollFrom clock.elapsed timeout description step (attemptLimit timeout interval) 0 with
  | some polled => polled
  | none => ⟨.error (timeoutFailure timeout description), attemptLimit timeout interval⟩

end

end MeshDoctor
