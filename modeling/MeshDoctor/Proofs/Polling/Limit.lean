import MeshDoctor.Envoy.Admin
import MeshDoctor.Proofs.Polling.Answer

/-!
# Polling — how many attempts there are

The elapsed time grows by the interval from one attempt to the next, so the one after the last that
fits into the timeout is over late.

* `Clock.ofSleeps`: a clock on which every sleep takes the interval or longer.
* `Clock.attempts_le`: on a clock, attempts end within the limit.
* `attempts_least`: a condition that never succeeds reaches it.
* **`comesTo_within_limit`**: attempts with an interval between them end within the limit.
* `Endpoint.attempts_awaitReady_le`: so does the wait for an admin interface.
-/

namespace MeshDoctor

variable {α : Type} {elapsed : Nat → Nat} {timeout interval : Nat} {description : String}
  {step : Nat → Step α} {polled : Polled α}

/-- A clock on which every sleep takes the interval or longer. -/
def Clock.ofSleeps (elapsed : Nat → Nat) (hsleeps : ∀ n, elapsed n + interval ≤ elapsed (n + 1)) :
    Clock interval where
  elapsed := elapsed
  le_elapsed n := by
    induction n with
    | zero => simp
    | succ n ih =>
      calc (n + 1) * interval
        _ = n * interval + interval := Nat.succ_mul n interval
        _ ≤ elapsed n + interval := Nat.add_le_add_right ih interval
        _ ≤ elapsed (n + 1) := hsleeps n

section

variable (elapsed timeout description step) in
/-- Do the attempts end, in one way only and after `limit` of them or fewer? -/
def EndsWithin (limit : Nat) : Prop :=
  ∃ polled, ComesTo elapsed timeout description step polled ∧ polled.attempts ≤ limit ∧
    ∀ other, ComesTo elapsed timeout description step other → other = polled

theorem ComesTo.unique {other : Polled α} (h : ComesTo elapsed timeout description step polled)
    (hother : ComesTo elapsed timeout description step other) : other = polled := by
  obtain ⟨n, hbefore, hends⟩ := comesTo_iff.mp h
  obtain ⟨k, hbefore', hends'⟩ := comesTo_iff.mp hother
  exact (hends'.unique hbefore' hends hbefore).2

end

namespace Clock

variable (clock : Clock interval)

/-- The attempt with which the timeout is over is the last one at the latest. -/
theorem attempts_le (hinterval : 0 < interval)
    (h : ComesTo clock.elapsed timeout description step polled) :
    polled.attempts ≤ attemptLimit timeout interval := by
  by_contra hmore
  have hearly := h.in_time (Nat.lt_of_not_le hmore)
  exact Nat.not_lt.mpr hearly (clock.lt_elapsed hinterval timeout)

theorem endsWithin (hinterval : 0 < interval) (timeout : Nat) (description : String)
    (step : Nat → Step α) :
    EndsWithin clock.elapsed timeout description step (attemptLimit timeout interval) := by
  have hpoll := comesTo_poll clock hinterval timeout description step
  exact ⟨poll clock timeout description step, hpoll, clock.attempts_le hinterval hpoll,
    fun other => hpoll.unique⟩

end Clock

/-- With nothing but the intervals taking time, a condition that never succeeds is tried as often as
the limit allows. -/
theorem attempts_least (hinterval : 0 < interval) (timeout : Nat) (description : String) :
    (poll (.least interval) timeout description fun _ => (.notYet : Step α)).attempts =
      attemptLimit timeout interval := by
  have hpoll := comesTo_poll (.least interval) hinterval timeout description
    fun _ => (.notYet : Step α)
  obtain ⟨n, -, hends⟩ := comesTo_iff.mp hpoll
  have hle := (Clock.least interval).attempts_le hinterval hpoll
  have hlate : timeout / interval < n := by
    rw [Nat.div_lt_iff_lt_mul hinterval]
    generalize poll (.least interval) timeout description _ = polled at hends
    cases hends with
    | ready h => cases h
    | failed h => cases h
    | timedOut _ hlate => exact hlate
  rw [hends.attempts_eq, attemptLimit] at hle ⊢
  omega

/-- **Attempts with an interval between them end within the limit.** On a clock on which every sleep
takes the interval or longer, there are at most two attempts more than intervals fit into the timeout,
whatever the condition says, also if its failures count as nothing yet. So it is on the clocks that are
polled on; and there is a clock on which a condition that never succeeds is tried so often. -/
theorem comesTo_within_limit (hinterval : 0 < interval)
    (hsleeps : ∀ n, elapsed n + interval ≤ elapsed (n + 1)) (timeout : Nat) (description : String)
    (step : Nat → Step α) (condition : Nat → Step Bool) :
    let limit := timeout / interval + 2
    EndsWithin elapsed timeout description step limit ∧
      EndsWithin elapsed timeout description (fun n => (condition n).patient) limit ∧
      (∀ clock : Clock interval,
        ComesTo clock.elapsed timeout description step (poll clock timeout description step) ∧
          (poll clock timeout description step).attempts ≤ limit) ∧
      (poll (.least interval) timeout description fun _ => (.notYet : Step α)).attempts = limit := by
  intro limit
  refine ⟨(Clock.ofSleeps elapsed hsleeps).endsWithin hinterval timeout description step,
    (Clock.ofSleeps elapsed hsleeps).endsWithin hinterval timeout description _, fun clock => ?_,
    attempts_least hinterval timeout description⟩
  have hpoll := comesTo_poll clock hinterval timeout description step
  exact ⟨hpoll, clock.attempts_le hinterval hpoll⟩

/-- An interface that never turns ready is asked six times in a second. -/
theorem comesTo_within_limit_second :
    let elapsed (n : Nat) := 250 * n + 3
    let silent (_ : Nat) : Step Bool := .failed (.say "connection refused")
    0 < adminInterval ∧ (∀ n, elapsed n + adminInterval ≤ elapsed (n + 1)) ∧
      EndsWithin elapsed 1000 "ready" silent 6 ∧
      EndsWithin elapsed 1000 "ready" (fun n => (silent n).patient) 6 ∧
      (poll (.least adminInterval) 1000 "ready" fun _ => (.notYet : Step Bool)).attempts = 6 := by
  intro elapsed silent
  have hinterval : 0 < adminInterval := by decide
  have hsleeps : ∀ n, elapsed n + adminInterval ≤ elapsed (n + 1) := by
    intro n
    simp only [elapsed, adminInterval]
    omega
  obtain ⟨hends, hpatient, -, hleast⟩ :=
    comesTo_within_limit hinterval hsleeps 1000 "ready" silent silent
  exact ⟨hinterval, hsleeps, hends, hpatient, hleast⟩

/-- How often an admin interface is asked whether it is ready. -/
theorem Endpoint.attempts_awaitReady_le (e : Endpoint) (pod : PodRef) (timeout : Nat) :
    (e.awaitReady pod timeout).attempts ≤ attemptLimit timeout adminInterval :=
  e.clock.attempts_le (by decide) (comesTo_poll e.clock (by decide) timeout _ _)

end MeshDoctor
