import MeshDoctor.Polling
import Mathlib.Tactic.Common

/-!
# Polling — how attempts end

An attempt is in vain, or it is the last one. The statements are about any clock; on one that keeps
an interval the attempts always end.

* `IsVain`, `EndsAt`: an attempt that is followed by another one, and one that ends them all.
* `pollFrom_succ_of_isVain`, `pollFrom_succ_of_endsAt`: one attempt.
* **`comesTo_iff`**: attempts come to what the first of them says that is not in vain;
  `exists_comesTo_or_isVain`: there is such an attempt, or they go on for ever.
* **`comesTo_poll`**: so they do on a clock that keeps an interval.
-/

namespace MeshDoctor

section

variable {α : Type} (elapsed : Nat → Nat) (timeout : Nat) (description : String)
  (step : Nat → Step α)

/-- Does attempt `n` give nothing, and is there time for another one? -/
def IsVain (n : Nat) : Prop := step n = .notYet ∧ elapsed n ≤ timeout

/-- What attempts come to when attempt `n` is the last one. -/
inductive EndsAt (n : Nat) : Polled α → Prop
  | ready {a : α} (h : step n = .ready a) : EndsAt n ⟨.ok a, n + 1⟩
  | failed {f : Failure} (h : step n = .failed f) : EndsAt n ⟨.error f, n + 1⟩
  | timedOut (h : step n = .notYet) (hlate : timeout < elapsed n) :
      EndsAt n ⟨.error (timeoutFailure timeout description), n + 1⟩

/-- Do the attempts from the first on come to `polled`? -/
def ComesTo (polled : Polled α) : Prop :=
  ∃ fuel, pollFrom elapsed timeout description step fuel 0 = some polled

end

section

variable {α : Type} {elapsed : Nat → Nat} {timeout : Nat} {description : String}
  {step : Nat → Step α} {fuel n : Nat} {polled : Polled α}

/-! ## One attempt -/

variable (elapsed timeout description step) in
theorem isVain_or_endsAt (n : Nat) :
    IsVain elapsed timeout step n ∨ ∃ polled, EndsAt elapsed timeout description step n polled := by
  cases h : step n with
  | ready a => exact .inr ⟨_, .ready h⟩
  | failed f => exact .inr ⟨_, .failed h⟩
  | notYet =>
    rcases Nat.lt_or_ge timeout (elapsed n) with hlate | hearly
    · exact .inr ⟨_, .timedOut h hlate⟩
    · exact .inl ⟨h, hearly⟩

theorem EndsAt.not_isVain (h : EndsAt elapsed timeout description step n polled) :
    ¬ IsVain elapsed timeout step n := by
  rintro ⟨hnotYet, hearly⟩
  cases h with
  | ready h => cases hnotYet.symm.trans h
  | failed h => cases hnotYet.symm.trans h
  | timedOut _ hlate => omega

/-- After an attempt in vain there is another one. -/
theorem pollFrom_succ_of_isVain (h : IsVain elapsed timeout step n) :
    pollFrom elapsed timeout description step (fuel + 1) n =
      pollFrom elapsed timeout description step fuel (n + 1) := by
  simp only [pollFrom, h.1, if_neg (Nat.not_lt.mpr h.2)]

/-- After the last attempt there is none. -/
theorem pollFrom_succ_of_endsAt (h : EndsAt elapsed timeout description step n polled)
    (fuel : Nat) :
    pollFrom elapsed timeout description step (fuel + 1) n = some polled := by
  cases h with
  | ready h => simp only [pollFrom, h]
  | failed h => simp only [pollFrom, h]
  | timedOut h hlate => simp only [pollFrom, h, if_pos hlate]

/-! ## All attempts -/

theorem IsVain.cons {k : Nat} (h : IsVain elapsed timeout step n)
    (hrest : ∀ m < k, IsVain elapsed timeout step (n + 1 + m)) :
    ∀ m < k + 1, IsVain elapsed timeout step (n + m) := by
  intro m hm
  cases m with
  | zero => exact h
  | succ m => simpa only [Nat.add_assoc, Nat.add_comm 1 m] using hrest m (Nat.lt_of_succ_lt_succ hm)

/-- The attempts are all in vain, or they are over after the first that is not. -/
theorem pollFrom_cases (fuel n : Nat) :
    (pollFrom elapsed timeout description step fuel n = none ∧
        ∀ m < fuel, IsVain elapsed timeout step (n + m)) ∨
      ∃ k < fuel, ∃ polled, pollFrom elapsed timeout description step fuel n = some polled ∧
        (∀ m < k, IsVain elapsed timeout step (n + m)) ∧
        EndsAt elapsed timeout description step (n + k) polled := by
  -- Each attempt is in vain, and then the next one has the rest of the fuel, or it is the last.
  induction fuel generalizing n with
  | zero => exact .inl ⟨rfl, fun m hm => absurd hm (Nat.not_lt_zero m)⟩
  | succ fuel ih =>
    rcases isVain_or_endsAt elapsed timeout description step n with hvain | ⟨polled, hends⟩
    · rw [pollFrom_succ_of_isVain hvain]
      rcases ih (n + 1) with ⟨hnone, hrest⟩ | ⟨k, hk, polled, hsome, hrest, hends⟩
      · exact .inl ⟨hnone, hvain.cons hrest⟩
      · refine .inr ⟨k + 1, Nat.succ_lt_succ hk, polled, hsome, hvain.cons hrest, ?_⟩
        rwa [Nat.add_assoc, Nat.add_comm 1 k] at hends
    · exact .inr ⟨0, Nat.succ_pos fuel, polled, pollFrom_succ_of_endsAt hends fuel,
        fun m hm => absurd hm (Nat.not_lt_zero m), hends⟩

theorem eq_of_first_not {p : Nat → Prop} {n k : Nat} (hn : ¬ p n) (hbefore : ∀ m < n, p m)
    (hk : ¬ p k) (hbefore' : ∀ m < k, p m) : n = k :=
  Nat.le_antisymm (Nat.not_lt.mp fun h => hk (hbefore k h))
    (Nat.not_lt.mp fun h => hn (hbefore' n h))

/-- The last attempt is the first that is not in vain, so no other one ends the attempts. -/
theorem EndsAt.unique {k : Nat} {other : Polled α}
    (h : EndsAt elapsed timeout description step n polled)
    (hbefore : ∀ m < n, IsVain elapsed timeout step m)
    (hother : EndsAt elapsed timeout description step k other)
    (hbefore' : ∀ m < k, IsVain elapsed timeout step m) : n = k ∧ polled = other := by
  obtain rfl : n = k := eq_of_first_not h.not_isVain hbefore hother.not_isVain hbefore'
  -- Both are what one attempt from `n` on gives.
  have hsome := pollFrom_succ_of_endsAt h 0
  rw [pollFrom_succ_of_endsAt hother] at hsome
  exact ⟨rfl, (Option.some.inj hsome).symm⟩

variable (elapsed timeout description step) in
theorem attempts_cases (fuel : Nat) :
    (pollFrom elapsed timeout description step fuel 0 = none ∧
        ∀ m < fuel, IsVain elapsed timeout step m) ∨
      ∃ n < fuel, ∃ polled, pollFrom elapsed timeout description step fuel 0 = some polled ∧
        (∀ m < n, IsVain elapsed timeout step m) ∧
        EndsAt elapsed timeout description step n polled := by
  simpa only [Nat.zero_add] using pollFrom_cases fuel 0

/-- **Attempts come to what the first of them says that is not in vain.** -/
theorem comesTo_iff :
    ComesTo elapsed timeout description step polled ↔
      ∃ n, (∀ m < n, IsVain elapsed timeout step m) ∧
        EndsAt elapsed timeout description step n polled := by
  constructor
  · rintro ⟨fuel, h⟩
    rcases attempts_cases elapsed timeout description step fuel with
      ⟨hnone, -⟩ | ⟨n, -, last, hsome, hbefore, hends⟩
    · cases hnone.symm.trans h
    · obtain rfl := Option.some.inj (hsome.symm.trans h)
      exact ⟨n, hbefore, hends⟩
  · rintro ⟨n, hbefore, hends⟩
    rcases attempts_cases elapsed timeout description step (n + 1) with
      ⟨-, hvain⟩ | ⟨k, -, last, hsome, hbefore', hends'⟩
    · exact absurd (hvain n (Nat.lt_succ_self n)) hends.not_isVain
    · obtain ⟨-, rfl⟩ := hends.unique hbefore hends' hbefore'
      exact ⟨n + 1, hsome⟩

variable (elapsed timeout description step) in
/-- Attempts that come to nothing are in vain for ever. -/
theorem exists_comesTo_or_isVain :
    (∃ polled, ComesTo elapsed timeout description step polled) ∨
      ∀ n, IsVain elapsed timeout step n := by
  refine or_iff_not_imp_left.mpr fun hnever n => ?_
  rcases attempts_cases elapsed timeout description step (n + 1) with
    ⟨-, hvain⟩ | ⟨k, -, polled, hsome, -⟩
  · exact hvain n (Nat.lt_succ_self n)
  · exact absurd ⟨polled, n + 1, hsome⟩ hnever

end

/-! ## Clocks that keep an interval -/

variable {α : Type} {interval : Nat}

theorem Clock.lt_elapsed (clock : Clock interval) (hinterval : 0 < interval) (timeout : Nat) :
    timeout < clock.elapsed (timeout / interval + 1) :=
  calc timeout
    _ < (timeout / interval + 1) * interval :=
      Nat.lt_mul_of_div_lt (Nat.lt_succ_self _) hinterval
    _ ≤ clock.elapsed (timeout / interval + 1) := clock.le_elapsed _

/-- **On a clock that keeps an interval, the attempts always come to something.** -/
theorem comesTo_poll (clock : Clock interval) (hinterval : 0 < interval) (timeout : Nat)
    (description : String) (step : Nat → Step α) :
    ComesTo clock.elapsed timeout description step (poll clock timeout description step) := by
  refine ⟨attemptLimit timeout interval, ?_⟩
  rw [poll]
  rcases attempts_cases clock.elapsed timeout description step (attemptLimit timeout interval) with
    ⟨-, hvain⟩ | ⟨n, -, polled, hsome, -⟩
  · exact absurd (clock.lt_elapsed hinterval timeout)
      (Nat.not_lt.mpr (hvain _ (Nat.lt_succ_self _)).2)
  · rw [hsome]

end MeshDoctor
