import MeshDoctor.Proofs.Polling

/-!
# Polling — the answer that is returned

The statements are about any clock, also about one that goes backwards.

* `Decides`: the first attempt that says something, with none before it over late.
* `RunsOut`: the first attempt that is over late, with nothing said until then.
* `comesTo_ok_iff`, `comesTo_error_iff`: what attempts come to by one of these.
* `ComesTo.congr`: attempts after the last one do not count.
* **`comesTo_firstAnswer`**: attempts come to the first answer if it is sought in time, and else to
  the failure that the time is over.
-/

namespace MeshDoctor

variable {α : Type} {elapsed : Nat → Nat} {timeout : Nat} {description : String}
  {step : Nat → Step α} {n : Nat} {polled : Polled α}

section

variable (elapsed timeout step)

/-- Attempt `n` is the first to say something, and it says this. No attempt before it was over late;
it may be over late itself. -/
structure Decides (n : Nat) (answer : Step α) : Prop where
  step_eq : step n = answer
  answer_ne : answer ≠ .notYet
  nothing_before : ∀ m < n, step m = .notYet
  in_time : ∀ m < n, elapsed m ≤ timeout

/-- Attempt `n` is the first to be over late, and nothing was said until then. -/
structure RunsOut (n : Nat) : Prop where
  nothing_said : ∀ m ≤ n, step m = .notYet
  late : timeout < elapsed n
  in_time : ∀ m < n, elapsed m ≤ timeout

end

/-! ## Results -/

theorem Decides.isVain {answer : Step α} (h : Decides elapsed timeout step n answer) :
    ∀ m < n, IsVain elapsed timeout step m :=
  fun m hm => ⟨h.nothing_before m hm, h.in_time m hm⟩

theorem decides_of_isVain {answer : Step α} (hbefore : ∀ m < n, IsVain elapsed timeout step m)
    (hanswers : step n = answer) (hanswer : answer ≠ .notYet) :
    Decides elapsed timeout step n answer :=
  ⟨hanswers, hanswer, fun m hm => (hbefore m hm).1, fun m hm => (hbefore m hm).2⟩

theorem runsOut_iff : RunsOut elapsed timeout step n ↔
    (∀ m < n, IsVain elapsed timeout step m) ∧ step n = .notYet ∧ timeout < elapsed n := by
  constructor
  · intro h
    exact ⟨fun m hm => ⟨h.nothing_said m (Nat.le_of_lt hm), h.in_time m hm⟩,
      h.nothing_said n (Nat.le_refl n), h.late⟩
  · rintro ⟨hbefore, hnotYet, hlate⟩
    refine ⟨fun m hm => ?_, hlate, fun m hm => (hbefore m hm).2⟩
    rcases Nat.lt_or_eq_of_le hm with hlt | rfl
    · exact (hbefore m hlt).1
    · exact hnotYet

theorem EndsAt.attempts_eq (h : EndsAt elapsed timeout description step n polled) :
    polled.attempts = n + 1 := by
  cases h <;> rfl

theorem ComesTo.exists_attempts (h : ComesTo elapsed timeout description step polled) :
    ∃ n, polled.attempts = n + 1 := by
  obtain ⟨n, -, hends⟩ := comesTo_iff.mp h
  exact ⟨n, hends.attempts_eq⟩

/-- No attempt but the last one is over late. -/
theorem ComesTo.in_time (h : ComesTo elapsed timeout description step polled)
    (hn : n + 1 < polled.attempts) : elapsed n ≤ timeout := by
  obtain ⟨last, hbefore, hends⟩ := comesTo_iff.mp h
  have hattempts := hends.attempts_eq
  exact (hbefore n (by omega)).2

/-- Attempts come to a value if an attempt decides by it. -/
theorem comesTo_ok_iff {a : α} :
    ComesTo elapsed timeout description step ⟨.ok a, n + 1⟩ ↔
      Decides elapsed timeout step n (.ready a) := by
  rw [comesTo_iff]
  constructor
  · rintro ⟨m, hbefore, hends⟩
    cases hends with
    | ready h => exact decides_of_isVain hbefore h nofun
  · intro h
    exact ⟨n, h.isVain, .ready h.step_eq⟩

/-- Attempts come to a failure if an attempt decides by it, or if it says that the time is over. -/
theorem comesTo_error_iff {f : Failure} :
    ComesTo elapsed timeout description step ⟨.error f, n + 1⟩ ↔
      Decides elapsed timeout step n (.failed f) ∨
        f = timeoutFailure timeout description ∧ RunsOut elapsed timeout step n := by
  rw [comesTo_iff]
  constructor
  · rintro ⟨m, hbefore, hends⟩
    cases hends with
    | failed h => exact .inl (decides_of_isVain hbefore h nofun)
    | timedOut h hlate => exact .inr ⟨rfl, runsOut_iff.mpr ⟨hbefore, h, hlate⟩⟩
  · rintro (h | ⟨rfl, h⟩)
    · exact ⟨n, h.isVain, .failed h.step_eq⟩
    · obtain ⟨hbefore, hnotYet, hlate⟩ := runsOut_iff.mp h
      exact ⟨n, hbefore, .timedOut hnotYet hlate⟩

/-- Without a deciding attempt, the failure says that the time is over. -/
theorem ComesTo.result_of_undecided (h : ComesTo elapsed timeout description step polled)
    (hundecided : ∀ n answer, ¬ Decides elapsed timeout step n answer) :
    polled.result = .error (timeoutFailure timeout description) := by
  obtain ⟨n, hbefore, hends⟩ := comesTo_iff.mp h
  cases hends with
  | ready hready => exact absurd (decides_of_isVain hbefore hready nofun) (hundecided n _)
  | failed hfailed => exact absurd (decides_of_isVain hbefore hfailed nofun) (hundecided n _)
  | timedOut => rfl

/-- What the condition would say after the last attempt, and when, does not count. -/
theorem ComesTo.congr (h : ComesTo elapsed timeout description step polled)
    {elapsed' : Nat → Nat} {step' : Nat → Step α}
    (hsame : ∀ n < polled.attempts, elapsed' n = elapsed n ∧ step' n = step n) :
    ComesTo elapsed' timeout description step' polled := by
  obtain ⟨n, hbefore, hends⟩ := comesTo_iff.mp h
  rw [hends.attempts_eq] at hsame
  refine comesTo_iff.mpr ⟨n, fun m hm => ?_, ?_⟩
  · rw [IsVain, (hsame m (by omega)).1, (hsame m (by omega)).2]
    exact hbefore m hm
  · obtain ⟨helapsed, hstep⟩ := hsame n n.lt_succ_self
    cases hends with
    | ready hready => exact .ready (hstep.trans hready)
    | failed hfailed => exact .failed (hstep.trans hfailed)
    | timedOut hnotYet hlate => exact .timedOut (hstep.trans hnotYet) (helapsed ▸ hlate)

/-! ## Failures that count as nothing yet -/

theorem patient_eq_ready_iff {s : Step Bool} : s.patient = .ready () ↔ s = .ready true := by
  constructor
  · intro h
    match s, h with
    | .ready true, _ => rfl
  · rintro rfl
    rfl

theorem patient_eq_notYet_iff {s : Step Bool} : s.patient = .notYet ↔ s ≠ .ready true := by
  match s with
  | .notYet => simp [Step.patient]
  | .ready true => simp [Step.patient]
  | .ready false => simp [Step.patient]
  | .failed f => simp [Step.patient]

theorem patient_ne_failed (s : Step Bool) (f : Failure) : s.patient ≠ .failed f := by
  match s with
  | .notYet => nofun
  | .ready true => nofun
  | .ready false => nofun
  | .failed g => nofun

variable {condition : Nat → Step Bool}

theorem decides_patient_iff :
    Decides elapsed timeout (fun n => (condition n).patient) n (.ready ()) ↔
      condition n = .ready true ∧ ∀ m < n, condition m ≠ .ready true ∧ elapsed m ≤ timeout := by
  constructor
  · intro h
    exact ⟨patient_eq_ready_iff.mp h.step_eq,
      fun m hm => ⟨patient_eq_notYet_iff.mp (h.nothing_before m hm), h.in_time m hm⟩⟩
  · rintro ⟨hanswers, hbefore⟩
    exact ⟨patient_eq_ready_iff.mpr hanswers, nofun,
      fun m hm => patient_eq_notYet_iff.mpr (hbefore m hm).1, fun m hm => (hbefore m hm).2⟩

theorem error_of_comesTo_patient {waited : Polled Unit} {f : Failure}
    (h : ComesTo elapsed timeout description (fun n => (condition n).patient) waited)
    (herror : waited.result = .error f) : f = timeoutFailure timeout description := by
  obtain ⟨n, hattempts⟩ := h.exists_attempts
  obtain ⟨result, attempts⟩ := waited
  obtain rfl : result = .error f := herror
  obtain rfl : attempts = n + 1 := hattempts
  rcases comesTo_error_iff.mp h with hdecides | ⟨rfl, -⟩
  · exact absurd hdecides.step_eq (patient_ne_failed _ f)
  · rfl

/-! ## The answer -/

/-- **Attempts come to the first answer if it is sought in time.** Whatever a condition says and
whatever the clock: it is tried at least once, and it is not tried again once the time was found to be
over, so that nothing it would say later counts. A value is returned exactly if an attempt decides by
it, even one that is over late, and so is a failure of the condition. In any other case the failure
says that the time is over, unless all attempts are in vain. If failures count as nothing yet, the
failure always says so. -/
theorem comesTo_firstAnswer (elapsed : Nat → Nat) (timeout : Nat) (description : String)
    (step : Nat → Step α) (condition : Nat → Step Bool) :
    let comesTo (polled : Polled α) := ComesTo elapsed timeout description step polled
    let comesToPatiently (waited : Polled Unit) :=
      ComesTo elapsed timeout description (fun n => (condition n).patient) waited
    let overtime := timeoutFailure timeout description
    (∀ polled, comesTo polled → 1 ≤ polled.attempts ∧
      (∀ n, timeout < elapsed n → polled.attempts ≤ n + 1) ∧
      ∀ elapsed' step', (∀ n < polled.attempts, elapsed' n = elapsed n ∧ step' n = step n) →
        ComesTo elapsed' timeout description step' polled) ∧
    (∀ n a, comesTo ⟨.ok a, n + 1⟩ ↔ Decides elapsed timeout step n (.ready a)) ∧
    (∀ n f, comesTo ⟨.error f, n + 1⟩ ↔ Decides elapsed timeout step n (.failed f) ∨
      f = overtime ∧ RunsOut elapsed timeout step n) ∧
    (∀ polled, comesTo polled → (∀ n answer, ¬ Decides elapsed timeout step n answer) →
      polled.result = .error overtime) ∧
    ((∃ polled, comesTo polled) ∨ ∀ n, IsVain elapsed timeout step n) ∧
    (∀ n, comesToPatiently ⟨.ok (), n + 1⟩ ↔
      condition n = .ready true ∧ ∀ m < n, condition m ≠ .ready true ∧ elapsed m ≤ timeout) ∧
    (∀ waited f, comesToPatiently waited → waited.result = .error f → f = overtime) ∧
    ∀ {interval : Nat} (clock : Clock interval), 0 < interval → clock.elapsed = elapsed →
      comesTo (poll clock timeout description step) := by
  intro comesTo comesToPatiently overtime
  refine ⟨fun polled h => ⟨?_, fun n hlate => ?_, fun elapsed' step' hsame => h.congr hsame⟩,
    fun n a => comesTo_ok_iff, fun n f => comesTo_error_iff,
    fun polled h => h.result_of_undecided, exists_comesTo_or_isVain _ _ _ _,
    fun n => comesTo_ok_iff.trans decides_patient_iff, fun waited f => error_of_comesTo_patient, ?_⟩
  · obtain ⟨n, hattempts⟩ := h.exists_attempts
    omega
  · by_contra hagain
    exact Nat.not_lt.mpr (h.in_time (Nat.not_le.mp hagain)) hlate
  · rintro interval clock hinterval rfl
    exact comesTo_poll clock hinterval timeout description step

/-- An attempt that is over late is not the less an answer. -/
example : pollFrom (fun _ => 700) 500 "" (fun _ => Step.ready 3) 1 0 = some ⟨.ok 3, 1⟩ := rfl

end MeshDoctor
