import MeshDoctor.Catalogue.Diagnostic
import MeshDoctor.Proofs.Inquiry.Finds

/-!
# Catalogue — outcomes

* `World.verdict`: what a diagnosis comes to in a world, a problem on the way being a failure.
* `verdict_bind_of_ok`, `verdict_lookup_of_ok` and others: the verdict step by step.
* `verdict_bind_cases`, `verdict_lookup_cases`: what holds of the verdict in either case.
* `finds_loadConfig_text`, `finds_loadConfig_canned`: the configuration that a fixed answer shows.
* `Diagnostic.outcome?`: what a check of the catalogue says about a world.
* `Diagnostic.outcome?_eq`: what it finds, a problem on the way being a failure.
* `Diagnostic.trace_check`: what it asks.
-/

namespace MeshDoctor

/-! ## Verdicts -/

namespace World

variable {α : Type}

/-- What a diagnosis comes to in a world. -/
def verdict (w : World) (x : Diagnosis Outcome) : Outcome := .ofResult (w.finds x)

variable {w : World}

@[simp] theorem verdict_pure (o : Outcome) : w.verdict (pure o) = o := rfl

@[simp] theorem verdict_throw (p : Problem) : w.verdict (throw p) = .fail p := rfl

section Steps

variable {x : Diagnosis α} {f : α → Diagnosis Outcome}

theorem verdict_bind_of_ok {a : α} (h : w.finds x = .ok a) :
    w.verdict (x >>= f) = w.verdict (f a) := by
  rw [verdict, finds_bind, h]
  rfl

theorem verdict_bind_of_error {p : Problem} (h : w.finds x = .error p) :
    w.verdict (x >>= f) = .fail p := by
  rw [verdict, finds_bind, h]
  rfl

end Steps

section Lookups

variable {x : Lookup α} {f : α → Diagnosis Outcome}

theorem verdict_lookup_of_ok {a : α} (h : w.finds x = .ok a) :
    w.verdict (liftM x >>= f) = w.verdict (f a) :=
  verdict_bind_of_ok (finds_liftM_eq_ok.mpr h)

theorem verdict_lookup_of_error {e : Failure} (h : w.finds x = .error e) :
    w.verdict (liftM x >>= f) = .fail (.failedRequest e) := by
  refine verdict_bind_of_error ?_
  rw [finds_liftM, h]
  rfl

end Lookups

section Cases

variable {P : Outcome → Prop}

/-- What holds after an early end and after every result holds of the verdict. -/
theorem verdict_bind_cases {x : Diagnosis α} {f : α → Diagnosis Outcome}
    (hx : ∀ p, w.finds x = .error p → P (.fail p))
    (hf : ∀ a, w.finds x = .ok a → P (w.verdict (f a))) : P (w.verdict (x >>= f)) := by
  cases h : w.finds x with
  | ok a =>
    rw [verdict_bind_of_ok h]
    exact hf a h
  | error p =>
    rw [verdict_bind_of_error h]
    exact hx p h

theorem verdict_lookup_cases {x : Lookup α} {f : α → Diagnosis Outcome}
    (hx : ∀ e, w.finds x = .error e → P (.fail (.failedRequest e)))
    (hf : ∀ a, w.finds x = .ok a → P (w.verdict (f a))) : P (w.verdict (liftM x >>= f)) := by
  cases h : w.finds x with
  | ok a =>
    rw [verdict_lookup_of_ok h]
    exact hf a h
  | error e =>
    rw [verdict_lookup_of_error h]
    exact hx e h

end Cases

end World

/-! ## Configurations -/

section

open Envoy Catalogue

variable {w : World} {pod : PodRef} {text : String}

/-- A fixed answer is only decoded. -/
theorem finds_loadConfig_text : w.finds (loadConfig (some (.canned pod (.ok text)))) =
    Problem.ofFailed (Getter.decode pod text) := by
  rw [loadConfig, World.finds_diagnose]
  rfl

theorem finds_loadConfig_canned {dump : ConfigDump} (h : ConfigDump.ofText text = .ok dump) :
    w.finds (loadConfig (some (.canned pod (.ok text)))) = .ok dump := by
  rw [finds_loadConfig_text, Getter.decode, h, addContext_ok, ofFailed_ok]

end

/-! ## The catalogue -/

namespace Diagnostic

variable (d : Diagnostic) (w : World)

/-- What a check says about a world. -/
def outcome? : Option Outcome := d.check.run.run w

theorem outcome?_eq : d.outcome? w = some (.ofResult (w.finds d.evaluate)) := by
  rw [outcome?, check, Inquiry.run_bind]
  rfl

theorem trace_check : d.check.run.trace w = w.asks d.evaluate := by
  rw [check, Inquiry.trace_bind]
  exact List.append_nil _

end Diagnostic

end MeshDoctor
