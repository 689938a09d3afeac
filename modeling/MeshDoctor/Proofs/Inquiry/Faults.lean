import MeshDoctor.Proofs.Inquiry.Finds

/-!
# Inquiries — requests that are made to fail

An inquiry surfaces failures if the failure of a request is always its own result, perhaps with
more context, save for the answer that a resource does not exist.

* `Faults`, `World.under`: failures for some requests and the world in which these fail.
* `Inquiry.Surfaces`: the inquiry surfaces failures; `Surfaces.bind` and others build such
  inquiries from smaller ones.
* **`Inquiry.Surfaces.run_under`**: if one of the requests fails, the result names the failure.
-/

namespace MeshDoctor

variable {α β ε ε' : Type}

/-! ## Faults -/

/-- The requests that are made to fail and how; a fault is no answer that a resource is missing. -/
structure Faults where
  failure? : Request → Option Failure
  genuine : ∀ {r : Request} {f : Failure}, failure? r = some f → f.isNotFound = false

/-- The world in which some requests fail. -/
def World.under (w : World) (F : Faults) : World := fun r =>
  match F.failure? r with
  | some f => .error f
  | none => w r

theorem World.under_of_some {w : World} {F : Faults} {r : Request} {f : Failure}
    (h : F.failure? r = some f) : w.under F r = .error f := by
  simp only [under, h]

theorem World.under_of_none {w : World} {F : Faults} {r : Request}
    (h : F.failure? r = none) : w.under F r = w r := by
  simp only [under, h]

/-! ## Inquiries that surface failures -/

/-- The failure behind the result of a lookup. -/
def Failure.cause? (f : Failure) : Option Cause := some f.cause

/-- The failure behind a problem, if a request failed. -/
def Problem.cause? : Problem → Option Cause
  | .failedRequest f => some f.cause
  | _ => none

namespace Inquiry

/-- Every failure of a request ends the inquiry and stays its cause, save that of a missing
resource. -/
def Surfaces (cause? : ε → Option Cause) : Inquiry (Except ε α) → Prop
  | done _ => True
  | ask _ next =>
    (∀ f : Failure, f.isNotFound = false →
      ∃ e, next (.error f) = done (.error e) ∧ cause? e = some f.cause) ∧
      ∀ answer, (next answer).Surfaces cause?

namespace Surfaces

variable {cause? : ε → Option Cause} {cause'? : ε' → Option Cause}

/-- An inquiry goes on after a result and lets an early end pass. -/
theorem andThen {x : Inquiry (Except ε α)} {g : Except ε α → Inquiry (Except ε' β)}
    (hx : x.Surfaces cause?) (hok : ∀ a, (g (.ok a)).Surfaces cause'?)
    (herror : ∀ e, ∃ e', g (.error e) = done (.error e') ∧ cause'? e' = cause? e) :
    (x.bind g).Surfaces cause'? := by
  induction x with
  | done result =>
    cases result with
    | ok a => exact hok a
    | error e =>
      obtain ⟨e', he, -⟩ := herror e
      rw [done_bind, he]
      trivial
  | ask r next ih =>
    obtain ⟨hfails, hnext⟩ := hx
    refine ⟨fun f hf => ?_, fun answer => ih answer (hnext answer)⟩
    obtain ⟨e, hdone, hcause⟩ := hfails f hf
    obtain ⟨e', he, hcause'⟩ := herror e
    refine ⟨e', ?_, hcause'.trans hcause⟩
    change (next (.error f)).bind g = _
    rw [hdone, done_bind, he]

theorem bind {x : ExceptT ε Inquiry α} {f : α → ExceptT ε Inquiry β}
    (hx : x.run.Surfaces cause?) (hf : ∀ a, (f a).run.Surfaces cause?) :
    (x >>= f).run.Surfaces cause? :=
  hx.andThen hf fun e => ⟨e, rfl, rfl⟩

theorem request (r : Request) : (request r).run.Surfaces Failure.cause? :=
  ⟨fun f _ => ⟨f, rfl, rfl⟩, fun _ => trivial⟩

theorem within {x : Lookup α} (hx : x.run.Surfaces Failure.cause?) (context : String) :
    (x.within context).run.Surfaces Failure.cause? :=
  hx.andThen (fun _ => trivial) fun f => ⟨f.within context, rfl, rfl⟩

theorem diagnose {x : Lookup α} (hx : x.run.Surfaces Failure.cause?) :
    (liftM x : Diagnosis α).run.Surfaces Problem.cause? :=
  hx.andThen (fun _ => trivial) fun f => ⟨.failedRequest f, rfl, rfl⟩

/-- **If a request of the inquiry fails, its failure is the result.** -/
theorem run_under {x : Inquiry (Except ε α)} (hx : x.Surfaces cause?) {w : World} {F : Faults}
    (h : ∃ r ∈ x.trace w, (F.failure? r).isSome) :
    ∃ r ∈ x.trace w, r ∈ x.trace (w.under F) ∧ ∃ f, F.failure? r = some f ∧
      ∃ e, x.run (w.under F) = .error e ∧ cause? e = some f.cause := by
  induction x with
  | done result => simp at h
  | ask r next ih =>
    obtain ⟨hfails, hnext⟩ := hx
    -- The first request decides: it fails, or both worlds answer it alike.
    cases hr : F.failure? r with
    | some f =>
      obtain ⟨e, hdone, hcause⟩ := hfails f (F.genuine hr)
      refine ⟨r, by simp, by simp, f, hr, e, ?_, hcause⟩
      rw [run_ask, World.under_of_some hr, hdone, run_done]
    | none =>
      have hlater : ∃ r' ∈ (next (w r)).trace w, (F.failure? r').isSome := by
        simpa [hr] using h
      obtain ⟨r', hmade, hmade', found⟩ := ih (w r) (hnext (w r)) hlater
      refine ⟨r', List.mem_cons_of_mem _ hmade, ?_, ?_⟩
      · rw [trace_ask, World.under_of_none hr]
        exact List.mem_cons_of_mem _ hmade'
      · rw [run_ask, World.under_of_none hr]
        exact found

end Surfaces

end Inquiry

end MeshDoctor
