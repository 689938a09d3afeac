import MeshDoctor.Proofs.Inquiry.Surroundings

/-!
# Inquiries — whole runs in changing surroundings

A run is described by the requests with their answers, by the result and by the state that is left.

* `Inquiry.exchanges`: the requests of an inquiry with their answers, in order.
* `Host.Runs`: the exchanges, the result and the state that an inquiry ends with; for each way to put
  lookups together, how such a run goes (`bind_ok`, `bind_error`) and what is known of one
  (`bind_cases`).
* `Host.Steps`: from a state, exchanges lead to another one; **`Runs.steps`**: those of a run do.
* **`AsksOnly.runs_of_answers`**: surroundings that answer like a world are that world to an inquiry.
* `AsksOnly.invariant`: what every request keeps, an inquiry keeps.
-/

namespace MeshDoctor

variable {α β ε σ : Type}

/-- A request with its answer. -/
abbrev Exchange : Type := (r : Request) × Except Failure r.Answer

namespace Inquiry

theorem bind_assoc {γ : Type} (x : Inquiry α) (f : α → Inquiry β) (g : β → Inquiry γ) :
    (x.bind f).bind g = x.bind fun a => (f a).bind g := by
  induction x with
  | done a => rfl
  | ask r next ih => exact congrArg (ask r) (funext ih)

theorem bind_done (x : Inquiry α) : x.bind done = x := by
  induction x with
  | done a => rfl
  | ask r next ih => exact congrArg (ask r) (funext ih)

theorem lawfulMonad : LawfulMonad Inquiry :=
  LawfulMonad.mk' Inquiry (fun x => x.bind_done) (fun _ _ => rfl) fun x f g => x.bind_assoc f g

theorem run_attempt_bind (x : Lookup α) (f : Except Failure α → Lookup β) :
    (x.attempt >>= f).run = x.run.bind fun result => (f result).run := by
  rw [ExceptT.run_bind, Lookup.attempt, ExceptT.run_mk, bind_eq, bind_assoc]
  rfl

theorem run_lift (x : Inquiry α) :
    (liftM x : ExceptT ε Inquiry α).run = x.bind fun a => done (.ok a) := rfl

theorem run_lift_bind (x : Inquiry α) (f : α → ExceptT ε Inquiry β) :
    ((liftM x : ExceptT ε Inquiry α) >>= f).run = x.bind fun a => (f a).run := by
  rw [ExceptT.run_bind, run_lift, bind_eq, bind_assoc]
  rfl

/-! ## Exchanges -/

/-- The requests made in changing surroundings with their answers, in order. -/
def exchanges (host : Host σ) : Inquiry α → σ → List Exchange
  | done _, _ => []
  | ask r next, s => ⟨r, (host r s).1⟩ :: (next (host r s).1).exchanges host (host r s).2

variable (host : Host σ)

@[simp] theorem exchanges_done (a : α) (s : σ) : (done a).exchanges host s = [] := rfl

@[simp] theorem exchanges_ask (r : Request) (next : Except Failure r.Answer → Inquiry α) (s : σ) :
    (ask r next).exchanges host s =
      ⟨r, (host r s).1⟩ :: (next (host r s).1).exchanges host (host r s).2 := rfl

/-- **Exchanges in sequence.** -/
@[simp] theorem exchanges_bind (x : Inquiry α) (f : α → Inquiry β) (s : σ) :
    (x.bind f).exchanges host s =
      x.exchanges host s ++ (f (x.runState host s).1).exchanges host (x.runState host s).2 := by
  induction x generalizing s with
  | done a => rfl
  | ask r next ih =>
    rw [ask_bind, exchanges_ask, ih, exchanges_ask, List.cons_append]
    rfl

/-! ## Runs -/

/-- From a state, an inquiry that may end early makes these exchanges, ends with this result and
leaves this state. -/
structure Host.Runs (host : Host σ) (x : ExceptT ε Inquiry α) (s : σ) (es : List Exchange)
    (result : Except ε α) (s' : σ) : Prop where
  runState_eq : x.run.runState host s = (result, s')
  exchanges_eq : x.run.exchanges host s = es

namespace Host

variable {host : Host σ} {x : ExceptT ε Inquiry α} {f : α → ExceptT ε Inquiry β} {s s₁ s' : σ}
  {es es' : List Exchange}

theorem exists_runs (host : Host σ) (x : ExceptT ε Inquiry α) (s : σ) :
    ∃ es result s', host.Runs x s es result s' :=
  ⟨_, _, _, rfl, rfl⟩

theorem runs_request (host : Host σ) (r : Request) (s : σ) :
    host.Runs (request r) s [⟨r, (host r s).1⟩] (host r s).1 (host r s).2 :=
  ⟨rfl, rfl⟩

theorem runs_lift (host : Host σ) (x : Inquiry α) (s : σ) :
    host.Runs (liftM x : ExceptT ε Inquiry α) s (x.exchanges host s)
      (.ok (x.runState host s).1) (x.runState host s).2 := by
  constructor
  · rw [run_lift, runState_bind]
    rfl
  · rw [run_lift, exchanges_bind, exchanges_done, List.append_nil]

namespace Runs

/-- **A run goes on after a result.** -/
theorem bind_ok {a : α} {result : Except ε β} (hx : host.Runs x s es (.ok a) s₁)
    (hf : host.Runs (f a) s₁ es' result s') : host.Runs (x >>= f) s (es ++ es') result s' := by
  constructor
  · rw [ExceptT.run_bind, bind_eq, runState_bind, hx.runState_eq]
    exact hf.runState_eq
  · rw [ExceptT.run_bind, bind_eq, exchanges_bind, hx.runState_eq, hx.exchanges_eq]
    exact congrArg (es ++ ·) hf.exchanges_eq

/-- **A run ends with the first failure.** -/
theorem bind_error {e : ε} (hx : host.Runs x s es (.error e) s') (f : α → ExceptT ε Inquiry β) :
    host.Runs (x >>= f) s es (.error e) s' := by
  constructor
  · rw [ExceptT.run_bind, bind_eq, runState_bind, hx.runState_eq]
    rfl
  · rw [ExceptT.run_bind, bind_eq, exchanges_bind, hx.runState_eq, hx.exchanges_eq]
    exact List.append_nil es

theorem within {x : Lookup α} {result : Except Failure α} (h : host.Runs x s es result s')
    (context : String) : host.Runs (x.within context) s es (addContext context result) s' := by
  constructor
  · rw [Lookup.within, ExceptT.run_mk, runState_bind, h.runState_eq]
    rfl
  · rw [Lookup.within, ExceptT.run_mk, exchanges_bind, h.exchanges_eq]
    exact List.append_nil es

/-! ### What is known of a run -/

theorem of_pure {a : α} {result : Except ε α}
    (h : host.Runs (pure a : ExceptT ε Inquiry α) s es result s') :
    es = [] ∧ result = .ok a ∧ s' = s :=
  ⟨h.exchanges_eq.symm, congrArg Prod.fst h.runState_eq.symm, congrArg Prod.snd h.runState_eq.symm⟩

theorem of_lift {x : Inquiry α} {result : Except ε α}
    (h : host.Runs (liftM x : ExceptT ε Inquiry α) s es result s') :
    x.exchanges host s = es ∧ result = .ok (x.runState host s).1 ∧ s' = (x.runState host s).2 := by
  have hstate : (x.bind fun a => done (Except.ok a)).runState host s = (result, s') := h.runState_eq
  have hes : (x.bind fun a => done (Except.ok (ε := ε) a)).exchanges host s = es := h.exchanges_eq
  rw [runState_bind] at hstate
  rw [exchanges_bind, exchanges_done, List.append_nil] at hes
  exact ⟨hes, congrArg Prod.fst hstate.symm, congrArg Prod.snd hstate.symm⟩

theorem of_request {r : Request} {answer : Except Failure r.Answer}
    (h : host.Runs (request r) s es answer s') : es = [⟨r, answer⟩] ∧ host r s = (answer, s') := by
  have hstate : host r s = (answer, s') := h.runState_eq
  have hes : [⟨r, (host r s).1⟩] = es := h.exchanges_eq
  refine ⟨?_, hstate⟩
  rw [← hes, hstate]

/-- **A sequence ends in its first part or in its second one.** -/
theorem bind_cases {result : Except ε β} (h : host.Runs (x >>= f) s es result s') :
    (∃ e, host.Runs x s es (.error e) s' ∧ result = .error e) ∨
      ∃ a es₁ s₁ es₂, host.Runs x s es₁ (.ok a) s₁ ∧ host.Runs (f a) s₁ es₂ result s' ∧
        es = es₁ ++ es₂ := by
  obtain ⟨es₁, found, s₁, hx⟩ := host.exists_runs x s
  cases found with
  | error e =>
    have hall := hx.bind_error f
    obtain ⟨hresult, hstate⟩ := Prod.mk.inj (h.runState_eq.symm.trans hall.runState_eq)
    rw [← h.exchanges_eq, hall.exchanges_eq, hresult, hstate]
    exact .inl ⟨e, hx, rfl⟩
  | ok a =>
    obtain ⟨es₂, found₂, s₂, hf⟩ := host.exists_runs (f a) s₁
    have hall := hx.bind_ok hf
    obtain ⟨hresult, hstate⟩ := Prod.mk.inj (h.runState_eq.symm.trans hall.runState_eq)
    rw [← h.exchanges_eq, hall.exchanges_eq, hresult, hstate]
    exact .inr ⟨a, es₁, s₁, es₂, hx, hf, rfl⟩

theorem of_within {x : Lookup α} {context : String} {result : Except Failure α}
    (h : host.Runs (x.within context) s es result s') :
    ∃ found, host.Runs x s es found s' ∧ result = addContext context found := by
  obtain ⟨es₁, found, s₁, hx⟩ := host.exists_runs x s
  have hall := hx.within context
  obtain ⟨hresult, hstate⟩ := Prod.mk.inj (h.runState_eq.symm.trans hall.runState_eq)
  rw [← h.exchanges_eq, hall.exchanges_eq, hresult, hstate]
  exact ⟨found, hx, rfl⟩

end Runs

end Host

/-! ## Steps -/

/-- From a state, these requests are answered like this, which leads to the other state. -/
inductive Host.Steps (host : Host σ) : σ → List Exchange → σ → Prop where
  | nil (s : σ) : Steps host s [] s
  | cons {r : Request} {answer : Except Failure r.Answer} {s s₁ s' : σ} {es : List Exchange}
    (h : host r s = (answer, s₁)) (rest : Steps host s₁ es s') :
    Steps host s (⟨r, answer⟩ :: es) s'

namespace Host

variable {host : Host σ} {s s' : σ} {es es' : List Exchange}

theorem steps_exchanges (host : Host σ) (x : Inquiry α) (s : σ) :
    host.Steps s (x.exchanges host s) (x.runState host s).2 := by
  induction x generalizing s with
  | done a => exact .nil s
  | ask r next ih => exact .cons rfl (ih _ _)

theorem Runs.steps {x : ExceptT ε Inquiry α} {result : Except ε α}
    (h : host.Runs x s es result s') : host.Steps s es s' := by
  have hsteps := host.steps_exchanges x.run s
  rwa [h.exchanges_eq, h.runState_eq] at hsteps

namespace Steps

theorem append_iff :
    host.Steps s (es ++ es') s' ↔ ∃ s₁, host.Steps s es s₁ ∧ host.Steps s₁ es' s' := by
  constructor
  · intro h
    induction es generalizing s with
    | nil => exact ⟨s, .nil s, h⟩
    | cons e es ih =>
      cases h with
      | cons hhost hrest =>
        obtain ⟨s₁, hes, hes'⟩ := ih hrest
        exact ⟨s₁, .cons hhost hes, hes'⟩
  · rintro ⟨s₁, hes, hes'⟩
    induction hes with
    | nil => exact hes'
    | cons hhost _ ih => exact .cons hhost (ih hes')

theorem of_mem {e : Exchange} (h : host.Steps s es s') (he : e ∈ es) :
    ∃ before after s₁ s₂, es = before ++ e :: after ∧ host.Steps s before s₁ ∧
      host e.1 s₁ = (e.2, s₂) ∧ host.Steps s₂ after s' := by
  obtain ⟨before, after, rfl⟩ := List.append_of_mem he
  obtain ⟨s₁, hbefore, hrest⟩ := append_iff.mp h
  cases hrest with
  | cons hhost hafter => exact ⟨before, after, s₁, _, rfl, hbefore, hhost, hafter⟩

theorem invariant {Good : σ → Prop} (h : host.Steps s es s')
    (hstep : ∀ e ∈ es, ∀ s, Good s → Good (host e.1 s).2) (hs : Good s) : Good s' := by
  induction h with
  | nil => exact hs
  | cons hhost _ ih =>
    refine ih (fun e he => hstep e (List.mem_cons_of_mem _ he)) ?_
    have hgood := hstep _ List.mem_cons_self _ hs
    rwa [hhost] at hgood

end Steps

end Host

/-! ## Requests of one kind -/

namespace AsksOnly

variable {P : Request → Prop} {host : Host σ} {Good : σ → Prop} {s : σ}

theorem invariant {x : Inquiry α} (hx : x.AsksOnly P)
    (h : ∀ r s, P r → Good s → Good (host r s).2) (hs : Good s) : Good (x.runState host s).2 := by
  induction x generalizing s with
  | done a => exact hs
  | ask r next ih => exact ih _ (hx.2 _) (h r s hx.1 hs)

theorem of_mem_exchanges {x : Inquiry α} (hx : x.AsksOnly P) {e : Exchange}
    (he : e ∈ x.exchanges host s) : P e.1 := by
  induction x generalizing s with
  | done a => cases he
  | ask r next ih =>
    rcases List.mem_cons.mp he with rfl | he
    · exact hx.1
    · exact ih _ (hx.2 _) he

/-- **Surroundings that answer like a world are that world to an inquiry.** Each request leaves them
in a state in which they still do. -/
theorem runs_of_answers {x : Inquiry α} {w : World} (hx : x.AsksOnly P)
    (h : ∀ r s, P r → Good s → (host r s).1 = w r ∧ Good (host r s).2) (hs : Good s) :
    x.runState host s = (x.run w, (x.trace w).foldl (fun s r => (host r s).2) s) ∧
      x.exchanges host s = (x.trace w).map fun r => ⟨r, w r⟩ := by
  induction x generalizing s with
  | done a => exact ⟨rfl, rfl⟩
  | ask r next ih =>
    obtain ⟨hanswer, hgood⟩ := h r s hx.1 hs
    obtain ⟨hrun, hexchanges⟩ := ih (w r) (hx.2 _) hgood
    refine ⟨?_, ?_⟩
    · rw [runState_ask, hanswer, hrun]
      rfl
    · rw [exchanges_ask, hanswer, hexchanges]
      rfl

end AsksOnly

end Inquiry

end MeshDoctor
