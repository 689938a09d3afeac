import MeshDoctor.Proofs.Inquiry.Finds

/-!
# Inquiries — changing surroundings

Answering a request may change what is answered later. A world is the case of surroundings that stay
the same.

* `Inquiry.requests`: the requests made in changing surroundings.
* `Host.finds`, `Host.asks`, `Host.after`: the result, the requests and the state that an inquiry
  which may end early leaves behind.
* **`Host.finds_bind`**, **`Host.asks_bind`**: what is found decides whether the rest is asked.
* `Inquiry.AsksOnly`: all requests of an inquiry are of a kind, whatever is answered.
* `Host.through`, **`runState_substitute`**: an inquiry asked through inquiries of its requests.
* `World.host`, `World.through`, `World.run_substitute`: the same for a world.
-/

namespace MeshDoctor

variable {α β ε σ : Type}

/-! ## Results and requests -/

namespace Inquiry

/-- The requests made in changing surroundings, in order. -/
def requests (host : Host σ) : Inquiry α → σ → List Request
  | done _, _ => []
  | ask r next, s => r :: (next (host r s).1).requests host (host r s).2

variable (host : Host σ)

@[simp] theorem runState_done (a : α) (s : σ) : (done a).runState host s = (a, s) := rfl

@[simp] theorem runState_ask (r : Request) (next : Except Failure r.Answer → Inquiry α) (s : σ) :
    (ask r next).runState host s = (next (host r s).1).runState host (host r s).2 := rfl

@[simp] theorem requests_done (a : α) (s : σ) : (done a).requests host s = [] := rfl

@[simp] theorem requests_ask (r : Request) (next : Except Failure r.Answer → Inquiry α) (s : σ) :
    (ask r next).requests host s = r :: (next (host r s).1).requests host (host r s).2 := rfl

/-- **Results in sequence.** -/
@[simp] theorem runState_bind (x : Inquiry α) (f : α → Inquiry β) (s : σ) :
    (x.bind f).runState host s =
      (f (x.runState host s).1).runState host (x.runState host s).2 := by
  induction x generalizing s with
  | done a => rfl
  | ask r next ih => exact ih (host r s).1 (host r s).2

/-- **Requests in sequence.** -/
@[simp] theorem requests_bind (x : Inquiry α) (f : α → Inquiry β) (s : σ) :
    (x.bind f).requests host s =
      x.requests host s ++ (f (x.runState host s).1).requests host (x.runState host s).2 := by
  induction x generalizing s with
  | done a => rfl
  | ask r next ih =>
    rw [ask_bind, requests_ask, ih, requests_ask, List.cons_append]
    rfl

end Inquiry

/-! ## Inquiries that may end early -/

namespace Inquiry.Host

variable (host : Host σ)

/-- What an inquiry that may end early finds in changing surroundings. -/
def finds (x : ExceptT ε Inquiry α) (s : σ) : Except ε α := (x.run.runState host s).1

/-- The state in which an inquiry that may end early leaves its surroundings. -/
def after (x : ExceptT ε Inquiry α) (s : σ) : σ := (x.run.runState host s).2

/-- What an inquiry that may end early asks in changing surroundings, in order. -/
def asks (x : ExceptT ε Inquiry α) (s : σ) : List Request := x.run.requests host s

@[simp] theorem asks_pure (a : α) (s : σ) :
    host.asks (pure a : ExceptT ε Inquiry α) s = [] := rfl

section Bind

variable (x : ExceptT ε Inquiry α) (f : α → ExceptT ε Inquiry β) (s : σ)

/-- **Results in sequence, up to the first early end.** -/
@[simp] theorem finds_bind :
    host.finds (x >>= f) s =
      (host.finds x s).bind fun a => host.finds (f a) (host.after x s) := by
  rw [finds, ExceptT.run_bind, Inquiry.bind_eq, Inquiry.runState_bind]
  change _ = (x.run.runState host s).1.bind fun a =>
    ((f a).run.runState host (x.run.runState host s).2).1
  cases (x.run.runState host s).1 with
  | ok a => rfl
  | error e => rfl

/-- **Requests in sequence, up to the first early end.** -/
@[simp] theorem asks_bind :
    host.asks (x >>= f) s =
      host.asks x s ++ match host.finds x s with
        | .ok a => host.asks (f a) (host.after x s)
        | .error _ => [] := by
  rw [asks, ExceptT.run_bind, Inquiry.bind_eq, Inquiry.requests_bind]
  change x.run.requests host s ++ _ = x.run.requests host s ++ match (x.run.runState host s).1 with
    | .ok a => (f a).run.requests host (x.run.runState host s).2
    | .error _ => []
  cases (x.run.runState host s).1 with
  | ok a => rfl
  | error e => rfl

variable {x s} in
theorem finds_bind_of_ok {a : α} (h : host.finds x s = .ok a) :
    host.finds (x >>= f) s = host.finds (f a) (host.after x s) := by
  rw [finds_bind, h, ok_bind]

theorem asks_bind_of_silent (h : ∀ a s', host.asks (f a) s' = []) :
    host.asks (x >>= f) s = host.asks x s := by
  rw [asks_bind]
  cases host.finds x s with
  | ok a => simp [h]
  | error e => simp

end Bind

@[simp] theorem finds_request (r : Request) (s : σ) : host.finds (request r) s = (host r s).1 := rfl

@[simp] theorem asks_request (r : Request) (s : σ) : host.asks (request r) s = [r] := rfl

section Contexts

variable (x : Lookup α) (s : σ)

@[simp] theorem finds_within (context : String) :
    host.finds (x.within context) s = addContext context (host.finds x s) := by
  rw [finds, Lookup.within, ExceptT.run_mk, Inquiry.runState_bind]
  rfl

@[simp] theorem after_within (context : String) :
    host.after (x.within context) s = host.after x s := by
  rw [after, Lookup.within, ExceptT.run_mk, Inquiry.runState_bind]
  rfl

@[simp] theorem asks_within (context : String) :
    host.asks (x.within context) s = host.asks x s := by
  rw [asks, Lookup.within, ExceptT.run_mk, Inquiry.requests_bind]
  simp [asks]

@[simp] theorem finds_attempt : host.finds x.attempt s = .ok (host.finds x s) := by
  rw [finds, Lookup.attempt, ExceptT.run_mk, Inquiry.runState_bind]
  rfl

@[simp] theorem after_attempt : host.after x.attempt s = host.after x s := by
  rw [after, Lookup.attempt, ExceptT.run_mk, Inquiry.runState_bind]
  rfl

@[simp] theorem asks_attempt : host.asks x.attempt s = host.asks x s := by
  rw [asks, Lookup.attempt, ExceptT.run_mk, Inquiry.requests_bind]
  simp [asks]

end Contexts

section Lift

variable (x : Inquiry α) (s : σ)

@[simp] theorem finds_lift :
    host.finds (liftM x : ExceptT ε Inquiry α) s = .ok (x.runState host s).1 := by
  change ((x.bind fun a => .done (Except.ok a)).runState host s).1 = _
  rw [Inquiry.runState_bind]
  rfl

@[simp] theorem asks_lift :
    host.asks (liftM x : ExceptT ε Inquiry α) s = x.requests host s := by
  change (x.bind fun a => .done (Except.ok (ε := ε) a)).requests host s = _
  rw [Inquiry.requests_bind]
  simp

end Lift

end Inquiry.Host

/-! ## Requests of one kind -/

namespace Inquiry

/-- Whatever is answered, the inquiry makes only requests with the property. -/
def AsksOnly (P : Request → Prop) : Inquiry α → Prop
  | done _ => True
  | ask r next => P r ∧ ∀ answer, (next answer).AsksOnly P

namespace AsksOnly

variable {P Q : Request → Prop}

theorem mono {x : Inquiry α} (hx : x.AsksOnly P) (h : ∀ r, P r → Q r) : x.AsksOnly Q := by
  induction x with
  | done a => trivial
  | ask r next ih => exact ⟨h r hx.1, fun answer => ih answer (hx.2 answer)⟩

theorem andThen {x : Inquiry α} {f : α → Inquiry β} (hx : x.AsksOnly P)
    (hf : ∀ a, (f a).AsksOnly P) : (x.bind f).AsksOnly P := by
  induction x with
  | done a => exact hf a
  | ask r next ih => exact ⟨hx.1, fun answer => ih answer (hx.2 answer)⟩

theorem bind {x : ExceptT ε Inquiry α} {f : α → ExceptT ε Inquiry β} (hx : x.run.AsksOnly P)
    (hf : ∀ a, (f a).run.AsksOnly P) : (x >>= f).run.AsksOnly P := by
  refine hx.andThen fun result => ?_
  cases result with
  | ok a => exact hf a
  | error e => trivial

theorem request {r : Request} (hr : P r) : (request r).run.AsksOnly P :=
  ⟨hr, fun _ => trivial⟩

theorem requestOr {r : Request} {dflt : r.Answer} (hr : P r) :
    (requestOr r dflt).run.AsksOnly P :=
  ⟨hr, fun _ => trivial⟩

theorem within {x : Lookup α} (hx : x.run.AsksOnly P) (context : String) :
    (x.within context).run.AsksOnly P :=
  hx.andThen fun _ => trivial

theorem attempt {x : Lookup α} (hx : x.run.AsksOnly P) : x.attempt.run.AsksOnly P :=
  hx.andThen fun _ => trivial

theorem diagnose {x : Lookup α} (hx : x.run.AsksOnly P) :
    (liftM x : Diagnosis α).run.AsksOnly P :=
  hx.andThen fun _ => trivial

theorem lift {x : Inquiry α} (hx : x.AsksOnly P) :
    (liftM x : ExceptT ε Inquiry α).run.AsksOnly P :=
  hx.andThen fun _ => trivial

theorem substitute {t : (r : Request) → Inquiry (Except Failure r.Answer)} {x : Inquiry α}
    (hx : x.AsksOnly P) (ht : ∀ r, P r → (t r).AsksOnly Q) : (x.substitute t).AsksOnly Q := by
  induction x with
  | done a => trivial
  | ask r next ih => exact (ht r hx.1).andThen fun answer => ih answer (hx.2 answer)

theorem of_mem_requests {x : Inquiry α} (hx : x.AsksOnly P) {host : Host σ} {s : σ} {r : Request}
    (hr : r ∈ x.requests host s) : P r := by
  induction x generalizing s with
  | done a => cases hr
  | ask r' next ih =>
    rcases List.mem_cons.mp hr with rfl | hr
    · exact hx.1
    · exact ih (host r' s).1 (hx.2 _) hr

theorem filter_requests_eq_nil {x : Inquiry α} {keep : Request → Bool}
    (hx : x.AsksOnly (keep · = false)) (host : Host σ) (s : σ) :
    (x.requests host s).filter keep = [] := by
  rw [List.filter_eq_nil_iff]
  intro r hr
  rw [hx.of_mem_requests hr]
  exact Bool.false_ne_true

theorem filterMap_requests_eq_nil {x : Inquiry α} {mark : Request → Option β}
    (hx : x.AsksOnly (mark · = none)) (host : Host σ) (s : σ) :
    (x.requests host s).filterMap mark = [] := by
  rw [List.filterMap_eq_nil_iff]
  intro r hr
  exact hx.of_mem_requests hr

end AsksOnly

end Inquiry

/-! ## Asking through other inquiries -/

section Through

variable (t : (r : Request) → Inquiry (Except Failure r.Answer))

/-- Surroundings that answer each request with what an inquiry of its own finds. -/
def Inquiry.Host.through (host : Inquiry.Host σ) : Inquiry.Host σ := fun r s =>
  (t r).runState host s

/-- **An inquiry asked through others finds what they find.** -/
theorem Inquiry.runState_substitute (host : Host σ) (x : Inquiry α) (s : σ) :
    (x.substitute t).runState host s = x.runState (host.through t) s := by
  induction x generalizing s with
  | done a => rfl
  | ask r next ih =>
    rw [substitute, runState_bind, ih, runState_ask]
    rfl

/-- If each inquiry keeps the mark of its request and adds no other, so does the whole. -/
theorem Inquiry.filterMap_requests_substitute {mark : Request → Option β} {host : Host σ}
    (ht : ∀ r s, ((t r).requests host s).filterMap mark = (mark r).toList) (x : Inquiry α) (s : σ) :
    ((x.substitute t).requests host s).filterMap mark =
      (x.requests (host.through t) s).filterMap mark := by
  induction x generalizing s with
  | done a => rfl
  | ask r next ih =>
    rw [substitute, requests_bind, List.filterMap_append, ht, ih, requests_ask,
      List.filterMap_cons]
    cases hmark : mark r <;> rfl

end Through

/-! ## Worlds -/

namespace World

variable (w : World)

/-- Surroundings that stay as they are. -/
def host : Inquiry.Host Unit := fun r s => (w r, s)

theorem runState_host (x : Inquiry α) (s : Unit) : x.runState w.host s = (x.run w, s) := by
  induction x with
  | done a => rfl
  | ask r next ih => exact ih (w r)

theorem requests_host (x : Inquiry α) (s : Unit) : x.requests w.host s = x.trace w := by
  induction x with
  | done a => rfl
  | ask r next ih =>
    rw [Inquiry.requests_ask, Inquiry.trace_ask]
    exact congrArg (r :: ·) (ih (w r))

theorem finds_host (x : ExceptT ε Inquiry α) (s : Unit) : w.host.finds x s = w.finds x :=
  congrArg Prod.fst (w.runState_host x.run s)

/-- The world that answers each request with what an inquiry of its own finds. -/
def through (t : (r : Request) → Inquiry (Except Failure r.Answer)) : World := fun r =>
  (t r).run w

/-- **An inquiry asked through others finds in a world what it finds in their answers.** -/
theorem run_substitute (t : (r : Request) → Inquiry (Except Failure r.Answer)) (x : Inquiry α) :
    (x.substitute t).run w = x.run (w.through t) := by
  induction x with
  | done a => rfl
  | ask r next ih =>
    rw [Inquiry.substitute, Inquiry.run_bind, ih, Inquiry.run_ask]
    rfl

theorem through_host (t : (r : Request) → Inquiry (Except Failure r.Answer)) :
    w.host.through t = (w.through t).host := by
  funext r s
  exact w.runState_host (t r) s

end World

end MeshDoctor
