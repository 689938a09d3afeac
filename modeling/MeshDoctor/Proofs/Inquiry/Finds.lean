import MeshDoctor.Inquiry.Basic

/-!
# Inquiries — what they find and what they ask

* `World.finds`, `World.asks`: the result and the requests of an inquiry that may end early.
* **`World.finds_bind`**, **`World.asks_bind`**: what is found decides whether the rest is asked.
* **`Inquiry.run_congr`**: the result depends on the requests made.
* `World.AsksOnly`: all requests of an inquiry are of a kind; `AsksOnly.bind` and others build such
  inquiries from smaller ones.
-/

namespace MeshDoctor

variable {α β ε : Type}

/-! ## Results that may be missing -/

@[simp] theorem ok_bind (a : α) (f : α → Except ε β) : (Except.ok a).bind f = f a := rfl

@[simp] theorem error_bind (e : ε) (f : α → Except ε β) : (Except.error e).bind f = .error e := rfl

theorem bind_eq_ok {x : Except ε α} {f : α → Except ε β} {b : β} :
    x.bind f = .ok b ↔ ∃ a, x = .ok a ∧ f a = .ok b := by
  cases x with
  | ok a => simp
  | error e => simp

theorem bind_eq_error {x : Except ε α} {f : α → Except ε β} {e : ε} :
    x.bind f = .error e ↔ x = .error e ∨ ∃ a, x = .ok a ∧ f a = .error e := by
  cases x with
  | ok a => simp
  | error e' => simp

theorem mapError_eq_ok {ε' : Type} {x : Except ε α} {f : ε → ε'} {a : α} :
    x.mapError f = .ok a ↔ x = .ok a := by
  cases x with
  | ok a' =>
    change Except.ok a' = .ok a ↔ _
    simp
  | error e => exact iff_of_false nofun nofun

theorem mapError_eq_error {ε' : Type} {x : Except ε α} {f : ε → ε'} {e' : ε'} :
    x.mapError f = .error e' ↔ ∃ e, x = .error e ∧ f e = e' := by
  cases x with
  | ok a => exact iff_of_false nofun nofun
  | error e =>
    change Except.error (f e) = .error e' ↔ _
    simp

theorem map_eq_ok {x : Except ε α} {f : α → β} {b : β} :
    x.map f = .ok b ↔ ∃ a, x = .ok a ∧ f a = b := by
  cases x <;> simp [Except.map]

@[simp] theorem ofFailed_ok (a : α) : Problem.ofFailed (.ok a) = .ok a := rfl

@[simp] theorem ofFailed_error (f : Failure) :
    Problem.ofFailed (.error f : Except Failure α) = .error (.failedRequest f) := rfl

@[simp] theorem addContext_ok (context : String) (a : α) :
    addContext context (.ok a) = .ok a := rfl

@[simp] theorem addContext_error (context : String) (f : Failure) :
    addContext context (.error f : Except Failure α) = .error (f.within context) := rfl

theorem addContext_eq_ok {context : String} {x : Except Failure α} {a : α} :
    addContext context x = .ok a ↔ x = .ok a := by
  cases x with
  | ok b => simp
  | error f => simp

/-! ## What is found -/

namespace World

/-- What an inquiry that may end early finds in the world. -/
def finds (w : World) (x : ExceptT ε Inquiry α) : Except ε α := x.run.run w

variable (w : World)

/-- **Results in sequence, up to the first early end.** -/
@[simp] theorem finds_bind (x : ExceptT ε Inquiry α) (f : α → ExceptT ε Inquiry β) :
    w.finds (x >>= f) = (w.finds x).bind fun a => w.finds (f a) := by
  rw [finds, ExceptT.run_bind, Inquiry.bind_eq, Inquiry.run_bind]
  change _ = (x.run.run w).bind fun a => (f a).run.run w
  cases x.run.run w with
  | ok a => rfl
  | error e => rfl

@[simp] theorem finds_within (context : String) (x : Lookup α) :
    w.finds (x.within context) = addContext context (w.finds x) := by
  rw [finds, Lookup.within, ExceptT.run_mk, Inquiry.run_bind]
  rfl

@[simp] theorem finds_diagnose (x : Lookup α) :
    w.finds x.diagnose = Problem.ofFailed (w.finds x) := by
  rw [finds, Lookup.diagnose, ExceptT.run_mk, Inquiry.run_bind]
  rfl

@[simp] theorem finds_liftM (x : Lookup α) :
    w.finds (liftM x : Diagnosis α) = Problem.ofFailed (w.finds x) :=
  w.finds_diagnose x

theorem finds_liftM_eq_ok {w : World} {x : Lookup α} {a : α} :
    w.finds (liftM x : Diagnosis α) = .ok a ↔ w.finds x = .ok a := by
  rw [finds_liftM]
  cases w.finds x with
  | ok b => simp
  | error f => simp

@[simp] theorem finds_diagnosis (result : Except Problem α) :
    w.finds (Diagnosis.ofResult result) = result := rfl

@[simp] theorem finds_attempt (x : Lookup α) : w.finds x.attempt = .ok (w.finds x) := by
  rw [finds, Lookup.attempt, ExceptT.run_mk, Inquiry.run_bind]
  rfl

variable {w}

theorem finds_bind_of_ok {x : ExceptT ε Inquiry α} {a : α} (h : w.finds x = .ok a)
    (f : α → ExceptT ε Inquiry β) : w.finds (x >>= f) = w.finds (f a) := by
  rw [finds_bind, h, ok_bind]

theorem finds_requestOr_of_ok {r : Request} {answer : r.Answer} (h : w r = .ok answer)
    (dflt : r.Answer) : w.finds (requestOr r dflt) = .ok answer := by
  change Except.ok ((w r).toOption.getD dflt) = _
  rw [h]
  rfl

variable (w)

/-! ## What is asked -/

/-- What an inquiry that may end early asks in the world, in order. -/
def asks (x : ExceptT ε Inquiry α) : List Request := x.run.trace w

@[simp] theorem asks_pure (a : α) : w.asks (pure a : ExceptT ε Inquiry α) = [] := rfl

/-- **Requests in sequence, up to the first early end.** -/
@[simp] theorem asks_bind (x : ExceptT ε Inquiry α) (f : α → ExceptT ε Inquiry β) :
    w.asks (x >>= f) =
      w.asks x ++ match w.finds x with
        | .ok a => w.asks (f a)
        | .error _ => [] := by
  rw [asks, ExceptT.run_bind, Inquiry.bind_eq, Inquiry.trace_bind]
  change x.run.trace w ++ _ = x.run.trace w ++ match x.run.run w with
    | .ok a => (f a).run.trace w
    | .error _ => []
  cases x.run.run w with
  | ok a => rfl
  | error e => rfl

@[simp] theorem asks_request (r : Request) : w.asks (request r) = [r] := rfl

@[simp] theorem asks_within (context : String) (x : Lookup α) :
    w.asks (x.within context) = w.asks x := by
  rw [asks, Lookup.within, ExceptT.run_mk, Inquiry.trace_bind]
  simp [asks]

@[simp] theorem asks_diagnose (x : Lookup α) : w.asks x.diagnose = w.asks x := by
  rw [asks, Lookup.diagnose, ExceptT.run_mk, Inquiry.trace_bind]
  simp [asks]

@[simp] theorem asks_liftM (x : Lookup α) : w.asks (liftM x : Diagnosis α) = w.asks x :=
  w.asks_diagnose x

@[simp] theorem asks_lookup (result : Except Failure α) :
    w.asks (Lookup.ofResult result) = [] := rfl

end World

/-! ## Worlds that agree on what is asked -/

/-- **The result depends on the requests made.** -/
theorem Inquiry.run_congr {w w' : World} (x : Inquiry α) (h : ∀ r ∈ x.trace w, w' r = w r) :
    x.run w' = x.run w := by
  induction x with
  | done a => rfl
  | ask r next ih =>
    have hr : w' r = w r := h r List.mem_cons_self
    rw [run_ask, run_ask, hr]
    exact ih (w r) fun r' hr' => h r' (List.mem_cons_of_mem _ hr')

theorem World.finds_congr {w w' : World} {x : ExceptT ε Inquiry α}
    (h : ∀ r ∈ w.asks x, w' r = w r) : w'.finds x = w.finds x :=
  x.run.run_congr h

/-- Two inquiries find the same if they do step by step. -/
theorem World.finds_bind_congr {w w' : World} {x y : ExceptT ε Inquiry α}
    {f g : α → ExceptT ε Inquiry β} (hx : w'.finds y = w.finds x)
    (hf : ∀ a, w.finds x = .ok a → w'.finds (g a) = w.finds (f a)) :
    w'.finds (y >>= g) = w.finds (x >>= f) := by
  rw [finds_bind, finds_bind, hx]
  cases h : w.finds x with
  | ok a => exact hf a h
  | error e => rfl

theorem World.finds_liftM_congr {w w' : World} {x y : Lookup α} (h : w'.finds y = w.finds x) :
    w'.finds (liftM y : Diagnosis α) = w.finds (liftM x : Diagnosis α) := by
  rw [finds_liftM, finds_liftM, h]

/-! ## Requests of one kind -/

namespace World

/-- In the world, the inquiry makes only requests with the property. -/
def AsksOnly (w : World) (P : Request → Prop) (x : ExceptT ε Inquiry α) : Prop :=
  ∀ r ∈ w.asks x, P r

namespace AsksOnly

variable {w : World} {P : Request → Prop}

theorem done (result : Except ε α) : w.AsksOnly P (ExceptT.mk (.done result)) := by
  intro r hr
  cases hr

theorem request {r : Request} (hr : P r) : w.AsksOnly P (MeshDoctor.request r) := by
  intro r' hr'
  rw [asks_request, List.mem_singleton] at hr'
  rw [hr']
  exact hr

theorem bind {x : ExceptT ε Inquiry α} {f : α → ExceptT ε Inquiry β} (hx : w.AsksOnly P x)
    (hf : ∀ a, w.finds x = .ok a → w.AsksOnly P (f a)) : w.AsksOnly P (x >>= f) := by
  intro r hr
  rw [asks_bind, List.mem_append] at hr
  rcases hr with hr | hr
  · exact hx r hr
  · cases h : w.finds x with
    | ok a =>
      rw [h] at hr
      exact hf a h r hr
    | error e =>
      rw [h] at hr
      cases hr

theorem within {x : Lookup α} (hx : w.AsksOnly P x) (context : String) :
    w.AsksOnly P (x.within context) := by
  intro r hr
  rw [asks_within] at hr
  exact hx r hr

theorem diagnose {x : Lookup α} (hx : w.AsksOnly P x) : w.AsksOnly P (liftM x : Diagnosis α) := by
  intro r hr
  rw [asks_liftM] at hr
  exact hx r hr

end AsksOnly

end World

end MeshDoctor
