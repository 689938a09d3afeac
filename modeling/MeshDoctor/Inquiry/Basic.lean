import MeshDoctor.Inquiry.Request
import MeshDoctor.Check.Problem

/-!
# Inquiries

An inquiry is a finite tree of requests: each node asks one thing and goes on according to the
answer. What an inquiry finds out and what it asks are both read off the same tree.

* `Inquiry.run`, `Inquiry.trace`: the result in a world and the requests made there.
* `Inquiry.runState`: the result when answers change the surroundings.
* `Inquiry.substitute`: every request replaced by an inquiry of its own.
* `Lookup`, `Diagnosis`: inquiries that may end with a failure or with a problem.

Main statements: **`run_bind`**, **`trace_bind`**: running in sequence is running one after the
other.
-/

namespace MeshDoctor

/-- A finite tree of requests with results at its leaves. -/
inductive Inquiry (α : Type) : Type where
  | done (a : α)
  | ask (r : Request) (next : Except Failure r.Answer → Inquiry α)

namespace Inquiry

variable {α β σ : Type}

/-- Goes on with the result. -/
def bind : Inquiry α → (α → Inquiry β) → Inquiry β
  | done a, f => f a
  | ask r next, f => ask r fun answer => (next answer).bind f

instance : Monad Inquiry where
  pure := done
  bind := bind

/-- The result in a world. -/
def run (w : World) : Inquiry α → α
  | done a => a
  | ask r next => (next (w r)).run w

/-- The requests made in a world, in order. -/
def trace (w : World) : Inquiry α → List Request
  | done _ => []
  | ask r next => r :: (next (w r)).trace w

/-- Surroundings with a state that answering a request may change. -/
abbrev Host (σ : Type) := (r : Request) → σ → Except Failure r.Answer × σ

/-- The result and the final state in changing surroundings. -/
def runState (host : Host σ) : Inquiry α → σ → α × σ
  | done a, s => (a, s)
  | ask r next, s =>
    let (answer, s) := host r s
    (next answer).runState host s

/-- The inquiry with every request replaced by an inquiry of its own. -/
def substitute (t : (r : Request) → Inquiry (Except Failure r.Answer)) : Inquiry α → Inquiry α
  | done a => done a
  | ask r next => (t r).bind fun answer => (next answer).substitute t

/-! ## Running in sequence -/

@[simp] theorem pure_eq (a : α) : (pure a : Inquiry α) = done a := rfl

@[simp] theorem bind_eq (x : Inquiry α) (f : α → Inquiry β) : x >>= f = x.bind f := rfl

@[simp] theorem done_bind (a : α) (f : α → Inquiry β) : (done a).bind f = f a := rfl

@[simp] theorem ask_bind (r : Request) (next : Except Failure r.Answer → Inquiry α)
    (f : α → Inquiry β) : (ask r next).bind f = ask r fun answer => (next answer).bind f := rfl

@[simp] theorem run_done (w : World) (a : α) : (done a).run w = a := rfl

@[simp] theorem run_ask (w : World) (r : Request) (next : Except Failure r.Answer → Inquiry α) :
    (ask r next).run w = (next (w r)).run w := rfl

@[simp] theorem trace_done (w : World) (a : α) : (done a).trace w = [] := rfl

@[simp] theorem trace_ask (w : World) (r : Request) (next : Except Failure r.Answer → Inquiry α) :
    (ask r next).trace w = r :: (next (w r)).trace w := rfl

/-- **Results in sequence.** -/
@[simp] theorem run_bind (w : World) (x : Inquiry α) (f : α → Inquiry β) :
    (x.bind f).run w = (f (x.run w)).run w := by
  induction x with
  | done a => rfl
  | ask r next ih => exact ih (w r)

/-- **Requests in sequence.** -/
@[simp] theorem trace_bind (w : World) (x : Inquiry α) (f : α → Inquiry β) :
    (x.bind f).trace w = x.trace w ++ (f (x.run w)).trace w := by
  induction x with
  | done a => rfl
  | ask r next ih => simp [ih (w r)]

end Inquiry

/-! ## Inquiries that may end early -/

/-- An inquiry that may end with a failure. -/
abbrev Lookup := ExceptT Failure Inquiry

/-- An inquiry that may end with a problem. -/
abbrev Diagnosis := ExceptT Problem Inquiry

/-- Asks one thing. -/
def request (r : Request) : Lookup r.Answer :=
  ExceptT.mk (.ask r .done)

/-- Asks one thing; without an answer, `dflt` counts. -/
def requestOr (r : Request) (dflt : r.Answer) : Lookup r.Answer :=
  ExceptT.mk (.ask r fun answer => .done (.ok (answer.toOption.getD dflt)))

/-- Adds a context to a failure on the way. -/
def Lookup.within {α : Type} (context : String) (x : Lookup α) : Lookup α :=
  ExceptT.mk (x.run.bind fun result => .done (addContext context result))

/-- The result of a lookup, whether or not it failed. -/
def Lookup.attempt {α : Type} (x : Lookup α) : Lookup (Except Failure α) :=
  ExceptT.mk (x.run.bind fun result => .done (.ok result))

/-- A failure on the way is a problem. -/
def Problem.ofFailed {α : Type} : Except Failure α → Except Problem α
  | .ok a => .ok a
  | .error failure => .error (.failedRequest failure)

/-- A lookup inside a diagnosis. -/
def Lookup.diagnose {α : Type} (x : Lookup α) : Diagnosis α :=
  ExceptT.mk (x.run.bind fun result => .done (Problem.ofFailed result))

instance : MonadLift Lookup Diagnosis where
  monadLift := Lookup.diagnose

/-- A failed step ends a lookup. -/
def Lookup.ofResult {α : Type} (result : Except Failure α) : Lookup α :=
  ExceptT.mk (.done result)

/-- A problem ends a diagnosis. -/
def Diagnosis.ofResult {α : Type} (result : Except Problem α) : Diagnosis α :=
  ExceptT.mk (.done result)

end MeshDoctor
