import MeshDoctor.Proofs.Inquiry.Exchanges

/-!
# Inquiries — many at the same time

Tasks are started in order, no more than a limit of them being under way at any time, and their
requests come in any order. How the order goes on may depend on the answers.

* `Interleaving`: an inquiry makes the requests of the tasks in such an order and lists the results
  as the tasks end.
* `Inquiry.inTurn`, `Interleaving.inTurn`: one task after the other is the simplest such order.
* `Inquiry.Follows`, `FollowAll`: the result of an inquiry, or of each of many tasks, that is answered
  in a given way.
* **`Interleaving.followAll`**: whatever the order, every task follows answers of its own, and no
  result and no exchange belongs to more than one task or to none.
* `FollowAll.of_answers`: tasks that are answered like a world find what they find there.
-/

namespace MeshDoctor

open Inquiry
open scoped List

variable {κ α β : Type}

/-- The inquiry does the tasks that wait and those that are under way. -/
inductive Interleaving (limit : Nat) :
    List (κ × Inquiry α) → List (κ × Inquiry α) → Inquiry (List (κ × α)) → Prop where
  /-- Nothing is left to do. -/
  | done : Interleaving limit [] [] (.done [])
  /-- Where there is room, the next task is started. -/
  | start {task : κ × Inquiry α} {waiting active : List (κ × Inquiry α)}
    {x : Inquiry (List (κ × α))} (room : active.length < limit)
    (h : Interleaving limit waiting (active ++ [task]) x) :
    Interleaving limit (task :: waiting) active x
  /-- Any task under way may go on with its next request. -/
  | ask {key : κ} {r : Request} {next : Except Failure r.Answer → Inquiry α}
    {waiting before after : List (κ × Inquiry α)}
    {x : Except Failure r.Answer → Inquiry (List (κ × α))}
    (h : ∀ answer, Interleaving limit waiting (before ++ (key, next answer) :: after) (x answer)) :
    Interleaving limit waiting (before ++ (key, .ask r next) :: after) (.ask r x)
  /-- A task that has its result makes room. -/
  | finish {key : κ} {a : α} {waiting before after : List (κ × Inquiry α)}
    {x : Inquiry (List (κ × α))} (h : Interleaving limit waiting (before ++ after) x) :
    Interleaving limit waiting (before ++ (key, .done a) :: after)
      (x.bind fun results => .done ((key, a) :: results))

/-! ## One after the other -/

/-- The tasks one after the other. -/
def Inquiry.inTurn : List (κ × Inquiry α) → Inquiry (List (κ × α))
  | [] => .done []
  | (key, x) :: rest => x.bind fun a => (inTurn rest).bind fun results => .done ((key, a) :: results)

namespace Interleaving

variable {limit : Nat}

theorem then_inTurn {key : κ} (task : Inquiry α) {rest : List (κ × Inquiry α)}
    (h : Interleaving limit rest [] (Inquiry.inTurn rest)) :
    Interleaving limit rest [(key, task)] (Inquiry.inTurn ((key, task) :: rest)) := by
  induction task with
  | done a =>
    have hfinish : Interleaving limit rest ([] ++ (key, .done a) :: []) _ := .finish h
    exact hfinish
  | ask r next ih =>
    have hask : Interleaving limit rest ([] ++ (key, .ask r next) :: []) _ := .ask ih
    exact hask

/-- One task after the other is an order for any limit. -/
theorem inTurn (hlimit : 0 < limit) (tasks : List (κ × Inquiry α)) :
    Interleaving limit tasks [] (Inquiry.inTurn tasks) := by
  induction tasks with
  | nil => exact .done
  | cons task rest ih => exact .start hlimit (ih.then_inTurn task.2)

end Interleaving

/-! ## Following answers -/

/-- Answered like this, the inquiry finds this. -/
inductive Inquiry.Follows : Inquiry α → List Exchange → α → Prop where
  | done (a : α) : Follows (.done a) [] a
  | ask {r : Request} {next : Except Failure r.Answer → Inquiry α} {es : List Exchange} {a : α}
    (answer : Except Failure r.Answer) (h : Follows (next answer) es a) :
    Follows (.ask r next) (⟨r, answer⟩ :: es) a

/-- Answered like this, the tasks find these results. -/
inductive FollowAll : List (κ × Inquiry α) → List Exchange → List (κ × α) → Prop where
  | nil : FollowAll [] [] []
  | cons {key : κ} {x : Inquiry α} {a : α} {es es' : List Exchange} {tasks : List (κ × Inquiry α)}
    {results : List (κ × α)} (h : x.Follows es a) (rest : FollowAll tasks es' results) :
    FollowAll ((key, x) :: tasks) (es ++ es') ((key, a) :: results)

namespace Inquiry.Follows

variable {es : List Exchange}

theorem of_bind {x : Inquiry α} {f : α → Inquiry β} {b : β} (h : (x.bind f).Follows es b) :
    ∃ a es₁ es₂, x.Follows es₁ a ∧ (f a).Follows es₂ b ∧ es = es₁ ++ es₂ := by
  induction x generalizing es with
  | done a => exact ⟨a, [], es, .done a, h, rfl⟩
  | ask r next ih =>
    cases h with
    | ask answer h =>
      obtain ⟨a, es₁, es₂, hx, hf, rfl⟩ := ih answer h
      exact ⟨a, ⟨r, answer⟩ :: es₁, es₂, .ask answer hx, hf, rfl⟩

theorem asked {P : Request → Prop} {x : Inquiry α} {a : α} (h : x.Follows es a)
    (hx : x.AsksOnly P) : ∀ e ∈ es, P e.1 := by
  induction h with
  | done a => exact fun _ he => (nomatch he)
  | ask answer _ ih =>
    rintro e (_ | ⟨_, he⟩)
    · exact hx.1
    · exact ih (hx.2 answer) e he

theorem of_answers {x : Inquiry α} {a : α} {w : World} (h : x.Follows es a)
    (hw : ∀ e ∈ es, e.2 = w e.1) : a = x.run w ∧ es = (x.trace w).map fun r => ⟨r, w r⟩ := by
  induction h with
  | done a => exact ⟨rfl, rfl⟩
  | @ask r _ _ _ answer _ ih =>
    obtain rfl : answer = w r := hw _ List.mem_cons_self
    obtain ⟨rfl, rfl⟩ := ih fun e he => hw e (List.mem_cons_of_mem _ he)
    exact ⟨rfl, rfl⟩

end Inquiry.Follows

namespace FollowAll

variable {tasks tasks' : List (κ × Inquiry α)} {es : List Exchange} {results : List (κ × α)}

theorem perm (h : FollowAll tasks es results) (hperm : tasks ~ tasks') :
    ∃ es' results', FollowAll tasks' es' results' ∧ es ~ es' ∧ results ~ results' := by
  induction hperm generalizing es results with
  | nil => exact ⟨es, results, h, .refl es, .refl results⟩
  | cons task _ ih =>
    cases h with
    | cons hx hrest =>
      obtain ⟨es', results', hrest', hes, hresults⟩ := ih hrest
      exact ⟨_, _, .cons hx hrest', hes.append_left _, hresults.cons _⟩
  | swap task task' rest =>
    cases h with
    | cons hx h =>
      cases h with
      | cons hy hrest =>
        exact ⟨_, _, .cons hy (.cons hx hrest), List.perm_append_comm_assoc .., .swap ..⟩
  | trans _ _ ih₁ ih₂ =>
    obtain ⟨es₁, results₁, h₁, hes₁, hresults₁⟩ := ih₁ h
    obtain ⟨es₂, results₂, h₂, hes₂, hresults₂⟩ := ih₂ h₁
    exact ⟨es₂, results₂, h₂, hes₁.trans hes₂, hresults₁.trans hresults₂⟩

theorem of_answers {w : World} (h : FollowAll tasks es results) (hw : ∀ e ∈ es, e.2 = w e.1) :
    results = tasks.map (fun task => (task.1, task.2.run w)) ∧
      es = (tasks.flatMap fun task => task.2.trace w).map fun r => ⟨r, w r⟩ := by
  induction h with
  | nil => exact ⟨rfl, rfl⟩
  | cons hx _ ih =>
    obtain ⟨rfl, rfl⟩ := hx.of_answers fun e he => hw e (List.mem_append_left _ he)
    obtain ⟨rfl, rfl⟩ := ih fun e he => hw e (List.mem_append_right _ he)
    exact ⟨rfl, by rw [List.flatMap_cons, List.map_append]⟩

end FollowAll

/-! ## Any order -/

theorem perm_start (task : κ × Inquiry α) (waiting active : List (κ × Inquiry α)) :
    waiting ++ (active ++ [task]) ~ task :: waiting ++ active := by
  rw [← List.append_assoc, List.cons_append]
  exact List.perm_append_singleton task (waiting ++ active)

theorem perm_finish (task : κ × Inquiry α) (waiting before after : List (κ × Inquiry α)) :
    waiting ++ (before ++ task :: after) ~ task :: (waiting ++ (before ++ after)) := by
  rw [← List.append_assoc, ← List.append_assoc]
  exact List.perm_middle

/-- **Whatever the order**, every task follows answers of its own. -/
theorem Interleaving.followAll {σ : Type} {limit : Nat} {waiting active : List (κ × Inquiry α)}
    {x : Inquiry (List (κ × α))} (h : Interleaving limit waiting active x) (host : Host σ) (s : σ) :
    ∃ es results, FollowAll (waiting ++ active) es results ∧ x.exchanges host s ~ es ∧
      (x.runState host s).1 ~ results := by
  induction h generalizing s with
  | done => exact ⟨[], [], .nil, .nil, .nil⟩
  | @start task waiting active x _ _ ih =>
    obtain ⟨es, results, hall, hes, hresults⟩ := ih s
    obtain ⟨es', results', hall', hes', hresults'⟩ := hall.perm (perm_start task waiting active)
    exact ⟨es', results', hall', hes.trans hes', hresults.trans hresults'⟩
  | @ask key r next waiting before after x _ ih =>
    obtain ⟨es, results, hall, hes, hresults⟩ := ih (host r s).1 (host r s).2
    -- The task that goes on is moved to the front and back.
    obtain ⟨_, _, hfront, hes₁, hresults₁⟩ := hall.perm (perm_finish ..)
    cases hfront with
    | cons hnext hrest =>
      have hasked : FollowAll ((key, .ask r next) :: _) _ _ := .cons (.ask (host r s).1 hnext) hrest
      obtain ⟨es', results', hall', hes₂, hresults₂⟩ :=
        hasked.perm (perm_finish (key, .ask r next) waiting before after).symm
      exact ⟨es', results', hall', ((hes.trans hes₁).cons _).trans hes₂,
        (hresults.trans hresults₁).trans hresults₂⟩
  | @finish key a waiting before after x _ ih =>
    obtain ⟨es, results, hall, hes, hresults⟩ := ih s
    have hdone : FollowAll ((key, .done a) :: _) _ _ := .cons (.done a) hall
    obtain ⟨es', results', hall', hes', hresults'⟩ :=
      hdone.perm (perm_finish (key, .done a) waiting before after).symm
    refine ⟨es', results', hall', ?_, ?_⟩
    · rw [exchanges_bind, exchanges_done, List.append_nil]
      exact hes.trans hes'
    · rw [runState_bind, runState_done]
      exact (hresults.cons (key, a)).trans hresults'

end MeshDoctor
