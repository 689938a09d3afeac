import MeshDoctor.Proofs.Catalogue.Faults
import MeshDoctor.Proofs.Cluster.Typed
import MeshDoctor.Proofs.Suite.Records

/-!
# Suites — failed requests

Reading a sidecar counts as a request, whether its answer is fixed or asked for.

* `Diagnostic.under`: the check whose getter is subject to faults as well.
* `Diagnostic.requests`: what a check asks for, the reading of its sidecar included.
* **`Diagnostic.finds_asked`**: a fixed answer is as good as a sidecar that gives it.
* **`failed_requests_surface`**: a failed request is named or changes nothing.
-/

namespace MeshDoctor

open Envoy

/-! ## Getters -/

/-- The getter, which fails if reading the sidecar is made to fail. -/
def Envoy.Getter.under (F : Faults) : Getter → Getter
  | .canned pod answer =>
    match F.failure? (.sidecar pod) with
    | some f => .canned pod (.error f)
    | none => .canned pod answer
  | .asking pod => .asking pod

/-- The getter that asks for the same sidecar. -/
def Envoy.Getter.asked (g : Getter) : Getter := .asking g.pod

/-- The world in which the sidecar shows what a getter reads. -/
def World.showing (w : World) : Option Getter → World
  | some (.canned pod answer) => fun
    | .sidecar other => if other = pod then answer else w (.sidecar other)
    | r => w r
  | _ => w

namespace Diagnostic

/-- The getter of a check that reads a sidecar. -/
def getter? : Diagnostic → Option Getter
  | hasCluster _ _ getter => getter
  | hasListener _ _ getter _ => getter
  | noWarmingSecrets _ getter => getter
  | hasDestinationEndpoints _ getter => getter
  | hasSpecificEndpoint _ _ getter => getter
  | hasOutboundRoute _ _ _ getter => getter
  | _ => none

/-- The check with another getter, if it has one. -/
def mapGetter (change : Getter → Getter) : Diagnostic → Diagnostic
  | hasCluster pod destination getter => hasCluster pod destination (getter.map change)
  | hasListener mesh pod getter direction => hasListener mesh pod (getter.map change) direction
  | noWarmingSecrets pod getter => noWarmingSecrets pod (getter.map change)
  | hasDestinationEndpoints pod getter => hasDestinationEndpoints pod (getter.map change)
  | hasSpecificEndpoint pod destination getter =>
    hasSpecificEndpoint pod destination (getter.map change)
  | hasOutboundRoute mesh pod destination getter =>
    hasOutboundRoute mesh pod destination (getter.map change)
  | d => d

/-- The check, its getter subject to faults. -/
def under (F : Faults) (d : Diagnostic) : Diagnostic := d.mapGetter (·.under F)

/-- The check with a getter that asks. -/
def asked (d : Diagnostic) : Diagnostic := d.mapGetter Getter.asked

/-- What a check asks for in a world, the reading of its sidecar included. -/
def requests (d : Diagnostic) (w : World) : List Request :=
  (w.showing d.getter?).asks d.asked.evaluate

theorem getter?_under (F : Faults) (d : Diagnostic) :
    (d.under F).getter? = d.getter?.map (·.under F) := by
  cases d <;> rfl

theorem asked_under (F : Faults) (d : Diagnostic) : (d.under F).asked = d.asked := by
  have hasked : ∀ g : Getter, (g.under F).asked = g.asked := by
    intro g
    cases g with
    | canned pod answer =>
      simp only [Getter.under]
      split <;> rfl
    | asking pod => rfl
  cases d <;> simp [under, asked, mapGetter, Function.comp_def, hasked]

end Diagnostic

/-! ## Fixed answers -/

section Showing

variable {α : Type} (w : World) (getter : Option Getter)

theorem World.showing_same (pod : PodRef) (answer : Except Failure String) :
    w.showing (some (.canned pod answer)) (.sidecar pod) = answer :=
  if_pos rfl

theorem World.showing_other {pod other : PodRef} (h : other ≠ pod)
    (answer : Except Failure String) :
    w.showing (some (.canned pod answer)) (.sidecar other) = w (.sidecar other) :=
  if_neg h

theorem World.showing_of_ne {r : Request} (h : ∀ pod, r ≠ .sidecar pod) :
    w.showing getter r = w r := by
  rcases getter with _ | (_ | _)
  · rfl
  · cases r with
    | sidecar pod => exact absurd rfl (h pod)
    | _ => rfl
  · rfl

/-- Faults of a sidecar that shows a fixed answer are faults of the getter. -/
theorem World.showing_under (F : Faults) :
    (w.under F).showing (getter.map (·.under F)) = (w.showing getter).under F := by
  rcases getter with _ | (⟨pod, answer⟩ | _)
  · rfl
  · funext r
    rw [Option.map_some, Getter.under]
    by_cases hr : r = .sidecar pod
    · -- The reading of the getter itself.
      subst hr
      cases hfault : F.failure? (.sidecar pod) with
      | none =>
        rw [under_of_none hfault]
        exact (showing_same _ _ _).trans (showing_same _ _ _).symm
      | some f =>
        rw [under_of_some hfault]
        exact showing_same _ _ _
    · have hshown (v : World) (answer : Except Failure String) :
          v.showing (some (.canned pod answer)) r = v r := by
        by_cases hne : ∀ other, r ≠ .sidecar other
        · exact showing_of_ne v _ hne
        · obtain ⟨other, rfl⟩ := not_forall_not.mp hne
          exact showing_other v (fun h => hr (by rw [h])) answer
      rw [under, hshown w answer]
      cases F.failure? (.sidecar pod) <;> exact hshown _ _
  · rfl

variable {w}

theorem World.finds_showing {x : Lookup α} (h : ∀ r ∈ w.asks x, ∀ pod, r ≠ .sidecar pod) :
    (w.showing getter).finds x = w.finds x :=
  finds_congr fun r hr => w.showing_of_ne getter (h r hr)

/-- A look-up that does not read the sidecar can be made in either world. -/
theorem World.finds_showing_bind {β : Type} {x : Lookup α} {f g : α → Diagnosis β}
    (h : ∀ r ∈ w.asks x, ∀ pod, r ≠ .sidecar pod)
    (hf : ∀ a, (w.showing getter).finds (g a) = w.finds (f a)) :
    (w.showing getter).finds (liftM x >>= g) = w.finds (liftM x >>= f) :=
  finds_bind_congr (finds_liftM_congr (finds_showing getter h)) fun a _ => hf a

variable (w)

open Catalogue

theorem finds_loadConfig_asked :
    (w.showing getter).finds (loadConfig (getter.map Getter.asked)) =
      w.finds (loadConfig getter) := by
  rcases getter with _ | (⟨pod, answer⟩ | _)
  · rfl
  · have hraw : (w.showing (some (.canned pod answer))).finds (Getter.asking pod).raw =
        w.finds (Getter.canned pod answer).raw := w.showing_same pod answer
    exact World.finds_liftM_congr (World.finds_bind_congr hraw fun text _ => rfl)
  · rfl

/-- **Only its getter reads the sidecar.** With a fixed answer a check finds what it finds by asking
a sidecar that gives this answer. -/
theorem Diagnostic.finds_asked (d : Diagnostic) :
    (w.showing d.getter?).finds d.asked.evaluate = w.finds d.evaluate := by
  cases d with
  | hasCluster pod destination getter =>
    refine World.finds_bind_congr (finds_loadConfig_asked w getter) fun dump _ => ?_
    refine World.finds_showing_bind getter (by simp) fun found => ?_
    refine World.finds_showing_bind getter (by simp) fun expected => ?_
    split
    · rfl
    · split <;> rfl
  | hasListener mesh pod getter direction =>
    refine World.finds_showing_bind getter (by simp) fun release => ?_
    refine World.finds_bind_congr rfl fun name _ => ?_
    refine World.finds_bind_congr (finds_loadConfig_asked w getter) fun dump _ => ?_
    split <;> rfl
  | noWarmingSecrets pod getter =>
    refine World.finds_bind_congr (finds_loadConfig_asked w getter) fun dump _ => ?_
    split <;> rfl
  | hasDestinationEndpoints pod getter =>
    refine World.finds_bind_congr (finds_loadConfig_asked w getter) fun dump _ => ?_
    dsimp only
    split <;> rfl
  | hasSpecificEndpoint pod destination getter =>
    refine World.finds_bind_congr (finds_loadConfig_asked w getter) fun dump _ => ?_
    refine World.finds_showing_bind getter (by simp) fun found => ?_
    split
    · rfl
    · split <;> rfl
  | hasOutboundRoute mesh pod destination getter =>
    refine World.finds_showing_bind getter (by simp) fun release => ?_
    refine World.finds_bind_congr rfl fun routeConfig _ => ?_
    refine World.finds_bind_congr (finds_loadConfig_asked w getter) fun dump _ => ?_
    refine World.finds_showing_bind getter (by simp) fun found => ?_
    refine World.finds_showing_bind getter (by simp) fun services => ?_
    dsimp only
    split
    · rfl
    · split <;> rfl
  | _ => rfl

end Showing

/-! ## Checks under faults -/

namespace Diagnostic

variable (d : Diagnostic) (w : World) (F : Faults)

theorem finds_under :
    (w.under F).finds (d.under F).evaluate =
      ((w.showing d.getter?).under F).finds d.asked.evaluate := by
  rw [← finds_asked, getter?_under, World.showing_under, asked_under]

theorem requests_under :
    (d.under F).requests (w.under F) =
      ((w.showing d.getter?).under F).asks d.asked.evaluate := by
  rw [requests, getter?_under, World.showing_under, asked_under]

theorem description_under : (d.under F).description = d.description := by
  cases d <;> rfl

theorem suggestion_under : (d.under F).suggestion = d.suggestion := by
  cases d <;> rfl

variable {d w F}

/-- A check that makes none of the failing requests finds what it found. -/
theorem finds_under_of_none (h : ∀ r ∈ d.requests w, F.failure? r = none) :
    (w.under F).finds (d.under F).evaluate = w.finds d.evaluate := by
  rw [finds_under, ← finds_asked w d]
  exact World.finds_congr fun r hr => World.under_of_none (h r hr)

/-- A check that makes a failing request names the first one. -/
theorem finds_under_of_some (h : ∃ r ∈ d.requests w, (F.failure? r).isSome) :
    ∃ r ∈ d.requests w, r ∈ (d.under F).requests (w.under F) ∧ ∃ f, F.failure? r = some f ∧
      ∃ g : Failure, (w.under F).finds (d.under F).evaluate = .error (.failedRequest g) ∧
        g.cause = f.cause := by
  obtain ⟨r, hmade, hmade', f, hf, problem, hfound, hcause⟩ := d.asked.surfaces_evaluate.run_under h
  obtain ⟨g, rfl⟩ : ∃ g, problem = .failedRequest g := by
    cases problem <;> simp [Problem.cause?] at hcause ⊢
  refine ⟨r, hmade, ?_, f, hf, g, ?_, by simpa [Problem.cause?] using hcause⟩
  · rw [requests_under]
    exact hmade'
  · rw [finds_under]
    exact hfound

variable (d w F)

/-- **A check finds what it found or names a failure.** -/
theorem finds_under_cases : (w.under F).finds (d.under F).evaluate = w.finds d.evaluate ∨
    ∃ r ∈ d.requests w, r ∈ (d.under F).requests (w.under F) ∧ ∃ f, F.failure? r = some f ∧
      ∃ g : Failure, (w.under F).finds (d.under F).evaluate = .error (.failedRequest g) ∧
        g.cause = f.cause := by
  by_cases h : ∃ r ∈ d.requests w, (F.failure? r).isSome
  · exact .inr (finds_under_of_some h)
  · refine .inl (finds_under_of_none fun r hr => ?_)
    rw [← Option.not_isSome_iff_eq_none]
    exact fun hsome => h ⟨r, hr, hsome⟩

end Diagnostic

/-! ## Suites under faults -/

namespace Suite

/-- What a check of a suite asks for: nothing if it is skipped. -/
def requests (s : Suite) (d : Diagnostic) (w : World) : List Request :=
  if (s.ledger.firstMissing? [toolName, clusterName]).isNone then d.requests w else []

end Suite

theorem Record.of_under (d : Diagnostic) (F : Faults) (outcome : Outcome) :
    Record.of (d.under F).check outcome = Record.of d.check outcome := by
  simp only [Record.of, Diagnostic.check, Diagnostic.description_under,
    Diagnostic.suggestion_under]

/-- **No check swallows a failed request.** When requests fail, the outcome of a check is what it
was, or it names the failure of a request that the check made; so is its record in a suite. -/
theorem failed_requests_surface (w : World) (F : Faults) :
    (∀ d : Diagnostic,
      (d.under F).outcome? (w.under F) = d.outcome? w ∨
        ∃ r ∈ d.requests w, r ∈ (d.under F).requests (w.under F) ∧
          ∃ f, F.failure? r = some f ∧ ∃ g : Failure, g.cause = f.cause ∧
            (d.under F).outcome? (w.under F) = some (.fail (.failedRequest g))) ∧
      ∀ (s : Suite) (ds : List Diagnostic) (i : Nat) (d : Diagnostic), ds[i]? = some d →
        ((s.records (ds.map (·.under F))).run (w.under F))[i]? = ((s.records ds).run w)[i]? ∨
          ∃ r ∈ s.requests d w, ∃ f, F.failure? r = some f ∧ ∃ g : Failure, g.cause = f.cause ∧
            ((s.records (ds.map (·.under F))).run (w.under F))[i]? =
              some (.of d.check (.fail (.failedRequest g))) := by
  refine ⟨fun d => ?_, fun s ds i d hd => ?_⟩
  · rw [Diagnostic.outcome?_eq, Diagnostic.outcome?_eq]
    obtain hsame | ⟨r, hmade, hmade', f, hf, g, hg, hcause⟩ := d.finds_under_cases w F
    · rw [hsame]
      exact .inl rfl
    · rw [hg]
      exact .inr ⟨r, hmade, hmade', f, hf, g, hcause, rfl⟩
  · rw [Suite.run_records, Suite.run_records, List.map_map, List.getElem?_map, List.getElem?_map,
      hd, Option.map_some, Option.map_some, Function.comp_apply, Suite.recordIn_guarded,
      Suite.recordIn_guarded, Suite.requests]
    cases s.ledger.firstMissing? [toolName, clusterName] with
    | some missing => exact .inl (congrArg some (Record.of_under d F _))
    | none =>
      obtain hsame | ⟨r, hmade, -, f, hf, g, hg, hcause⟩ := d.finds_under_cases w F
      · rw [hsame]
        exact .inl (congrArg some (Record.of_under d F _))
      · rw [hg]
        exact .inr ⟨r, hmade, f, hf, g, hcause, congrArg some (Record.of_under d F _)⟩

end MeshDoctor
