import MeshDoctor.Proofs.Bundle.Index
import MeshDoctor.Proofs.Inquiry.Interleaving

/-!
# Support bundles — the phases of a collection

Before the sidecars are read, directories are made and logs are written; afterwards the index is put
together and written.

* `Collector.prepare`, `Collector.finish`: what comes before the dumps and what comes after them.
* `Collector.IsCollection`: a lookup writes a bundle, the dumps being done in any order.
* **`Collector.isCollection_collect`**: one dump after the other is such an order.
-/

namespace MeshDoctor.Bundle

open Envoy

namespace Collector

/-! ## The phases -/

/-- What is found out before the dumps, the logs being written on the way: the index so far and the
pods whose configurations are missing. -/
def survey (c : Collector) (moment : Moment) (directory : String) :
    Lookup (Index × List PodRef) := do
  let i : Index :=
    { createdAt := moment.date, meshNamespace := c.mesh.namespace, meshName := c.mesh.name }
  let i ← c.addVersion i
  let pods ← c.mesh.controllerPods
  let i ← addAllLogs directory i (pods.map (·.ref))
  let pods ← meshedPods c.mesh
  report .info ("Collecting config dumps from " ++ toString pods.length ++ " sidecars")
  pure (i, pods)

/-- What comes before the dumps. -/
def prepare (c : Collector) (moment : Moment) (directory : String) :
    Lookup (Index × List PodRef) := do
  makeDirectory (logDirectory directory)
  makeDirectory (dumpDirectory directory)
  c.survey moment directory

/-- What comes after the dumps. -/
def finish (directory : String) (i : Index) (results : List (PodRef × Except Failure Unit)) :
    Lookup String := do
  let i ← noteDumps i results
  let i := { i with configDumps := sortNames i.configDumps }
  (request (.writePath (summaryPath directory) i.text)).within "Failed to write summary.json"
  report .info ("Bundle written to " ++ directory ++ " (" ++ toString i.controllerLogs.length
    ++ " logs, " ++ toString i.configDumps.length ++ " config dumps, " ++ toString i.errors.length
    ++ " errors)")
  pure directory

/-- Writes a bundle around dumps that are done in a way of their own. -/
def collectWith (c : Collector)
    (dumps : String → List PodRef → Inquiry (List (PodRef × Except Failure Unit)))
    (output : String) : Lookup String := do
  let moment : Moment ← request .now
  let directory := bundlePath output moment
  let (i, pods) ← c.prepare moment directory
  let results ← liftM (dumps directory pods)
  finish directory i results

/-- The dumps of pods. -/
def dumpTasks (c : Collector) (directory : String) (pods : List PodRef) :
    List (PodRef × Inquiry (Except Failure Unit)) :=
  pods.map fun pod => (pod, (c.dump directory pod).run)

theorem dumpTasks_cons (c : Collector) (directory : String) (pod : PodRef) (rest : List PodRef) :
    c.dumpTasks directory (pod :: rest) =
      (pod, (c.dump directory pod).run) :: c.dumpTasks directory rest := rfl

theorem dumpAll_eq_inTurn (c : Collector) (directory : String) (pods : List PodRef) :
    c.dumpAll directory pods = liftM (Inquiry.inTurn (c.dumpTasks directory pods)) := by
  induction pods with
  | nil => rfl
  | cons pod rest ih =>
    refine ExceptT.ext ?_
    rw [dumpAll, ih, Inquiry.run_attempt_bind, Inquiry.run_lift, dumpTasks_cons,
      Inquiry.inTurn, Inquiry.bind_assoc]
    refine congrArg (Inquiry.bind _) (funext fun result => ?_)
    rw [Inquiry.run_lift_bind, Inquiry.bind_assoc]
    rfl

theorem collect_eq_collectWith (c : Collector) (output : String) :
    c.collect output =
      c.collectWith (fun directory pods => Inquiry.inTurn (c.dumpTasks directory (c.schedule pods)))
        output := by
  have := Inquiry.lawfulMonad
  simp only [collect, collectWith, prepare, survey, finish, addDumps, bind_assoc, pure_bind,
    dumpAll_eq_inTurn]
  rfl

/-- The lookup writes a bundle below a directory. No more than `limit` dumps are under way at any
time; they are started in some order, and the order in which they go on is any. -/
def IsCollection (c : Collector) (limit : Nat) (output : String) (x : Lookup String) : Prop :=
  ∃ dumps : String → List PodRef → Inquiry (List (PodRef × Except Failure Unit)),
    (∀ directory pods, ∃ order : List PodRef, order.Perm pods ∧
      Interleaving limit (c.dumpTasks directory order) [] (dumps directory pods)) ∧
    x = c.collectWith dumps output

/-- **One dump after the other** is an order for any limit. -/
theorem isCollection_collect (c : Collector) {limit : Nat} (hlimit : 0 < limit) (output : String) :
    c.IsCollection limit output (c.collect output) :=
  ⟨_, fun directory pods => ⟨c.schedule pods, c.schedule_perm pods,
    .inTurn hlimit (c.dumpTasks directory (c.schedule pods))⟩, c.collect_eq_collectWith output⟩

/-- The dumps are done one after the other or take turns. -/
theorem exists_isCollection {c : Collector} {limit : Nat} {output : String} {x : Lookup String}
    (h : x = c.collect output ∨ c.IsCollection limit output x) :
    ∃ limit, c.IsCollection limit output x := by
  obtain rfl | h := h
  · exact ⟨1, c.isCollection_collect Nat.one_pos output⟩
  · exact ⟨limit, h⟩

end Collector

end MeshDoctor.Bundle
