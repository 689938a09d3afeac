import Mathlib.Data.List.Count
import Mathlib.Data.List.Nodup
import MeshDoctor.Proofs.Resource.Namespace

/-!
# Resources — the readiness of a pod, by number and by name

A pod counts its ready containers and compares the count with the number of its containers. Where
names tell the containers apart, this finds out whether each of them is ready.

* `Pod.HasReady`: the container of a name is ready.
* `Pod.HasNamedContainers`: names tell containers apart, and statuses belong to containers.
* `Pod.HasNamedContainers.countP_ready`: there are as many ready statuses as ready containers.
* `Pod.eq_of_withoutInits`: what is read of a pod does not depend on its init containers.
* **`Pod.readiness_by_name`**: what the readiness of a pod says about each container.
-/

namespace MeshDoctor

open Json

/-! ## Objects that differ in a member -/

namespace Json.Value

/-- The object without a member. -/
def without (name : String) : Value → Value
  | .object members => .object (members.filter (·.1 ≠ name))
  | v => v

/-- The object with a member changed. -/
def change (name : String) (f : Value → Value) : Value → Value
  | .object members =>
    .object (members.map fun (other, v) => (other, if other = name then f v else v))
  | v => v

variable {name other : String}

theorem lookup_without (h : other ≠ name) (members : List (String × Value)) :
    (members.filter (·.1 ≠ name)).lookup other = members.lookup other := by
  induction members with
  | nil => rfl
  | cons member rest ih =>
    obtain ⟨key, v⟩ := member
    by_cases hkey : key = name
    · have hother : (other == key) = false := beq_eq_false_iff_ne.mpr (hkey ▸ h)
      rw [List.filter_cons_of_neg (by simp [hkey]), ih, List.lookup_cons, hother]
    · rw [List.filter_cons_of_pos (by simp [hkey]), List.lookup_cons, List.lookup_cons, ih]

theorem member?_change (f : Value → Value) (v : Value) :
    (v.change name f).member? other =
      (v.member? other).map fun w => if other = name then f w else w := by
  cases v with
  | object members =>
    change List.lookup other (members.map _) = (members.lookup other).map _
    induction members with
    | nil => rfl
    | cons member rest ih =>
      obtain ⟨key, v⟩ := member
      rw [List.map_cons, List.lookup_cons, List.lookup_cons]
      cases hkey : other == key with
      | true => simp [beq_iff_eq.mp hkey]
      | false => exact ih
  | _ => rfl

end Json.Value

/-! ## Init containers -/

/-- A field is read alike without a member of its value that is not read. -/
theorem optional_without {α : Type} {d : Decoder α} {name : String}
    (hd : ∀ v : Value, d (v.without name) = d v) (field : Field) :
    Json.optional d (field.map (·.without name)) = Json.optional d field := by
  cases field with
  | none => rfl
  | some v =>
    cases v with
    | object members => exact congrArg (Option.map some) (hd (.object members))
    | _ => rfl

theorem PodSpec.decode_without (v : Value) :
    decode (v.without "initContainers") = decode v := by
  cases v with
  | object members =>
    simp only [decode, Value.without, Value.members?, Option.bind_eq_bind, Option.bind_some,
      Value.lookup_without (show "containers" ≠ "initContainers" by decide),
      Value.lookup_without (show "serviceAccountName" ≠ "initContainers" by decide)]
  | _ => rfl

theorem PodStatus.decode_without (v : Value) :
    decode (v.without "initContainerStatuses") = decode v := by
  cases v with
  | object members =>
    simp only [decode, Value.without, Value.members?, Option.bind_eq_bind, Option.bind_some,
      Value.lookup_without (show "phase" ≠ "initContainerStatuses" by decide),
      Value.lookup_without (show "podIP" ≠ "initContainerStatuses" by decide),
      Value.lookup_without (show "containerStatuses" ≠ "initContainerStatuses" by decide)]
  | _ => rfl

namespace Pod

/-- A pod without its init containers and what is known of them. -/
def withoutInits (v : Value) : Value :=
  (v.change "spec" (·.without "initContainers")).change "status"
    (·.without "initContainerStatuses")

/-- **What is read of a pod does not depend on its init containers.** -/
theorem eq_of_withoutInits {v v' : Value} {pod pod' : Pod} (h : decode v = some pod)
    (h' : decode v' = some pod') (hsame : withoutInits v' = withoutInits v) : pod' = pod := by
  have hmember (name : String) := congrArg (Value.member? name) hsame
  simp only [withoutInits, Value.member?_change] at hmember
  unfold decode at h h'
  simp only [bind_eq_some, Option.some.injEq] at h h'
  obtain ⟨field, hfield, m, hm, spec, hspec, status, hstatus, rfl⟩ := h
  obtain ⟨other, hfield', m', hm', spec', hspec', status', hstatus', rfl⟩ := h'
  simp only [member?_of_members? (members?_of_membersOfType hfield),
    member?_of_members? (members?_of_membersOfType hfield')] at hmember
  have hmetadata : other "metadata" = field "metadata" := by simpa using hmember "metadata"
  have hspecs : (other "spec").map (·.without "initContainers") =
      (field "spec").map (·.without "initContainers") := by
    simpa [Function.comp_def] using hmember "spec"
  have hstatuses : (other "status").map (·.without "initContainerStatuses") =
      (field "status").map (·.without "initContainerStatuses") := by
    simpa [Function.comp_def] using hmember "status"
  rw [← optional_without PodSpec.decode_without] at hspec hspec'
  rw [← optional_without PodStatus.decode_without] at hstatus hstatus'
  rw [hmetadata, hm] at hm'
  rw [hspecs, hspec] at hspec'
  rw [hstatuses, hstatus] at hstatus'
  rw [Option.some.inj hm', Option.some.inj hspec', Option.some.inj hstatus']

/-! ## Ready containers -/

/-- The phase that a pod is in. -/
def phase? (pod : Pod) : Option String := pod.status.bind (·.phase)

/-- The container of this name is ready. -/
def HasReady (pod : Pod) (name : String) : Prop :=
  ∃ status ∈ pod.containerStatuses, status.name = name ∧ status.ready

instance (pod : Pod) : DecidablePred pod.HasReady :=
  fun _ => inferInstanceAs (Decidable (∃ status ∈ _, _))

/-- The number of containers that are ready. -/
def readyCount (pod : Pod) : Nat := pod.containers.countP (pod.HasReady ·.name)

/-- Containers have different names, and statuses too, each of which is the name of a container. -/
structure HasNamedContainers (pod : Pod) : Prop where
  nodup_containers : (pod.containers.map (·.name)).Nodup
  nodup_statuses : (pod.containerStatuses.map (·.name)).Nodup
  subset : pod.containerStatuses.map (·.name) ⊆ pod.containers.map (·.name)

variable {pod : Pod}

theorem mem_ready_iff {name : String} :
    name ∈ (pod.containerStatuses.filter (·.ready)).map (·.name) ↔ pod.HasReady name := by
  simp only [List.mem_map, List.mem_filter, HasReady]
  constructor
  · rintro ⟨status, ⟨hstatus, hready⟩, hname⟩
    exact ⟨status, hstatus, hname, hready⟩
  · rintro ⟨status, hstatus, hname, hready⟩
    exact ⟨status, ⟨hstatus, hready⟩, hname⟩

namespace HasNamedContainers

variable (h : pod.HasNamedContainers)
include h

/-- The names of the ready statuses are those of the ready containers, if perhaps in another
order. -/
theorem perm_ready : ((pod.containerStatuses.filter (·.ready)).map (·.name)).Perm
    ((pod.containers.map (·.name)).filter (pod.HasReady ·)) := by
  have hstatuses : ((pod.containerStatuses.filter (·.ready)).map (·.name)).Nodup :=
    (List.filter_sublist.map _).nodup h.nodup_statuses
  rw [List.perm_ext_iff_of_nodup hstatuses (h.nodup_containers.filter _)]
  intro name
  rw [mem_ready_iff, List.mem_filter, decide_eq_true_eq]
  refine ⟨fun hready => ⟨?_, hready⟩, fun hname => hname.2⟩
  obtain ⟨status, hstatus, rfl, -⟩ := hready
  exact h.subset (List.mem_map_of_mem hstatus)

/-- **There are as many ready statuses as ready containers.** -/
theorem countP_ready : pod.containerStatuses.countP (·.ready) = pod.readyCount :=
  calc pod.containerStatuses.countP (·.ready)
    _ = ((pod.containerStatuses.filter (·.ready)).map (·.name)).length := by
      rw [List.length_map, List.countP_eq_length_filter]
    _ = ((pod.containers.map (·.name)).filter (pod.HasReady ·)).length := h.perm_ready.length_eq
    _ = pod.readyCount := by rw [← List.countP_eq_length_filter, List.countP_map]; rfl

end HasNamedContainers

theorem readyCount_lt_iff :
    pod.readyCount < pod.containers.length ↔ ∃ c ∈ pod.containers, ¬ pod.HasReady c.name := by
  simp only [readyCount, List.countP_lt_length_iff, decide_eq_false_iff_not]

/-! ## Readiness -/

theorem readiness_of_not_running (h : pod.phase? ≠ some "Running") : pod.readiness ≠ .ok () := by
  rw [readiness]
  rw [phase?] at h
  cases hstatus : pod.status with
  | none => simp
  | some status =>
    have hphase : status.phase.getD "Unknown" ≠ "Running" := by
      cases hphase : status.phase with
      | none => decide
      | some phase => simpa [hstatus, hphase] using h
    simp [hphase]

theorem readiness_of_running (h : pod.phase? = some "Running") :
    pod.readiness =
      if pod.containerStatuses.countP (·.ready) < pod.containers.length then
        .error (toString (pod.containerStatuses.countP (·.ready)) ++ "/" ++
          toString pod.containers.length ++ " containers ready")
      else .ok () := by
  obtain ⟨status, hstatus, hphase⟩ := Option.bind_eq_some_iff.mp h
  simp [readiness, hstatus, hphase]

/-- **A pod whose containers can be told apart is ready exactly if it runs and each of its containers
is ready.** While it runs, the reason against it counts the containers that are ready, which are not
all. Init containers and what is known of them do not count. -/
theorem readiness_by_name (h : pod.HasNamedContainers) :
    (pod.readiness = .ok () ↔
      pod.phase? = some "Running" ∧ ∀ c ∈ pod.containers, pod.HasReady c.name) ∧
    (pod.phase? = some "Running" → pod.readiness ≠ .ok () →
      pod.readyCount < pod.containers.length ∧
      pod.readiness = .error (toString pod.readyCount ++ "/" ++ toString pod.containers.length ++
        " containers ready")) ∧
    ∀ v v' pod', decode v = some pod → decode v' = some pod' →
      withoutInits v' = withoutInits v → pod'.readiness = pod.readiness := by
  have hrunning (hphase : pod.phase? = some "Running") : pod.readiness =
      if pod.readyCount < pod.containers.length then
        .error (toString pod.readyCount ++ "/" ++ toString pod.containers.length ++
          " containers ready")
      else .ok () := by
    rw [readiness_of_running hphase, h.countP_ready]
  refine ⟨⟨fun hready => ?_, ?_⟩, fun hphase hunready => ?_, fun v v' pod' hv hv' hsame => ?_⟩
  · have hphase : pod.phase? = some "Running" := by
      by_contra hphase
      exact readiness_of_not_running hphase hready
    refine ⟨hphase, ?_⟩
    by_contra hsome
    rw [hrunning hphase, if_pos (readyCount_lt_iff.mpr (by simpa using hsome))] at hready
    cases hready
  · rintro ⟨hphase, hall⟩
    have hnot : ¬ pod.readyCount < pod.containers.length := by
      rw [readyCount_lt_iff]
      rintro ⟨c, hc, hunready⟩
      exact hunready (hall c hc)
    rw [hrunning hphase, if_neg hnot]
  · have hlt : pod.readyCount < pod.containers.length := by
      by_contra hnot
      exact hunready (by rw [hrunning hphase, if_neg hnot])
    exact ⟨hlt, by rw [hrunning hphase, if_pos hlt]⟩
  · rw [eq_of_withoutInits hv hv' hsame]

/-! ## A pod that starts -/

/-- A buyer whose sidecar is ready, after these init containers. -/
def startingBuyer (inits initStatuses : List Value) : Value :=
  let named (name : String) : Value := .object [("name", .string name)]
  let status (name : String) (ready : Bool) : Value :=
    .object [("name", .string name), ("ready", .bool ready)]
  .object
    [("metadata", named "buyer"),
      ("spec", .object
        [("containers", .array [named "buyer", named "envoy"]), ("initContainers", .array inits)]),
      ("status", .object
        [("containerStatuses", .array [status "envoy" true, status "buyer" false]),
          ("initContainerStatuses", .array initStatuses), ("phase", .string "Running")])]

/-- One of the two containers is ready. A third one, which is done, does not count. -/
theorem readiness_by_name_starting :
    let setup : Value := .object [("name", .string "setup")]
    let done : Value := .object [("name", .string "setup"), ("ready", .bool true)]
    ∃ pod pod', decode (startingBuyer [] []) = some pod ∧
      decode (startingBuyer [setup] [done]) = some pod' ∧
      withoutInits (startingBuyer [setup] [done]) = withoutInits (startingBuyer [] []) ∧
      pod.HasNamedContainers ∧ pod.phase? = some "Running" ∧
      pod.readiness = .error "1/2 containers ready" ∧ pod'.readiness = pod.readiness := by
  intro setup done
  let pod : Pod :=
    ⟨{ name := "buyer" }, some ⟨[⟨"buyer", none⟩, ⟨"envoy", none⟩], none⟩,
      some ⟨"Running", none, some [⟨"envoy", true⟩, ⟨"buyer", false⟩]⟩⟩
  have hdecode : decode (startingBuyer [] []) = some pod := rfl
  have hdecode' : decode (startingBuyer [setup] [done]) = some pod := rfl
  have hsame : withoutInits (startingBuyer [setup] [done]) =
      withoutInits (startingBuyer [] []) := rfl
  have hnamed : pod.HasNamedContainers := ⟨by decide, by decide, by decide⟩
  obtain ⟨-, hunready, hinits⟩ := readiness_by_name hnamed
  have htext : toString pod.readyCount ++ "/" ++ toString pod.containers.length ++
      " containers ready" = "1/2 containers ready" := by decide +kernel
  have hcount : pod.readiness = .error "1/2 containers ready" := by
    rw [← htext]
    exact (hunready rfl (by decide +kernel)).2
  exact ⟨pod, pod, hdecode, hdecode', hsame, hnamed, rfl, hcount,
    hinits _ _ _ hdecode hdecode' hsame⟩

end Pod

end MeshDoctor
