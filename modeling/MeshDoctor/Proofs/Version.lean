import Mathlib.Data.List.Basic
import MeshDoctor.Version

/-!
# Controller versions — tables that agree

What a release line expects stands in several tables. All of them are about the same release lines.

* `IsVersionGate`: a look-up lets the supported release lines pass and rejects all others by name.
* **`IsVersionGate.ofTable`**: so it is for a table that has an entry for each of them.
* `isVersionGate_listenerName`, `isVersionGate_routeConfigName`,
  `isVersionGate_trafficTargetVersion`: all tables are such.
-/

namespace MeshDoctor

/-- The look-up lets the release lines pass that the checks know, and rejects others by name. -/
def IsVersionGate {α : Type} (gate : String → Except Problem α) : Prop :=
  ∀ version,
    (isSupported version = true → ∃ a, gate version = .ok a) ∧
      (isSupported version = false → gate version = .error (.unrecognizedVersion version))

namespace IsVersionGate

variable {α β : Type} {gate : String → Except Problem α}

theorem error_iff (h : IsVersionGate gate) {version : String} {p : Problem} :
    gate version = .error p ↔ isSupported version = false ∧ p = .unrecognizedVersion version := by
  cases hsupported : isSupported version with
  | true =>
    obtain ⟨a, ha⟩ := (h version).1 hsupported
    simp [ha]
  | false =>
    rw [(h version).2 hsupported]
    simp [eq_comm]

/-- A table with an entry for each supported release line, and for no other, is a gate. -/
theorem ofTable (table : List (String × α)) (htable : table.map (·.1) = supportedVersions) :
    IsVersionGate (lookUp table) := by
  intro version
  have hentry : isSupported version = (table.lookup version).isSome := by
    rw [isSupported, ← htable, Bool.eq_iff_iff, List.contains_iff_mem, List.mem_map,
      List.lookup_isSome_iff]
    exact exists_congr fun entry => and_congr_right fun _ => by rw [beq_iff_eq, eq_comm]
  rw [hentry, lookUp]
  cases table.lookup version with
  | some a => simp
  | none => simp

theorem map (h : IsVersionGate gate) (f : α → β) :
    IsVersionGate fun version => (gate version).map f := by
  intro version
  refine ⟨fun hsupported => ?_, fun hunsupported => ?_⟩
  · obtain ⟨a, ha⟩ := (h version).1 hsupported
    exact ⟨f a, congrArg (Except.map f) ha⟩
  · exact congrArg (Except.map f) ((h version).2 hunsupported)

end IsVersionGate

/-! ## The tables -/

theorem isVersionGate_listenerName (direction : Direction) :
    IsVersionGate (listenerName · direction) := by
  cases direction with
  | inbound => exact .ofTable inboundListenerNames rfl
  | outbound => exact .ofTable outboundListenerNames rfl

theorem isVersionGate_routeConfigName (direction : Direction) :
    IsVersionGate (routeConfigName · direction) :=
  (IsVersionGate.ofTable routeConfigNames rfl).map _

theorem isVersionGate_trafficTargetVersion : IsVersionGate trafficTargetVersion :=
  .ofTable trafficTargetVersions rfl

end MeshDoctor
