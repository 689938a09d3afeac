import MeshDoctor.Catalogue.Events
import MeshDoctor.Proofs.Cluster.Snapshot

/-!
# Clusters — warnings

Warnings are listed with a selector that names their type and the name of the object that they are
about. Nothing else of that object is asked for.

* `IsWarning`: the warnings in a namespace, or on the objects of one name there.
* `Snapshot.warnings`: all of them, in the order of the cluster.
* `Event.involved_of_decode`: an event names the object that it is about.
* **`Snapshot.list_warningSelector`**: the warnings are what the selector lists, for a name without a
  comma.
* `Snapshot.name_ne_of_comma`: for another name it lists no warning on an object of that name.
-/

namespace MeshDoctor

open Catalogue Json

/-! ## Warnings -/

/-- The event is a warning in the namespace, on an object of the name if one is given. -/
structure IsWarning (ns : String) (involved : Option String) (v : Value) : Prop where
  namespace_eq : objectNamespace? v = some ns
  type_eq : v.textAt? ["type"] = some "Warning"
  name_eq : ∀ name ∈ involved, v.textAt? ["involvedObject", "name"] = some name

section Selector

variable {ns : String} {involved : Option String} {v : Value}

theorem isWarning_iff : IsWarning ns involved v ↔ objectNamespace? v = some ns ∧
    v.textAt? ["type"] = some "Warning" ∧
      ∀ name ∈ involved, v.textAt? ["involvedObject", "name"] = some name :=
  ⟨fun h => ⟨h.namespace_eq, h.type_eq, h.name_eq⟩, fun ⟨hns, htype, hname⟩ => ⟨hns, htype, hname⟩⟩

instance (ns : String) (involved : Option String) (v : Value) : Decidable (IsWarning ns involved v) :=
  decidable_of_iff (objectNamespace? v = some ns ∧ v.textAt? ["type"] = some "Warning" ∧
    ∀ name ∈ involved, v.textAt? ["involvedObject", "name"] = some name) isWarning_iff.symm

/-- The selector of the warnings on objects of a name has two parts. -/
theorem warningSelector_some (name : String) : warningSelector (some name) =
    ("type" ++ "=" ++ "Warning") ++ "," ++ ("involvedObject.name" ++ "=" ++ name) := by
  rw [← String.append_assoc, ← String.append_assoc]
  rfl

/-- What the selector of the warnings asks for. -/
theorem matchesFields_warningSelector (hname : ∀ name ∈ involved, ',' ∉ name.toList) :
    matchesFields (some (warningSelector involved)) v ↔ v.textAt? ["type"] = some "Warning" ∧
      ∀ name ∈ involved, v.textAt? ["involvedObject", "name"] = some name := by
  have htype : matchesFields (some ("type" ++ "=" ++ "Warning")) v ↔
      v.textAt? ["type"] = some "Warning" :=
    matchesFields_iff "type" (by decide) (by decide) (by decide) v
  cases involved with
  | none =>
    rw [show warningSelector none = "type" ++ "=" ++ "Warning" by decide, htype]
    simp
  | some name =>
    have hinvolved : matchesFields (some ("involvedObject.name" ++ "=" ++ name)) v ↔
        v.textAt? ["involvedObject", "name"] = some name :=
      matchesFields_iff "involvedObject.name" (by decide) (by decide) (hname name rfl) v
    rw [warningSelector_some, matchesFields_append, htype, hinvolved]
    simp

end Selector

/-! ## Objects and events -/

/-- A text that is a member of a part, which may be missing. -/
theorem text_of_part {name : String} {field : Field} {text : Option (Option String)}
    (h : Json.optional (fun v => do
      let field ← v.members?
      Json.optional asText (field name)) field = some text) :
    text.join = field.bind (Value.textAt? [name]) := by
  -- Only an object decodes as a part; null counts as no part.
  cases field with
  | none =>
    obtain rfl : none = text := Option.some.inj h
    rfl
  | some v =>
    cases v with
    | null =>
      obtain rfl : none = text := Option.some.inj h
      rfl
    | object members =>
      obtain ⟨found, hfound, rfl⟩ := Option.map_eq_some_iff.mp h
      have hname : found = (members.lookup name).bind Value.text? := text_of_optional hfound
      rw [Option.join_some, hname, Option.bind_some, textAt?_cons]
      rfl
    | _ => cases h

/-- An event names the object that it is about as it is written. -/
theorem Event.involved_of_decode {v : Value} {e : Event} (h : decode v = some e) :
    e.involved = v.textAt? ["involvedObject", "name"] := by
  unfold decode at h
  simp only [bind_eq_some, Option.some.injEq] at h
  obtain ⟨field, hfield, involved, hinvolved, -, -, -, -, -, -, -, -, rfl⟩ := h
  rw [textAt?_cons, member?_of_members? (members?_of_membersOfType hfield)]
  exact text_of_part hinvolved

namespace Snapshot

variable {c : Snapshot} {ns : String} {involved : Option String}

/-- The warnings in a namespace, or on the objects of one name there, in the order of the cluster. -/
def warnings (c : Snapshot) (ns : String) (involved : Option String) : List Value :=
  (c.ofKind Kind.events.name).filter (IsWarning ns involved)

theorem mem_warnings {v : Value} : v ∈ c.warnings ns involved ↔
    v ∈ c.ofKind Kind.events.name ∧ IsWarning ns involved v := by
  rw [warnings, List.mem_filter, decide_eq_true_eq]

/-- **The warnings are what their selector lists.** -/
theorem list_warningSelector (hname : ∀ name ∈ involved, ',' ∉ name.toList) :
    c.list Kind.events.name ((ListQuery.inNamespace ns).withFields (warningSelector involved)) =
      c.warnings ns involved := by
  rw [list_withFields, objectsIn, List.filter_filter, warnings]
  refine List.filter_congr fun v _ => ?_
  rw [Bool.eq_iff_iff, Bool.and_eq_true, decide_eq_true_eq, decide_eq_true_eq, isWarning_iff,
    matchesFields_warningSelector hname, and_comm]

/-- The events of warnings on the objects of a name are about objects of this name. -/
theorem involved_of_map_warnings {events : List Event}
    (h : (c.warnings ns involved).map Event.decode = events.map some) :
    ∀ e ∈ events, ∀ name ∈ involved, e.involved = some name := by
  intro e he name hname
  have hmem : some e ∈ (c.warnings ns involved).map Event.decode := h ▸ List.mem_map_of_mem he
  obtain ⟨v, hv, hdecode⟩ := List.mem_map.mp hmem
  rw [Event.involved_of_decode hdecode, (mem_warnings.mp hv).2.name_eq name hname]

/-- The warnings are listed, and all of them decode. -/
structure HasReadableWarnings (c : Snapshot) (ns : String) (involved : Option String) : Prop where
  served : c.failureOf
    (.list Kind.events.name ((ListQuery.inNamespace ns).withFields (warningSelector involved))) = none
  decodes : ∀ v ∈ c.warnings ns involved, (Event.decode v).isSome

/-- Warnings that can be read are found as events, in order. -/
theorem HasReadableWarnings.exists_finds (h : c.HasReadableWarnings ns involved)
    (hname : ∀ name ∈ involved, ',' ∉ name.toList) : ∃ events : List Event,
      (c.warnings ns involved).map Event.decode = events.map some ∧
        c.world.finds (listEvents ((ListQuery.inNamespace ns).withFields
          (warningSelector involved))) = .ok events := by
  have hevents : (c.warnings ns involved).mapM (decodeAs Event.decode Kind.events.name) = .ok _ :=
    (mapM_decodeAs_eq_ok_iff _).mpr ⟨h.decodes, rfl⟩
  refine ⟨_, (mapM_decodeAs_eq_ok_iff_map _).mp hevents, ?_⟩
  rw [listEvents, finds_listAs_eq_ok_iff, list_warningSelector hname]
  exact ⟨h.served, hevents⟩

/-- A name with a comma in it is not the name of an object that is asked for. -/
theorem name_ne_of_comma {name : String} (hname : ',' ∈ name.toList) {v : Value}
    (hlisted : v ∈ c.list Kind.events.name
      ((ListQuery.inNamespace ns).withFields (warningSelector (some name)))) :
    v.textAt? ["involvedObject", "name"] ≠ some name := by
  have hfields := (mem_list.mp hlisted).2.2.2
  change matchesFields (some (warningSelector (some name))) v at hfields
  rw [warningSelector_some, matchesFields_append] at hfields
  exact textAt?_ne_of_matchesFields (by decide) (by decide) hname hfields.2

end Snapshot

end MeshDoctor
