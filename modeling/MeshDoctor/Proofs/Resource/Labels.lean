import MeshDoctor.Proofs.Resource.Namespace

/-!
# Resources — labels of an object and of what it decodes to

A selector reads the labels of an object as they are written, a check those that were decoded.

* `lookup_of_asMap`: a name has in a decoded map what it has in the object.
* `Metadata.label?_of_decode`, `Metadata.label?_of_lenient`: decoding metadata keeps their labels.
* **`Namespace.label?_of_decode`**: so it is for a namespace.
-/

namespace MeshDoctor

open Json

/-- A name has in a decoded map what it has in the object. -/
theorem lookup_of_asMap {v : Value} {labels : Labels} (h : asMap v = some labels) (key : String) :
    labels.lookup key = v.textAt? [key] := by
  -- Only an object decodes to a map, one member after the other.
  obtain ⟨members, rfl⟩ : ∃ members, v = .object members := by
    cases v with
    | object members => exact ⟨members, rfl⟩
    | _ => cases h
  rw [textAt?_cons, Value.member?]
  rw [asMap] at h
  induction members generalizing labels with
  | nil =>
    obtain rfl : [] = labels := Option.some.inj h
    rfl
  | cons member rest ih =>
    obtain ⟨name, v⟩ := member
    rw [List.mapM_cons] at h
    simp only [bind_eq_some, Option.map_eq_some_iff] at h
    obtain ⟨_, ⟨text, htext, rfl⟩, others, hothers, hlabels⟩ := h
    obtain rfl : (name, text) :: others = labels := Option.some.inj hlabels
    rw [List.lookup_cons, List.lookup_cons]
    cases hkey : key == name with
    | true => exact htext.symm
    | false => exact ih hothers

theorem lookup_of_optional_asMap {field : Field} {labels : Option Labels}
    (h : Json.optional asMap field = some labels) (key : String) :
    labels.bind (·.lookup key) = field.bind (Value.textAt? [key]) := by
  cases field with
  | none =>
    obtain rfl : none = labels := Option.some.inj h
    rfl
  | some v =>
    cases v with
    | null =>
      obtain rfl : none = labels := Option.some.inj h
      rfl
    | _ =>
      simp only [Json.optional, Option.map_eq_some_iff] at h
      obtain ⟨decoded, hdecoded, rfl⟩ := h
      exact lookup_of_asMap hdecoded key

theorem Metadata.label?_of_decode {v : Value} {m : Metadata} (h : decode v = some m)
    (key : String) : m.label? key = v.textAt? ["labels", key] := by
  unfold decode at h
  simp only [bind_eq_some, Option.some.injEq] at h
  obtain ⟨field, hfield, -, -, -, -, -, -, -, -, -, -, -, -, -, -, labels, hlabels, -, -, -, -, -, -,
    -, -, -, -, -, -, -, -, rfl⟩ := h
  rw [label?, lookup_of_optional_asMap hlabels, textAt?_cons, member?_of_members? hfield]

theorem Metadata.label?_of_lenient {v : Value} {field : String → Field} {m : Metadata}
    (hfield : v.members? = some field) (hm : lenient {} decode (field "metadata") = some m)
    (key : String) : m.label? key = v.textAt? ["metadata", "labels", key] := by
  rw [textAt?_cons, member?_of_members? hfield]
  obtain ⟨rfl, hnothing⟩ | ⟨metadata, hmetadata, hdecode⟩ := lenient_cases hm
  · exact (hnothing _ _).symm
  · rw [hmetadata]
    exact label?_of_decode hdecode key

/-- **A namespace has the labels of its object.** -/
theorem Namespace.label?_of_decode {v : Value} {ns : Namespace} (h : decode v = some ns)
    (key : String) : ns.metadata.label? key = v.textAt? ["metadata", "labels", key] := by
  unfold decode membersOfType at h
  simp only [bind_eq_some, Option.ite_none_right_eq_some, Option.some.injEq] at h
  obtain ⟨_, ⟨field, hfield, -, rfl⟩, m, hm, rfl⟩ := h
  exact Metadata.label?_of_lenient hfield hm key

end MeshDoctor
