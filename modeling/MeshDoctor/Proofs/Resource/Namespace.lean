import MeshDoctor.Cluster.Snapshot
import MeshDoctor.Resource.Builtin
import MeshDoctor.Resource.Pod
import MeshDoctor.Resource.Policy

/-!
# Resources — namespace and name of an object and of what it decodes to

* `Metadata.namespace_of_decode`, `Metadata.name_of_decode`: decoding keeps both.
* `Metadata.lenient_cases`: what metadata that may be missing are.
* `Pod.of_decode`, `Namespace.name_of_decode`, `Service.namespace_of_decode`,
  `TrafficTarget.namespace_of_decode`: so it is for whole resources.
-/

namespace MeshDoctor

open Json

/-! ## Fields -/

/-- A record decodes if its parts do. -/
theorem bind_eq_some {α β : Type} {x : Option α} {f : α → Option β} {b : β} :
    (x >>= f) = some b ↔ ∃ a, x = some a ∧ f a = some b :=
  Option.bind_eq_some_iff

theorem text_of_optional {field : Field} {text : Option String}
    (h : Json.optional asText field = some text) : text = field.bind Value.text? := by
  cases field with
  | none => simpa [Json.optional] using h.symm
  | some v => cases v <;> simp_all [Json.optional, asText, Value.text?]

theorem member?_of_members? {v : Value} {field : String → Field} (h : v.members? = some field)
    (name : String) : v.member? name = field name := by
  cases v with
  | object members =>
    obtain rfl : (fun name => members.lookup name) = field := Option.some.inj h
    rfl
  | _ => cases h

theorem textAt?_cons (name : String) (path : List String) (v : Value) :
    v.textAt? (name :: path) = (v.member? name).bind (Value.textAt? path) := by
  cases h : v.member? name <;> simp [Value.textAt?, Value.at?, h]

/-! ## Namespaces and names -/

theorem Metadata.namespace_of_decode {v : Value} {m : Metadata} (h : decode v = some m) :
    m.namespace = v.textAt? ["namespace"] := by
  unfold decode at h
  simp only [bind_eq_some, Option.some.injEq] at h
  obtain ⟨field, hfield, -, -, -, -, -, -, -, -, -, -, -, -, -, -, -, -, -, -, -, -, ns, hns, -, -,
    -, -, -, -, -, -, rfl⟩ := h
  rw [text_of_optional hns, textAt?_cons, member?_of_members? hfield]
  rfl

theorem Metadata.name_of_decode {v : Value} {m : Metadata} (h : decode v = some m) :
    m.name = v.textAt? ["name"] := by
  unfold decode at h
  simp only [bind_eq_some, Option.some.injEq] at h
  obtain ⟨field, hfield, -, -, -, -, -, -, -, -, -, -, -, -, -, -, -, -, -, -, name, hname, -, -, -,
    -, -, -, -, -, -, -, rfl⟩ := h
  rw [text_of_optional hname, textAt?_cons, member?_of_members? hfield]
  rfl

/-- Metadata that may be missing are empty, or those that are written. -/
theorem Metadata.lenient_cases {field : Field} {m : Metadata}
    (hm : lenient {} decode field = some m) :
    (m = {} ∧ ∀ name path, field.bind (Value.textAt? (name :: path)) = none) ∨
      ∃ v, field = some v ∧ decode v = some m := by
  cases field with
  | none => exact .inl ⟨(Option.some.inj hm).symm, fun _ _ => rfl⟩
  | some v =>
    cases v with
    | null => exact .inl ⟨(Option.some.inj hm).symm, fun _ _ => rfl⟩
    | _ => exact .inr ⟨_, rfl, hm⟩

/-- Metadata that may be missing tell the namespace and the name of the object. -/
theorem Metadata.of_lenient {v : Value} {field : String → Field} {m : Metadata}
    (hfield : v.members? = some field) (hm : lenient {} decode (field "metadata") = some m) :
    m.namespace = objectNamespace? v ∧ m.name = objectName? v := by
  rw [objectNamespace?, objectName?, textAt?_cons, textAt?_cons, member?_of_members? hfield]
  obtain ⟨rfl, hnothing⟩ | ⟨metadata, hmetadata, hdecode⟩ := lenient_cases hm
  · exact ⟨(hnothing _ _).symm, (hnothing _ _).symm⟩
  · rw [hmetadata]
    exact ⟨namespace_of_decode hdecode, name_of_decode hdecode⟩

/-- The members of a resource are those of the object. -/
theorem members?_of_membersOfType {kind version : String} {shape : Shape} {v : Value}
    {field : String → Field} (h : membersOfType kind version shape v = some field) :
    v.members? = some field := by
  unfold membersOfType at h
  simp only [bind_eq_some, Option.ite_none_right_eq_some] at h
  obtain ⟨_, hfield, -, h⟩ := h
  rwa [Option.some.inj h] at hfield

theorem Pod.of_decode {v : Value} {pod : Pod} (h : decode v = some pod) :
    pod.metadata.namespace = objectNamespace? v ∧ pod.metadata.name = objectName? v := by
  unfold decode at h
  simp only [bind_eq_some, Option.some.injEq] at h
  obtain ⟨field, hfield, m, hm, -, -, -, -, rfl⟩ := h
  exact Metadata.of_lenient (members?_of_membersOfType hfield) hm

theorem Pod.namespace_of_decode {v : Value} {pod : Pod} (h : decode v = some pod) :
    pod.metadata.namespace = objectNamespace? v :=
  (of_decode h).1

theorem Namespace.name_of_decode {v : Value} {ns : Namespace} (h : decode v = some ns) :
    ns.metadata.name = objectName? v := by
  unfold decode at h
  simp only [bind_eq_some, Option.some.injEq] at h
  obtain ⟨field, hfield, m, hm, rfl⟩ := h
  exact (Metadata.of_lenient (members?_of_membersOfType hfield) hm).2

theorem Service.namespace_of_decode {v : Value} {service : Service}
    (h : decode v = some service) : service.metadata.namespace = objectNamespace? v := by
  unfold decode at h
  simp only [bind_eq_some, Option.some.injEq] at h
  obtain ⟨field, hfield, -, -, m, hm, rfl⟩ := h
  exact (Metadata.of_lenient (members?_of_membersOfType hfield) hm).1

theorem TrafficTarget.namespace_of_decode {v : Value} {t : TrafficTarget} {ns : String}
    (h : decode v = some t) (hns : objectNamespace? v = some ns) :
    t.metadata.namespace = some ns := by
  -- Metadata is looked up by its name, so the target is written as an object.
  obtain ⟨members, rfl⟩ : ∃ members, v = .object members := by
    cases v with
    | object members => exact ⟨members, rfl⟩
    | _ => simp [objectNamespace?, Value.textAt?, Value.at?, Value.member?] at hns
  rw [objectNamespace?, textAt?_cons] at hns
  obtain ⟨metadata, hmetadata, hns⟩ := Option.bind_eq_some_iff.mp hns
  unfold decode at h
  simp only [Value.fields?, bind_eq_some, Option.some.injEq] at h
  obtain ⟨field, rfl, -, -, m, hm, -, -, rfl⟩ := h
  have hm : Metadata.decode metadata = some m := by
    have hfield : members.lookup "metadata" = some metadata := hmetadata
    simpa only [withDefault, hfield] using hm
  exact (Metadata.namespace_of_decode hm).trans hns

end MeshDoctor
