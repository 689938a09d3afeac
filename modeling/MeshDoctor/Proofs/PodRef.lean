import MeshDoctor.PodRef
import MeshDoctor.Proofs.Text.Pieces

/-!
# Pod references — what is read and what is written

* `PodRef.IsWellFormed`: both parts of a reference have characters, and no slashes.
* `PodRef.read_eq_ok_iff`: what is read from a text are the references that it writes.
* **`PodRef.read_grammar`**: a text is read if it has one slash, with something on both sides of it.
-/

namespace MeshDoctor.PodRef

/-- Both parts have characters, and no slashes. -/
structure IsWellFormed (pod : PodRef) : Prop where
  namespace_ne_empty : pod.namespace ≠ ""
  name_ne_empty : pod.name ≠ ""
  slash_notMem_namespace : '/' ∉ pod.namespace.toList
  slash_notMem_name : '/' ∉ pod.name.toList

variable {text : String} {pod : PodRef}

theorem toList_text (pod : PodRef) :
    pod.text.toList = pod.namespace.toList ++ '/' :: pod.name.toList := by
  simp [PodRef.text]

theorem read?_eq_some_iff : read? text = some pod ↔ pod.IsWellFormed ∧ pod.text = text := by
  constructor
  · intro h
    rw [read?] at h
    split at h
    next ns name hcut =>
      obtain ⟨htext, hslash⟩ := Text.cutFirst_eq_some_iff.mp hcut
      obtain ⟨⟨hns, hname, hslash'⟩, hpod⟩ := (Option.ite_none_right_eq_some).mp h
      obtain rfl := Option.some.inj hpod
      refine ⟨⟨?_, ?_, ?_, ?_⟩, String.toList_injective ?_⟩
      · simpa using hns
      · simpa using hname
      · simpa using hslash
      · simpa using hslash'
      · simp [toList_text, htext]
    next => cases h
  · rintro ⟨h, rfl⟩
    rw [read?, toList_text, Text.cutFirst_append _ h.slash_notMem_namespace]
    simp [h.namespace_ne_empty, h.name_ne_empty, h.slash_notMem_name]

theorem read_eq_ok_iff : read text = .ok pod ↔ pod.IsWellFormed ∧ pod.text = text := by
  rw [← read?_eq_some_iff, read]
  cases read? text <;> simp

/-- The text of a well-formed reference has one slash. -/
theorem IsWellFormed.count_slash (h : pod.IsWellFormed) : pod.text.toList.count '/' = 1 := by
  rw [toList_text, List.count_append, List.count_cons_self,
    List.count_eq_zero.mpr h.slash_notMem_namespace, List.count_eq_zero.mpr h.slash_notMem_name]

/-- What is behind the slash in the text is the start of the name. -/
theorem IsWellFormed.infix_text_iff (h : pod.IsWellFormed) {c : Char} :
    ['/', c] <:+: pod.text.toList ↔ pod.name.toList.head? = some c := by
  constructor
  · rintro ⟨front, rest, htext⟩
    have hcount := h.count_slash
    rw [← htext, List.append_assoc, List.count_append, List.cons_append, List.count_cons_self]
      at hcount
    have hfront : '/' ∉ front := List.count_eq_zero.mp (by omega)
    rw [toList_text, List.append_assoc] at htext
    have hcut := congrArg (Text.cutFirst '/') htext
    rw [List.cons_append, Text.cutFirst_append _ hfront,
      Text.cutFirst_append _ h.slash_notMem_namespace] at hcut
    rw [← (Prod.mk.inj (Option.some.inj hcut)).2]
    rfl
  · intro hname
    obtain ⟨rest, hrest⟩ := List.head?_eq_some_iff.mp hname
    refine ⟨pod.namespace.toList, rest, ?_⟩
    rw [toList_text, hrest, List.append_assoc]
    rfl

/-- The parts around the only slash of a text have none. -/
theorem isWellFormed_of_count {ns name : String} (hns : ns ≠ "") (hname : name ≠ "")
    (hcount : (PodRef.mk ns name).text.toList.count '/' = 1) :
    (PodRef.mk ns name).IsWellFormed := by
  rw [toList_text, List.count_append, List.count_cons_self] at hcount
  exact ⟨hns, hname, List.count_eq_zero.mp (by omega), List.count_eq_zero.mp (by omega)⟩

/-- **A text is read as a reference if it has one slash, with something on both sides of it.** The
references that are read from it are those that it writes: what is read writes the text again, and the
text of a reference whose parts have characters and no slashes is read as this reference. From any
other text the reason is given. -/
theorem read_grammar (text : String) :
    ((∃ pod, read text = .ok pod) ↔
      text.toList.count '/' = 1 ∧
        ∃ before after, before ≠ "" ∧ after ≠ "" ∧ text = before ++ "/" ++ after) ∧
    (∀ pod, read text = .ok pod ↔ pod.IsWellFormed ∧ pod.text = text) ∧
    ((¬ ∃ pod, read text = .ok pod) ↔
      read text =
        .error (.say ("Invalid pod reference '" ++ text ++ "': expected namespace/name"))) := by
  refine ⟨⟨?_, ?_⟩, fun pod => read_eq_ok_iff, ?_⟩
  · rintro ⟨pod, hread⟩
    obtain ⟨hpod, rfl⟩ := read_eq_ok_iff.mp hread
    exact ⟨hpod.count_slash, pod.namespace, pod.name, hpod.namespace_ne_empty,
      hpod.name_ne_empty, rfl⟩
  · rintro ⟨hcount, ns, name, hns, hname, rfl⟩
    exact ⟨⟨ns, name⟩, read_eq_ok_iff.mpr ⟨isWellFormed_of_count hns hname hcount, rfl⟩⟩
  · rw [read]
    cases read? text <;> simp

end MeshDoctor.PodRef
