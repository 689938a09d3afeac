import MeshDoctor.Resource.Policy

/-!
# Text — what is after the last separator

* `Text.cutFirst_append`, `Text.cutFirst_eq_some_iff`, `Text.cutFirst_eq_none`, `Text.cutLast_append`,
  `Text.cutLast_eq_some_iff`, `Text.cutLast_eq_none`: where a text is cut, and when it is not.
* `Text.afterLast_eq_iff`: what is after the last separator.
* `IsLastComponent`: a text without slashes that ends another one, after a slash if there is more.
* **`versionOf_eq_iff`**: the version in an API version is its last component.
-/

namespace MeshDoctor

namespace Text

variable {sep : Char} {text tail : String}

theorem cutFirst_append {before : List Char} (after : List Char) (h : sep ∉ before) :
    cutFirst sep (before ++ sep :: after) = some (before, after) := by
  induction before with
  | nil => rw [List.nil_append, cutFirst, if_pos rfl]
  | cons c before ih =>
    rw [List.mem_cons, not_or] at h
    have hc : ¬ c = sep := fun hc => h.1 hc.symm
    rw [List.cons_append, cutFirst, if_neg hc, ih h.2]
    rfl

theorem cutFirst_eq_some_iff {cs before after : List Char} :
    cutFirst sep cs = some (before, after) ↔ cs = before ++ sep :: after ∧ sep ∉ before := by
  constructor
  · intro h
    induction cs generalizing before with
    | nil => cases h
    | cons c rest ih =>
      by_cases hc : c = sep
      · rw [cutFirst, if_pos hc] at h
        obtain ⟨rfl, rfl⟩ := Prod.mk.inj (Option.some.inj h)
        rw [hc]
        exact ⟨rfl, List.not_mem_nil⟩
      · rw [cutFirst, if_neg hc] at h
        obtain ⟨⟨front, back⟩, hcut, hpair⟩ := Option.map_eq_some_iff.mp h
        obtain ⟨rfl, rfl⟩ := Prod.mk.inj hpair
        obtain ⟨rfl, hfront⟩ := ih hcut
        refine ⟨rfl, ?_⟩
        rw [List.mem_cons, not_or]
        exact ⟨fun hsep => hc hsep.symm, hfront⟩
  · rintro ⟨rfl, h⟩
    exact cutFirst_append after h

theorem cutFirst_eq_none {cs : List Char} (h : sep ∉ cs) : cutFirst sep cs = none := by
  induction cs with
  | nil => rfl
  | cons c rest ih =>
    rw [List.mem_cons, not_or] at h
    have hc : ¬ c = sep := fun hc => h.1 hc.symm
    rw [cutFirst, if_neg hc, ih h.2]
    rfl

theorem cutLast_eq_none {cs : List Char} (h : sep ∉ cs) : cutLast sep cs = none := by
  induction cs with
  | nil => rfl
  | cons c rest ih =>
    rw [List.mem_cons, not_or] at h
    have hc : ¬ c = sep := fun hc => h.1 hc.symm
    rw [cutLast, ih h.2]
    exact if_neg hc

theorem cutLast_append (before : List Char) {after : List Char} (h : sep ∉ after) :
    cutLast sep (before ++ sep :: after) = some (before, after) := by
  induction before with
  | nil =>
    rw [List.nil_append, cutLast, cutLast_eq_none h]
    exact if_pos rfl
  | cons c before ih => rw [List.cons_append, cutLast, ih]

theorem exists_eq_append_of_mem {cs : List Char} (h : sep ∈ cs) :
    ∃ before after, cs = before ++ sep :: after ∧ sep ∉ after := by
  obtain ⟨after, before, hcs, hafter⟩ := List.eq_append_cons_of_mem (List.mem_reverse.mpr h)
  refine ⟨before.reverse, after.reverse, ?_, fun hmem => hafter (List.mem_reverse.mp hmem)⟩
  rw [← List.reverse_reverse cs, hcs, List.reverse_append, List.reverse_cons, List.append_assoc]
  rfl

theorem cutLast_eq_some_iff {cs before after : List Char} :
    cutLast sep cs = some (before, after) ↔ cs = before ++ sep :: after ∧ sep ∉ after := by
  constructor
  · intro h
    by_cases hmem : sep ∈ cs
    · obtain ⟨front, back, rfl, hback⟩ := exists_eq_append_of_mem hmem
      rw [cutLast_append front hback] at h
      obtain ⟨rfl, rfl⟩ := Prod.mk.inj (Option.some.inj h)
      exact ⟨rfl, hback⟩
    · rw [cutLast_eq_none hmem] at h
      cases h
  · rintro ⟨rfl, h⟩
    exact cutLast_append before h

/-- What is after the last separator of a text, or all of it without one. -/
def afterLast (sep : Char) (text : String) : String :=
  match cutLast sep text.toList with
  | some (_, after) => String.ofList after
  | none => text

theorem afterLast_of_notMem (h : sep ∉ text.toList) : afterLast sep text = text := by
  rw [afterLast, cutLast_eq_none h]

theorem afterLast_append (front : String) (h : sep ∉ tail.toList) :
    afterLast sep (front ++ String.singleton sep ++ tail) = tail := by
  have hcut : cutLast sep (front ++ String.singleton sep ++ tail).toList =
      some (front.toList, tail.toList) := by
    rw [String.toList_append, String.toList_append, String.toList_singleton, List.append_assoc]
    exact cutLast_append front.toList h
  rw [afterLast, hcut]
  exact String.ofList_toList

/-- What is after the last separator has none itself, and ends the text. -/
theorem afterLast_spec (sep : Char) (text : String) :
    sep ∉ (afterLast sep text).toList ∧ (text = afterLast sep text ∨
      ∃ front : String, text = front ++ String.singleton sep ++ afterLast sep text) := by
  by_cases hmem : sep ∈ text.toList
  · obtain ⟨before, after, htext, hafter⟩ := exists_eq_append_of_mem hmem
    have hlast : afterLast sep text = String.ofList after := by
      rw [afterLast, htext, cutLast_append before hafter]
    rw [hlast, String.toList_ofList]
    refine ⟨hafter, .inr ⟨String.ofList before, String.toList_injective ?_⟩⟩
    simp [htext]
  · rw [afterLast_of_notMem hmem]
    exact ⟨hmem, .inl rfl⟩

theorem afterLast_eq_iff :
    afterLast sep text = tail ↔ sep ∉ tail.toList ∧ (text = tail ∨
      ∃ front : String, text = front ++ String.singleton sep ++ tail) := by
  constructor
  · rintro rfl
    exact afterLast_spec sep text
  · rintro ⟨hsep, rfl | ⟨front, rfl⟩⟩
    · exact afterLast_of_notMem hsep
    · exact afterLast_append front hsep

end Text

/-- The version is the last of the components of the text that slashes separate. -/
def IsLastComponent (version text : String) : Prop :=
  '/' ∉ version.toList ∧ (text = version ∨ ∃ front : String, text = front ++ "/" ++ version)

/-- **The version in an API version is its last component.** -/
theorem versionOf_eq_iff {version text : String} :
    versionOf text = version ↔ IsLastComponent version text :=
  Text.afterLast_eq_iff

theorem exists_isLastComponent (text : String) : ∃ version, IsLastComponent version text :=
  ⟨versionOf text, versionOf_eq_iff.mp rfl⟩

end MeshDoctor
