import MeshDoctor.Cluster.Snapshot
import MeshDoctor.Proofs.Text.Pieces

/-!
# Clusters — selectors

A selector is a text, which is divided at its commas again. What it asks for follows from this and
from what a single term asks for.

* `selectorTerms_append`: a comma divides a selector into two.
* `IsConjunction`: selectors ask for what all of their terms do;
  **`isConjunction_matchesLabels`**, **`isConjunction_matchesFields`**: these do.
* `matchesLabels_append`, `matchesFields_append`, `matchesLabels_iff`, `matchesFields_iff`: what
  selectors with two parts and selectors with one term ask for.
* `textAt?_ne_of_matchesLabels`, `textAt?_ne_of_matchesFields`: a value with a comma in it is not what
  is asked for.
-/

namespace MeshDoctor

open Json

/-! ## Terms -/

/-- A comma divides a selector into two. -/
theorem selectorTerms_append (front rest : String) :
    selectorTerms (front ++ "," ++ rest) = selectorTerms front ++ selectorTerms rest := by
  have hchars : (front ++ "," ++ rest).toList = front.toList ++ ',' :: rest.toList := by simp
  rw [selectorTerms, hchars, List.splitOn_append_cons_self, List.filter_append]
  rfl

/-- A key with a value is one term, if there is no comma in it. -/
theorem selectorTerms_pair {key value : String} (hkey : ',' ∉ key.toList)
    (hvalue : ',' ∉ value.toList) :
    selectorTerms (key ++ "=" ++ value) = [key.toList ++ '=' :: value.toList] := by
  have hchars : (key ++ "=" ++ value).toList = key.toList ++ '=' :: value.toList := by simp
  rw [selectorTerms, hchars, List.splitOn_eq_singleton (by simp [hkey, hvalue])]
  simp

/-- A key alone is one term, if there is no comma in it. -/
theorem selectorTerms_key {key : String} (hne : key ≠ "") (hkey : ',' ∉ key.toList) :
    selectorTerms key = [key.toList] := by
  rw [selectorTerms, List.splitOn_eq_singleton hkey]
  simp [hne]

/-! ## Conjunctions -/

/-- What selectors ask for is what all of their terms do. A term is a key with a value or a key alone,
and `has` and `knows` tell what such a term asks for. -/
structure IsConjunction (meets : String → Prop) (has : String → String → Prop)
    (knows : String → Prop) : Prop where
  append : ∀ front rest, meets (front ++ "," ++ rest) ↔ meets front ∧ meets rest
  empty : meets ""
  /-- Order and repetition of terms do not count, and empty ones neither. -/
  same_terms : ∀ terms terms' : List String, (∀ term, term ≠ "" → (term ∈ terms ↔ term ∈ terms')) →
    (meets (",".intercalate terms) ↔ meets (",".intercalate terms'))
  pair : ∀ key value, '=' ∉ key.toList → ',' ∉ key.toList → ',' ∉ value.toList →
    (meets (key ++ "=" ++ value) ↔ has key value)
  key : ∀ key, key ≠ "" → '=' ∉ key.toList → ',' ∉ key.toList → (meets key ↔ knows key)

section Conjunctions

variable {meets : String → Prop}

/-- What is asked for by terms in a row, if a comma joins selectors. -/
theorem meets_intercalate (happend : ∀ front rest, meets (front ++ "," ++ rest) ↔
    meets front ∧ meets rest) (hempty : meets "") (terms : List String) :
    meets (",".intercalate terms) ↔ ∀ term ∈ terms, meets term := by
  induction terms with
  | nil => simpa using hempty
  | cons term terms ih =>
    cases terms with
    | nil => simp
    | cons next terms =>
      rw [String.intercalate_cons_cons, happend, ih]
      exact List.forall_mem_cons.symm

/-- Selectors that ask something of each of their terms are conjunctions. -/
theorem isConjunction_of_terms {has : String → String → Prop} {knows : String → Prop}
    (meetsTerm : List Char → Bool)
    (hterms : ∀ selector, meets selector ↔ (selectorTerms selector).all meetsTerm)
    (hpair : ∀ key value, '=' ∉ key.toList →
      (meetsTerm (key.toList ++ '=' :: value.toList) ↔ has key value))
    (hkey : ∀ key, '=' ∉ key.toList → (meetsTerm key.toList ↔ knows key)) :
    IsConjunction meets has knows := by
  have happend : ∀ front rest, meets (front ++ "," ++ rest) ↔ meets front ∧ meets rest := by
    intro front rest
    rw [hterms, hterms, hterms, selectorTerms_append, List.all_append, Bool.and_eq_true]
  have hempty : meets "" := (hterms "").mpr rfl
  refine ⟨happend, hempty, fun terms terms' hsame => ?_, fun key value hequals hcomma hvalue => ?_,
    fun key hne hequals hcomma => ?_⟩
  · rw [meets_intercalate happend hempty, meets_intercalate happend hempty]
    refine forall_congr' fun term => ?_
    by_cases hterm : term = ""
    · rw [hterm]
      exact iff_of_true (fun _ => hempty) fun _ => hempty
    · rw [hsame term hterm]
  · rw [hterms, selectorTerms_pair hcomma hvalue, List.all_cons, List.all_nil, Bool.and_true,
      hpair key value hequals]
  · rw [hterms, selectorTerms_key hne hcomma, List.all_cons, List.all_nil, Bool.and_true,
      hkey key hequals]

end Conjunctions

/-- **Selectors of labels are conjunctions** of labels with a value and of labels with any. -/
theorem isConjunction_matchesLabels (object : Value) :
    IsConjunction (fun selector => matchesLabels (some selector) object)
      (fun key value => object.textAt? ["metadata", "labels", key] = some value)
      fun key => (object.at? ["metadata", "labels", key]).isSome := by
  refine isConjunction_of_terms (meetsLabelTerm object) (fun selector => Iff.rfl)
    (fun key value hequals => ?_) fun key hequals => ?_
  · rw [meetsLabelTerm, Text.cutFirst_append _ hequals]
    simp only [String.ofList_toList, decide_eq_true_eq]
  · rw [meetsLabelTerm, Text.cutFirst_eq_none hequals]
    simp only [String.ofList_toList]

/-- **Selectors of fields are conjunctions** of paths with a text; a path alone is not followed. -/
theorem isConjunction_matchesFields (object : Value) :
    IsConjunction (fun selector => matchesFields (some selector) object)
      (fun path value => object.textAt? (dottedPath path.toList) = some value)
      fun key => (object.at? ["", key]).isSome := by
  refine isConjunction_of_terms (meetsFieldTerm object) (fun selector => Iff.rfl)
    (fun key value hequals => ?_) fun key hequals => ?_
  · rw [meetsFieldTerm, Text.cutFirst_append _ hequals]
    simp only [String.ofList_toList, decide_eq_true_eq]
  · rw [meetsFieldTerm, Text.cutFirst_eq_none hequals]
    simp only [String.ofList_toList]

/-! ## Selectors -/

section Append

variable (front rest : String) (object : Value)

/-- A selector of labels asks for what both its parts ask for. -/
theorem matchesLabels_append : matchesLabels (some (front ++ "," ++ rest)) object ↔
    matchesLabels (some front) object ∧ matchesLabels (some rest) object :=
  (isConjunction_matchesLabels object).append front rest

/-- A selector of fields asks for what both its parts ask for. -/
theorem matchesFields_append : matchesFields (some (front ++ "," ++ rest)) object ↔
    matchesFields (some front) object ∧ matchesFields (some rest) object :=
  (isConjunction_matchesFields object).append front rest

end Append

section Pairs

variable (key : String) {value : String} (hkey : '=' ∉ key.toList) (hcomma : ',' ∉ key.toList)
  (hvalue : ',' ∉ value.toList) (object : Value)
include hkey hcomma hvalue

/-- An object meets a selector with one label if it has the label with this value. -/
theorem matchesLabels_iff : matchesLabels (some (key ++ "=" ++ value)) object ↔
    object.textAt? ["metadata", "labels", key] = some value :=
  (isConjunction_matchesLabels object).pair key value hkey hcomma hvalue

/-- An object meets a selector with one field if it has this text on the path. -/
theorem matchesFields_iff : matchesFields (some (key ++ "=" ++ value)) object ↔
    object.textAt? (dottedPath key.toList) = some value :=
  (isConjunction_matchesFields object).pair key value hkey hcomma hvalue

end Pairs

/-! ## Values with a comma -/

/-- A value with a comma in it is divided, and what is before the comma is another value. -/
theorem exists_pair_append_comma (key : String) {value : String} (h : ',' ∈ value.toList) :
    ∃ front rest : String, key ++ "=" ++ value = (key ++ "=" ++ front) ++ "," ++ rest ∧
      ',' ∉ front.toList ∧ front ≠ value := by
  obtain ⟨front, rest, hvalue, hfront⟩ := List.eq_append_cons_of_mem h
  refine ⟨String.ofList front, String.ofList rest, String.toList_injective ?_, ?_, ?_⟩
  · simp [hvalue]
  · simpa using hfront
  · rintro rfl
    simp [hfront] at h

section Commas

variable {key value : String} (hkey : '=' ∉ key.toList) (hcomma : ',' ∉ key.toList)
  (hvalue : ',' ∈ value.toList) {object : Value}
include hkey hcomma hvalue

/-- A label with a comma in it is asked for up to the comma only. -/
theorem textAt?_ne_of_matchesLabels (h : matchesLabels (some (key ++ "=" ++ value)) object) :
    object.textAt? ["metadata", "labels", key] ≠ some value := by
  obtain ⟨front, rest, hparts, hfront, hne⟩ := exists_pair_append_comma key hvalue
  rw [hparts, matchesLabels_append, matchesLabels_iff key hkey hcomma hfront] at h
  rw [h.1]
  exact fun heq => hne (Option.some.inj heq)

/-- A text with a comma in it is asked for up to the comma only. -/
theorem textAt?_ne_of_matchesFields (h : matchesFields (some (key ++ "=" ++ value)) object) :
    object.textAt? (dottedPath key.toList) ≠ some value := by
  obtain ⟨front, rest, hparts, hfront, hne⟩ := exists_pair_append_comma key hvalue
  rw [hparts, matchesFields_append, matchesFields_iff key hkey hcomma hfront] at h
  rw [h.1]
  exact fun heq => hne (Option.some.inj heq)

end Commas

end MeshDoctor
