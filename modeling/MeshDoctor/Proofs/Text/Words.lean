import Mathlib.Data.List.Basic
import MeshDoctor.Text.Pieces

/-!
# Text — words in a text

* **`Text.contains_iff`**: a word is found in a text if it is a part of it.
* `Text.dropWord?_eq_some_iff_append`: what is after a word at the front.
* `Text.IsFirstCut`, **`Text.cutWord_eq_some_iff`**: a text is cut at the first place where the word
  stands.
* `Text.isFirstCut_append`: where that is, if nothing right before the word is of its characters.
-/

namespace MeshDoctor.Text

variable {word cs before after : List Char}

/-! ## Finding a word -/

theorem not_prefix_of_isPrefixOf?_eq_none (h : word.isPrefixOf? cs = none) : ¬ word <+: cs := by
  rintro ⟨after, hafter⟩
  rw [← List.isPrefixOf?_eq_some_iff_append_eq, h] at hafter
  cases hafter

theorem cutWord_isSome_iff : (cutWord word cs).isSome ↔ word <:+: cs := by
  induction cs with
  | nil =>
    rw [cutWord, List.infix_nil]
    split <;> simp_all
  | cons c rest ih =>
    rw [cutWord, List.infix_cons_iff]
    cases h : word.isPrefixOf? (c :: rest) with
    | some after => exact iff_of_true rfl (.inl ⟨after, List.append_eq_of_isPrefixOf?_eq_some h⟩)
    | none =>
      rw [Option.isSome_map, ih, or_iff_right (not_prefix_of_isPrefixOf?_eq_none h)]

/-- **A word is found in a text if it is a part of it.** -/
theorem contains_iff {word text : String} :
    contains word text ↔ word.toList <:+: text.toList :=
  cutWord_isSome_iff

/-! ## Cutting at a word -/

theorem dropWord?_eq_some_iff_append {word : String} {rest : List Char} :
    dropWord? word cs = some rest ↔ cs = word.toList ++ rest := by
  rw [dropWord?, List.isPrefixOf?_eq_some_iff_append_eq, eq_comm]

/-- The text is `before`, the word and `after`, and the word does not stand at an earlier place. -/
structure IsFirstCut (word cs before after : List Char) : Prop where
  eq_append : cs = before ++ word ++ after
  first : ∀ before' after', cs = before' ++ word ++ after' → before.length ≤ before'.length

/-- Two cuts of a text at the first place are the same. -/
theorem IsFirstCut.unique {before' after' : List Char} (h : IsFirstCut word cs before after)
    (h' : IsFirstCut word cs before' after') : before = before' ∧ after = after' := by
  have hlength : before.length = before'.length :=
    Nat.le_antisymm (h.first _ _ h'.eq_append) (h'.first _ _ h.eq_append)
  have heq := h.eq_append.symm.trans h'.eq_append
  rw [List.append_assoc, List.append_assoc] at heq
  obtain ⟨rfl, htail⟩ := List.append_inj heq hlength
  exact ⟨rfl, List.append_cancel_left htail⟩

theorem isFirstCut_nil (rest : List Char) : IsFirstCut word (word ++ rest) [] rest :=
  ⟨rfl, fun _ _ _ => Nat.zero_le _⟩

/-- A text that does not start with the word is cut where its tail is. -/
theorem isFirstCut_cons_iff {c : Char} {rest : List Char} (hfront : ¬ word <+: c :: rest) :
    IsFirstCut word (c :: rest) before after ↔
      ∃ tail, before = c :: tail ∧ IsFirstCut word rest tail after := by
  have hcons : ∀ before' after', c :: rest = before' ++ word ++ after' →
      ∃ tail, before' = c :: tail ∧ rest = tail ++ word ++ after' := by
    intro before' after' heq
    cases before' with
    | nil => exact absurd ⟨after', heq.symm⟩ hfront
    | cons d tail =>
      obtain ⟨rfl, hrest⟩ := List.cons.inj heq
      exact ⟨tail, rfl, hrest⟩
  constructor
  · intro h
    obtain ⟨tail, rfl, hrest⟩ := hcons before after h.eq_append
    refine ⟨tail, rfl, hrest, fun before' after' heq => ?_⟩
    have hle := h.first (c :: before') after' (by rw [heq]; rfl)
    simpa using hle
  · rintro ⟨tail, rfl, h⟩
    refine ⟨by rw [h.eq_append]; rfl, fun before' after' heq => ?_⟩
    obtain ⟨tail', rfl, hrest⟩ := hcons before' after' heq
    simpa using h.first tail' after' hrest

/-- **A text is cut at the first place where the word stands.** -/
theorem cutWord_eq_some_iff :
    cutWord word cs = some (before, after) ↔ IsFirstCut word cs before after := by
  induction cs generalizing before after with
  | nil =>
    rw [cutWord]
    constructor
    · intro h
      obtain ⟨rfl, hpair⟩ := Option.ite_none_right_eq_some.mp h
      obtain ⟨rfl, rfl⟩ := Prod.mk.inj (Option.some.inj hpair)
      exact isFirstCut_nil []
    · intro h
      have hnil := h.eq_append.symm
      simp only [List.append_eq_nil_iff] at hnil
      obtain ⟨⟨rfl, rfl⟩, rfl⟩ := hnil
      rfl
  | cons c rest ih =>
    rw [cutWord]
    cases hword : word.isPrefixOf? (c :: rest) with
    | some tail =>
      have hfirst : IsFirstCut word (c :: rest) [] tail := by
        rw [← List.isPrefixOf?_eq_some_iff_append_eq.mp hword]
        exact isFirstCut_nil tail
      constructor
      · intro h
        obtain ⟨rfl, rfl⟩ := Prod.mk.inj (Option.some.inj h)
        exact hfirst
      · intro h
        obtain ⟨rfl, rfl⟩ := hfirst.unique h
        rfl
    | none =>
      rw [isFirstCut_cons_iff (not_prefix_of_isPrefixOf?_eq_none hword)]
      constructor
      · intro h
        obtain ⟨⟨tail, _⟩, hcut, hpair⟩ := Option.map_eq_some_iff.mp h
        obtain ⟨rfl, rfl⟩ := Prod.mk.inj hpair
        exact ⟨tail, rfl, ih.mp hcut⟩
      · rintro ⟨tail, rfl, h⟩
        rw [ih.mpr h]
        rfl

/-- Parts of a text that overlap share a character. -/
theorem exists_mem_of_overlap {front tail rest : List Char}
    (heq : front ++ tail ++ rest = before ++ word ++ after)
    (htail : before.length < front.length + tail.length)
    (hword : front.length < before.length + word.length)
    (hne : tail ≠ []) (hne' : word ≠ []) : ∃ c ∈ tail, c ∈ word := by
  have hpos : 0 < tail.length := List.length_pos_iff.mpr hne
  have hpos' : 0 < word.length := List.length_pos_iff.mpr hne'
  -- The later of the two starts lies in both parts.
  have hplace : ∃ i, before.length ≤ i ∧ i < before.length + word.length ∧
      front.length ≤ i ∧ i < front.length + tail.length := by
    rcases Nat.le_total before.length front.length with hle | hle
    · exact ⟨front.length, hle, hword, Nat.le_refl _, by omega⟩
    · exact ⟨before.length, Nat.le_refl _, by omega, hle, htail⟩
  obtain ⟨i, hstart, hend, hstart', hend'⟩ := hplace
  have hlt : i - front.length < tail.length := by omega
  have hchar : (front ++ tail ++ rest)[i]? = (before ++ word ++ after)[i]? := by rw [heq]
  rw [List.getElem?_append_left (by simpa using hend'), List.getElem?_append_right hstart',
    List.getElem?_append_left (by simpa using hend), List.getElem?_append_right hstart,
    List.getElem?_eq_getElem hlt] at hchar
  exact ⟨_, List.getElem_mem hlt, List.mem_of_getElem? hchar.symm⟩

/-- A text is cut behind what has no characters of the word, if the word is not part of what is
before that. -/
theorem isFirstCut_append {front tail : List Char} (hfront : ¬ word <:+: front) (htail : tail ≠ [])
    (hapart : ∀ c ∈ tail, c ∉ word) (after : List Char) :
    IsFirstCut word (front ++ tail ++ word ++ after) (front ++ tail) after := by
  refine ⟨rfl, fun before' after' heq => ?_⟩
  by_contra hearly
  rw [Nat.not_le, List.length_append] at hearly
  rcases Nat.lt_or_ge front.length (before' ++ word).length with hover | hinside
  · have hword : word ≠ [] := by
      rintro rfl
      exact hfront List.nil_infix
    rw [List.length_append] at hover
    rw [List.append_assoc] at heq
    obtain ⟨c, hc, hcword⟩ := exists_mem_of_overlap heq hearly hover htail hword
    exact hapart c hc hcword
  · -- The earlier word would be part of the front.
    have hprefix : before' ++ word <+: front := by
      refine List.prefix_of_prefix_length_le ⟨after', heq.symm⟩ ⟨tail ++ word ++ after, ?_⟩ hinside
      simp only [List.append_assoc]
    obtain ⟨rest, hrest⟩ := hprefix
    exact hfront ⟨before', rest, hrest⟩

end MeshDoctor.Text
