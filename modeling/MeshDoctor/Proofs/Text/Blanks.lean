import Mathlib.Data.List.DropRight
import MeshDoctor.Text.Pieces

/-!
# Text — what is between the blanks

* `IsTrimmed`: what is left of a text without the blanks at both ends.
* **`trimBlanks_eq_iff`**: it is what trimming gives.
* `trimBlanks_append`: blanks at the end do not count.
* `isTrimmed_append`: what trimming leaves of what follows.
-/

namespace MeshDoctor.Text

/-- What is left of a text without the blanks at both ends. -/
structure IsTrimmed (cs body : List Char) : Prop where
  blanks : ∃ before after, (∀ c ∈ before, isBlank c) ∧ (∀ c ∈ after, isBlank c) ∧
    cs = before ++ body ++ after
  first : ∀ c ∈ body.head?, isBlank c = false
  last : ∀ c ∈ body.getLast?, isBlank c = false

variable {cs body : List Char}

theorem trimBlanks_eq (cs : List Char) :
    trimBlanks cs = (cs.dropWhile isBlank).rdropWhile isBlank := rfl

theorem isBlank_of_isDigit {c : Char} (h : c.isDigit) : isBlank c = false := by
  have hrange := Char.isDigit_iff_toNat.mp h
  simp only [Char.reduceToNat] at hrange
  simp only [isBlank, Bool.or_eq_false_iff, Bool.and_eq_false_iff, decide_eq_false_iff_not]
  omega

/-! ## The ends of a text -/

/-- The characters up to the first that is of another kind. -/
theorem takeWhile_front {p : Char → Bool} {front rest : List Char} (hfront : ∀ c ∈ front, p c)
    (hrest : ∀ c ∈ rest.head?, p c = false) : (front ++ rest).takeWhile p = front := by
  rw [List.takeWhile_append_of_pos hfront]
  cases rest with
  | nil => simp
  | cons c more => simp [hrest c rfl]

theorem dropWhile_of_head? {p : Char → Bool} (h : ∀ c ∈ cs.head?, p c = false) :
    cs.dropWhile p = cs := by
  cases cs with
  | nil => rfl
  | cons c rest => exact List.dropWhile_cons_of_neg (by simp [h c rfl])

theorem of_mem_head?_dropWhile {p : Char → Bool} {c : Char} (hc : c ∈ (cs.dropWhile p).head?) :
    p c = false := by
  have hhead := List.head?_dropWhile_not p cs
  rw [Option.mem_def.mp hc] at hhead
  exact hhead

theorem of_mem_getLast?_rdropWhile {p : Char → Bool} {c : Char}
    (hc : c ∈ (cs.rdropWhile p).getLast?) : p c = false := by
  rw [List.rdropWhile, List.getLast?_reverse] at hc
  exact of_mem_head?_dropWhile hc

theorem mem_head?_of_rdropWhile {p : Char → Bool} {c : Char}
    (hc : c ∈ (cs.rdropWhile p).head?) : c ∈ cs.head? := by
  obtain ⟨tail, htail⟩ := List.rdropWhile_prefix p cs
  rw [← htail, List.head?_append, Option.mem_def.mp hc]
  rfl

theorem rdropWhile_append_of_getLast? {p : Char → Bool} {after : List Char}
    (hlast : ∀ c ∈ cs.getLast?, p c = false) (hafter : ∀ c ∈ after, p c) :
    (cs ++ after).rdropWhile p = cs := by
  have hreverse : ∀ c ∈ after.reverse, p c := fun c hc => hafter c (List.mem_reverse.mp hc)
  rw [List.rdropWhile, List.reverse_append, List.dropWhile_append_of_pos hreverse,
    dropWhile_of_head? (by rwa [List.head?_reverse]), List.reverse_reverse]

/-! ## Trimming -/

/-- **What trimming gives is what is between the blanks.** -/
theorem trimBlanks_eq_iff : trimBlanks cs = body ↔ IsTrimmed cs body := by
  rw [trimBlanks_eq]
  constructor
  · rintro rfl
    refine ⟨⟨cs.takeWhile isBlank, (cs.dropWhile isBlank).rtakeWhile isBlank,
      fun c => List.mem_takeWhile_imp, fun c => List.mem_rtakeWhile_imp, ?_⟩, ?_, ?_⟩
    · rw [List.append_assoc, List.rdropWhile_append_rtakeWhile, List.takeWhile_append_dropWhile]
    · exact fun c hc => of_mem_head?_dropWhile (mem_head?_of_rdropWhile hc)
    · exact fun c => of_mem_getLast?_rdropWhile
  · rintro ⟨⟨before, after, hbefore, hafter, rfl⟩, hfirst, hlast⟩
    rw [List.append_assoc, List.dropWhile_append_of_pos hbefore]
    cases body with
    | nil =>
      rw [List.nil_append, List.dropWhile_eq_nil_iff.mpr hafter]
      rfl
    | cons c rest =>
      rw [dropWhile_of_head? (by simpa using hfirst)]
      exact rdropWhile_append_of_getLast? hlast hafter

/-- Blanks at the end of a text do not count. -/
theorem trimBlanks_append {after : List Char} (hafter : ∀ c ∈ after, isBlank c) :
    trimBlanks (cs ++ after) = trimBlanks cs := by
  obtain ⟨⟨before, between, hbefore, hbetween, hcs⟩, hfirst, hlast⟩ := trimBlanks_eq_iff.mp rfl
  refine trimBlanks_eq_iff.mpr ⟨⟨before, between ++ after, hbefore, ?_, ?_⟩, hfirst, hlast⟩
  · exact fun c hc => (List.mem_append.mp hc).elim (hbetween c) (hafter c)
  · conv_lhs => rw [hcs]
    rw [List.append_assoc]

/-- Only the blanks at the end of what follows a text without blanks at its ends are taken away. -/
theorem isTrimmed_append {before : List Char} (hbefore : ∀ c ∈ before, isBlank c)
    (hne : body ≠ []) (hfirst : ∀ c ∈ body.head?, isBlank c = false)
    (hlast : ∀ c ∈ body.getLast?, isBlank c = false) (tail : List Char) :
    IsTrimmed (before ++ body ++ tail) (body ++ tail.rdropWhile isBlank) where
  blanks := by
    refine ⟨before, tail.rtakeWhile isBlank, hbefore, fun c => List.mem_rtakeWhile_imp, ?_⟩
    simp only [List.append_assoc, List.rdropWhile_append_rtakeWhile]
  first := by
    intro c hc
    rw [List.head?_append_of_ne_nil body hne] at hc
    exact hfirst c hc
  last := by
    intro c hc
    rw [List.getLast?_append, Option.mem_def, Option.or_eq_some_iff] at hc
    rcases hc with hc | ⟨-, hc⟩
    · exact of_mem_getLast?_rdropWhile hc
    · exact hlast c hc

end MeshDoctor.Text
