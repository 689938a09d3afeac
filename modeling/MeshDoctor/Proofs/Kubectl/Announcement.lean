import MeshDoctor.Kubectl.PortForward
import MeshDoctor.Proofs.Text.Blanks
import MeshDoctor.Proofs.Text.Numeral
import MeshDoctor.Proofs.Text.Pieces
import MeshDoctor.Proofs.Text.Words

/-!
# Kubectl — lines that announce a port

The port stands behind the last colon before the first arrow, whatever the address is.

* `Announces`: the parts of a line that has the form of an announcement.
* **`announcedPort?_eq_some_iff`**: a port is read from such a line if its numeral denotes it.
* `Announces.announcedPort?_eq_none`: a number that is no port is refused.
* `announces_written`, `announcedPort?_written`: an address without arrows, a numeral and a target, as
  the tool writes them.
-/

namespace MeshDoctor

open Text

/-- Blanks around it aside, the line announces by this numeral: it stands behind the last colon
before the first arrow. -/
structure Announces (line : String) (address numeral target : List Char) : Prop where
  trimmed : IsTrimmed line.toList
    ("Forwarding from ".toList ++ (address ++ ':' :: numeral ++ " -> ".toList ++ target))
  first_arrow : IsFirstCut " -> ".toList (address ++ ':' :: numeral ++ " -> ".toList ++ target)
    (address ++ ':' :: numeral) target
  last_colon : ':' ∉ numeral

variable {line : String} {port n : Nat}

/-! ## Reading -/

section

variable {address numeral target : List Char}

/-- From a line that announces, its numeral is read. -/
theorem Announces.announcedPort?_eq (h : Announces line address numeral target) :
    announcedPort? line = readNumeral? UInt16.size numeral := by
  rw [announcedPort?, trimBlanks_eq_iff.mpr h.trimmed, dropWord?_eq_some_iff_append.mpr rfl]
  simp only [Option.bind_eq_bind, Option.bind_some, cutWord_eq_some_iff.mpr h.first_arrow,
    cutLast_append address h.last_colon]

/-- A line from which a port is read announces. -/
theorem exists_announces_of_announcedPort? (h : announcedPort? line = some port) :
    ∃ address numeral target, Announces line address numeral target := by
  simp only [announcedPort?, Option.bind_eq_bind, Option.bind_eq_some_iff] at h
  obtain ⟨rest, hrest, ⟨before, target⟩, harrow, ⟨address, numeral⟩, hcolon, -⟩ := h
  obtain ⟨rfl, hlast⟩ := cutLast_eq_some_iff.mp hcolon
  have hfirst := cutWord_eq_some_iff.mp harrow
  obtain rfl := hfirst.eq_append
  refine ⟨address, numeral, target, ?_, hfirst, hlast⟩
  exact trimBlanks_eq_iff.mp (dropWord?_eq_some_iff_append.mp hrest)

/-- **A port is read from a line that announces by a numeral of it.** -/
theorem announcedPort?_eq_some_iff :
    announcedPort? line = some port ↔
      ∃ address numeral target, Announces line address numeral target ∧
        Denotes numeral port ∧ port ≤ 65535 := by
  have hread : ∀ numeral, readNumeral? UInt16.size numeral = some port ↔
      Denotes numeral port ∧ port ≤ 65535 := fun numeral =>
    (readNumeral?_eq_some_iff_denotes (by decide)).trans (and_congr_right' Nat.lt_succ_iff)
  constructor
  · intro h
    obtain ⟨address, numeral, target, hannounces⟩ := exists_announces_of_announcedPort? h
    rw [hannounces.announcedPort?_eq, hread] at h
    exact ⟨address, numeral, target, hannounces, h⟩
  · rintro ⟨address, numeral, target, hannounces, hport⟩
    rw [hannounces.announcedPort?_eq, hread]
    exact hport

/-- A number that is no port is refused. -/
theorem Announces.announcedPort?_eq_none (h : Announces line address numeral target)
    (hnumeral : Denotes numeral n) (hn : 65535 < n) : announcedPort? line = none := by
  rw [h.announcedPort?_eq, Option.eq_none_iff_forall_ne_some]
  intro port hport
  obtain ⟨hport, hlt⟩ := (readNumeral?_eq_some_iff_denotes (by decide)).mp hport
  obtain rfl := hport.unique hnumeral
  exact Nat.not_lt.mpr hn hlt

end

/-! ## Announcements as they are written -/

section Written

variable {before host digits target after : String}
  (hbefore : ∀ c ∈ before.toList, isBlank c) (hafter : ∀ c ∈ after.toList, isBlank c)
  (hhost : ¬ " -> ".toList <:+: host.toList) (hdigits : IsNumeral digits.toList n)
  (htarget : target ≠ "") (htargetDigits : ∀ c ∈ target.toList, c.isDigit)
include hbefore hafter hhost hdigits htarget htargetDigits

/-- An address without arrows, a numeral and digits for a target make an announcement. -/
theorem announces_written :
    Announces (before ++ "Forwarding from " ++ host ++ ":" ++ digits ++ " -> " ++ target ++ after)
      host.toList digits.toList target.toList where
  trimmed := by
    refine ⟨⟨before.toList, after.toList, hbefore, hafter, by simp⟩, ?_, ?_⟩
    · rintro c ⟨⟩
      rfl
    · intro c hc
      have hne : target.toList ≠ [] := by simpa using htarget
      rw [← List.append_assoc, List.getLast?_append_of_ne_nil _ hne] at hc
      exact isBlank_of_isDigit (htargetDigits c (List.mem_of_getLast? hc))
  first_arrow := by
    have hapart : ∀ c ∈ ':' :: digits.toList, c ∉ " -> ".toList := by
      intro c hc harrow
      have hchars : ∀ c ∈ " -> ".toList, ¬ c.isDigit ∧ c ≠ ':' := by simp
      rcases List.mem_cons.mp hc with rfl | hc
      · exact (hchars _ harrow).2 rfl
      · exact (hchars c harrow).1 (hdigits.isDigit c hc)
    exact isFirstCut_append hhost (List.cons_ne_nil _ _) hapart target.toList
  last_colon hmem := absurd (hdigits.isDigit _ hmem) (by decide)

/-- From what the tool writes, the number is read if it is a port. -/
theorem announcedPort?_written :
    announcedPort?
        (before ++ "Forwarding from " ++ host ++ ":" ++ digits ++ " -> " ++ target ++ after) =
      if n ≤ 65535 then some n else none := by
  have hannounces := announces_written hbefore hafter hhost hdigits htarget htargetDigits
  split_ifs with hn
  · exact announcedPort?_eq_some_iff.mpr ⟨_, _, _, hannounces, .inl hdigits, hn⟩
  · exact hannounces.announcedPort?_eq_none (.inl hdigits) (Nat.not_le.mp hn)

end Written

end MeshDoctor
