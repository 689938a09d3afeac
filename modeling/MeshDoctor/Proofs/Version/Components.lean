import Mathlib.Algebra.GroupWithZero.Nat
import MeshDoctor.Proofs.Text.Blanks
import MeshDoctor.Proofs.Text.Numeral
import MeshDoctor.Version

/-!
# Controller versions — the components of a version

Dots, hyphens and plus signs separate the components of a version. The first two make the release
line, whichever separator stands between them.

* `IsBare`: a version without the blanks around it and the `v`s in front.
* `Components`: the first two components of a version and the separator between them.
* **`read?_eq_some_iff`**: a version is read if these are numerals of 32 bits.
* **`read?_canonical`**: the release line of a version is written in one way, which is read back.
* **`minor_behind_separator`**: the second number is behind the first separator, also if that starts
  a suffix.
-/

namespace MeshDoctor.ReleaseLine

open Text

/-! ## Components -/

/-- What is left of a version without the blanks around it and the `v`s in front. -/
def IsBare (version : String) (bare : List Char) : Prop :=
  (∃ k, IsTrimmed version.toList (List.replicate k 'v' ++ bare)) ∧ bare.head? ≠ some 'v'

/-- No separator divides the characters. -/
def IsPiece (cs : List Char) : Prop := ∀ c ∈ cs, isSeparator c = false

/-- A component ends here, at a separator or with the version. -/
def EndsPiece (rest : List Char) : Prop := ∀ c ∈ rest.head?, isSeparator c

/-- The first two components of a version and the separator between them. -/
def Components (version : String) (first : List Char) (sep : Char) (second : List Char) : Prop :=
  ∃ rest, IsBare version (first ++ sep :: (second ++ rest)) ∧ IsPiece first ∧ isSeparator sep ∧
    IsPiece second ∧ EndsPiece rest

variable {version : String} {bare first second rest : List Char} {sep : Char} {r : ReleaseLine}

theorem isSeparator_iff : isSeparator sep ↔ sep = '.' ∨ sep = '-' ∨ sep = '+' := by
  simp only [isSeparator, Bool.or_eq_true, decide_eq_true_eq, or_assoc]

theorem isBare_iff :
    IsBare version bare ↔ (trimBlanks version.toList).dropWhile (· = 'v') = bare := by
  constructor
  · rintro ⟨⟨k, htrimmed⟩, hfirst⟩
    have hmarks : ∀ c ∈ List.replicate k 'v', decide (c = 'v') = true := fun c hc =>
      decide_eq_true (List.eq_of_mem_replicate hc)
    rw [trimBlanks_eq_iff.mpr htrimmed, List.dropWhile_append_of_pos hmarks]
    refine dropWhile_of_head? fun c hc => decide_eq_false ?_
    rintro rfl
    exact hfirst hc
  · rintro rfl
    have hmarks : ∀ c ∈ (trimBlanks version.toList).takeWhile (· = 'v'), c = 'v' := fun c hc =>
      of_decide_eq_true (List.mem_takeWhile_imp (p := (· = 'v')) hc)
    have hparts := List.takeWhile_append_dropWhile (p := (· = 'v')) (l := trimBlanks version.toList)
    rw [List.eq_replicate_of_mem hmarks] at hparts
    refine ⟨⟨_, trimBlanks_eq_iff.mp hparts.symm⟩, fun hfirst => ?_⟩
    exact absurd rfl (of_decide_eq_false (of_mem_head?_dropWhile hfirst))

theorem exists_isBare (version : String) : ∃ bare, IsBare version bare :=
  ⟨_, isBare_iff.mpr rfl⟩

theorem IsBare.mem_of_mem {c : Char} (h : IsBare version bare) (hc : c ∈ bare) :
    c ∈ version.toList := by
  obtain ⟨⟨k, ⟨⟨before, after, -, -, hversion⟩, -, -⟩⟩, -⟩ := h
  simp [hversion, hc]

theorem exists_piece (cs : List Char) :
    ∃ piece rest, cs = piece ++ rest ∧ IsPiece piece ∧ EndsPiece rest := by
  refine ⟨cs.takeWhile fun c => !isSeparator c, cs.dropWhile fun c => !isSeparator c,
    List.takeWhile_append_dropWhile.symm, fun c hc => ?_, fun c hc => ?_⟩
  · simpa using List.mem_takeWhile_imp hc
  · simpa using of_mem_head?_dropWhile hc

/-- A version has two components, or it is one. -/
theorem exists_components_or (version : String) :
    (∃ first sep second, Components version first sep second) ∨
      ∃ bare, IsBare version bare ∧ IsPiece bare := by
  obtain ⟨bare, hbare⟩ := exists_isBare version
  obtain ⟨first, rest, rfl, hfirst, hrest⟩ := exists_piece bare
  cases rest with
  | nil =>
    rw [List.append_nil] at hbare
    exact .inr ⟨first, hbare, hfirst⟩
  | cons sep rest =>
    obtain ⟨second, more, rfl, hsecond, hmore⟩ := exists_piece rest
    exact .inl ⟨first, sep, second, more, hbare, hfirst, hrest sep rfl, hsecond, hmore⟩

theorem exists_splitOnP_eq_cons (hfirst : IsPiece first) (hrest : EndsPiece rest) :
    ∃ more, (first ++ rest).splitOnP isSeparator = first :: more := by
  cases rest with
  | nil =>
    rw [List.append_nil]
    exact ⟨[], List.splitOnP_eq_singleton hfirst⟩
  | cons sep rest =>
    exact ⟨_, List.splitOnP_append_cons_of_forall_mem hfirst sep (hrest sep rfl) rest⟩

/-! ## Reading -/

theorem IsPiece.plus_notMem (h : IsPiece first) : '+' ∉ first := fun hplus =>
  absurd (h '+' hplus) (by decide)

theorem read?_of_isPiece (hbare : IsBare version bare) (h : IsPiece bare) :
    read? version = none := by
  rw [read?, isBare_iff.mp hbare, List.splitOnP_eq_singleton h]

/-- The components decide what is read. -/
theorem Components.read?_eq_some_iff (h : Components version first sep second) :
    read? version = some r ↔
      (IsNumeral first r.major ∧ r.major < 2 ^ 32) ∧ IsNumeral second r.minor ∧
        r.minor < 2 ^ 32 := by
  obtain ⟨rest, hbare, hfirst, hsep, hsecond, hrest⟩ := h
  obtain ⟨more, hmore⟩ := exists_splitOnP_eq_cons hsecond hrest
  have hpieces :
      (first ++ sep :: (second ++ rest)).splitOnP isSeparator = first :: second :: more := by
    rw [List.splitOnP_append_cons_of_forall_mem hfirst sep hsep, hmore]
  have hnumber {cs : List Char} {n : Nat} (hcs : IsPiece cs) :
      readNumeral? UInt32.size cs = some n ↔ IsNumeral cs n ∧ n < 2 ^ 32 :=
    readNumeral?_eq_some_iff (by decide) hcs.plus_notMem
  rw [read?, isBare_iff.mp hbare, hpieces]
  simp only [Option.bind_eq_bind, Option.bind_eq_some_iff, hnumber hfirst, hnumber hsecond,
    Option.some.injEq]
  constructor
  · rintro ⟨major, hmajor, minor, hminor, rfl⟩
    exact ⟨hmajor, hminor⟩
  · rintro ⟨hmajor, hminor⟩
    exact ⟨r.major, hmajor, r.minor, hminor, rfl⟩

/-- **A version is read if its first two components are numerals of 32 bits.** -/
theorem read?_eq_some_iff :
    read? version = some r ↔ ∃ first sep second, Components version first sep second ∧
      (IsNumeral first r.major ∧ r.major < 2 ^ 32) ∧ IsNumeral second r.minor ∧
        r.minor < 2 ^ 32 := by
  constructor
  · intro h
    rcases exists_components_or version with
      ⟨first, sep, second, hcomponents⟩ | ⟨bare, hbare, hpiece⟩
    · exact ⟨first, sep, second, hcomponents, hcomponents.read?_eq_some_iff.mp h⟩
    · rw [read?_of_isPiece hbare hpiece] at h
      cases h
  · rintro ⟨first, sep, second, hcomponents, hnumbers⟩
    exact hcomponents.read?_eq_some_iff.mpr hnumbers

/-! ## Writing -/

theorem isSeparator_of_isDigit {c : Char} (h : c.isDigit) : isSeparator c = false := by
  rw [Bool.eq_false_iff]
  intro hsep
  rcases isSeparator_iff.mp hsep with rfl | rfl | rfl <;> exact absurd h (by decide)

theorem isPiece_of_isNumeral {n : Nat} (h : IsNumeral first n) : IsPiece first := fun c hc =>
  isSeparator_of_isDigit (h.isDigit c hc)

theorem isBlank_of_isSeparator {c : Char} (h : isSeparator c) : isBlank c = false := by
  rcases isSeparator_iff.mp h with rfl | rfl | rfl <;> rfl

/-- Two numerals with a separator between are the components of what they are written in. -/
theorem components_written {before after : List Char} {major minor : Nat}
    (hbefore : ∀ c ∈ before, isBlank c) (k : Nat) (hmajor : IsNumeral first major)
    (hsep : isSeparator sep) (hminor : IsNumeral second minor) (hrest : EndsPiece rest)
    (hafter : ∀ c ∈ after, isBlank c) :
    Components (String.ofList (before ++ (List.replicate k 'v' ++ (first ++ sep :: second)) ++
      (rest ++ after))) first sep second := by
  have hsolid : ∀ c ∈ List.replicate k 'v' ++ (first ++ sep :: second), isBlank c = false := by
    intro c hc
    simp only [List.mem_append, List.mem_cons] at hc
    rcases hc with hc | hc | rfl | hc
    · rw [List.eq_of_mem_replicate hc]
      rfl
    · exact isBlank_of_isDigit (hmajor.isDigit c hc)
    · exact isBlank_of_isSeparator hsep
    · exact isBlank_of_isDigit (hminor.isDigit c hc)
  have htrimmed := isTrimmed_append hbefore (by simp)
    (fun c hc => hsolid c (List.mem_of_mem_head? hc))
    (fun c hc => hsolid c (List.mem_of_mem_getLast? hc)) (rest ++ after)
  refine ⟨(rest ++ after).rdropWhile isBlank, ⟨⟨k, ?_⟩, ?_⟩, isPiece_of_isNumeral hmajor, hsep,
    isPiece_of_isNumeral hminor, fun c hc => ?_⟩
  · rw [String.toList_ofList]
    simpa using htrimmed
  · rw [List.head?_append_of_ne_nil _ hmajor.ne_nil]
    intro hv
    exact absurd (hmajor.isDigit 'v' (List.mem_of_mem_head? hv)) (by decide)
  · cases rest with
    | nil =>
      have hnil : after.rdropWhile isBlank = [] := List.rdropWhile_eq_nil_iff.mpr hafter
      rw [List.nil_append, hnil] at hc
      cases hc
    | cons s more =>
      have hhead : c ∈ (s :: more ++ after).head? := mem_head?_of_rdropWhile hc
      exact hrest c hhead

/-- What is written of numbers of 32 bits is read back. -/
theorem read?_written {before after : List Char} {major minor : Nat}
    (hbefore : ∀ c ∈ before, isBlank c) (k i j : Nat) (hmajor : major < 2 ^ 32)
    (hsep : isSeparator sep) (hminor : minor < 2 ^ 32) (hrest : EndsPiece rest)
    (hafter : ∀ c ∈ after, isBlank c) :
    read? (String.ofList (before ++ (List.replicate k 'v' ++
      ((List.replicate i '0' ++ (toString major).toList) ++
        sep :: (List.replicate j '0' ++ (toString minor).toList))) ++ (rest ++ after))) =
          some ⟨major, minor⟩ := by
  have hfirst := (isDecimal_toString major).isNumeral.zeros i
  have hsecond := (isDecimal_toString minor).isNumeral.zeros j
  have hcomponents := components_written hbefore k hfirst hsep hsecond hrest hafter
  exact hcomponents.read?_eq_some_iff.mpr ⟨⟨hfirst, hmajor⟩, hsecond, hminor⟩

/-! ## The written form -/

theorem text_eq_ofList (r : ReleaseLine) :
    r.text = String.ofList ([] ++ (List.replicate 1 'v' ++
      ((List.replicate 0 '0' ++ (toString r.major).toList) ++
        '.' :: (List.replicate 0 '0' ++ (toString r.minor).toList))) ++ ([] ++ [])) :=
  String.toList_injective (by simp [text])

/-- A release line of numbers of 32 bits is read back. -/
theorem read?_text (hmajor : r.major < 2 ^ 32) (hminor : r.minor < 2 ^ 32) :
    read? r.text = some r := by
  rw [text_eq_ofList]
  exact read?_written (by simp) 1 0 0 hmajor rfl hminor (by simp [EndsPiece]) (by simp)

theorem lt_of_read? (h : read? version = some r) : r.major < 2 ^ 32 ∧ r.minor < 2 ^ 32 := by
  obtain ⟨_, _, _, _, ⟨-, hmajor⟩, -, hminor⟩ := read?_eq_some_iff.mp h
  exact ⟨hmajor, hminor⟩

/-- The characters denote no number of 32 bits: there are none, one is no digit, or the number is
too large. -/
def IsNoNumber (cs : List Char) : Prop :=
  cs = [] ∨ (∃ c ∈ cs, c.isDigit = false) ∨ 2 ^ 32 ≤ Nat.ofDigitChars 10 cs 0

theorem IsNoNumber.not_isNumeral {n : Nat} (h : IsNoNumber first) :
    ¬ (IsNumeral first n ∧ n < 2 ^ 32) := by
  rintro ⟨hnumeral, hn⟩
  rcases h with hnil | ⟨c, hc, hdigit⟩ | hlarge
  · exact hnumeral.ne_nil hnil
  · rw [hnumeral.isDigit c hc] at hdigit
    cases hdigit
  · rw [hnumeral.value] at hlarge
    omega

theorem Components.read?_of_isNoNumber (h : Components version first sep second)
    (hnone : IsNoNumber first ∨ IsNoNumber second) : read? version = none := by
  refine Option.eq_none_iff_forall_ne_some.mpr fun r hr => ?_
  obtain ⟨hmajor, hminor⟩ := h.read?_eq_some_iff.mp hr
  rcases hnone with hfirst | hsecond
  · exact hfirst.not_isNumeral hmajor
  · exact hsecond.not_isNumeral hminor

/-- A version whose first component is no number is rejected, also if it is the only one. -/
theorem IsBare.read?_of_isNoNumber (hbare : IsBare version (first ++ rest)) (hfirst : IsPiece first)
    (hrest : EndsPiece rest) (hnone : IsNoNumber first) : read? version = none := by
  cases rest with
  | nil =>
    rw [List.append_nil] at hbare
    exact read?_of_isPiece hbare hfirst
  | cons sep rest =>
    obtain ⟨second, more, rfl, hsecond, hmore⟩ := exists_piece rest
    have hcomponents : Components version first sep second :=
      ⟨more, hbare, hfirst, hrest sep rfl, hsecond, hmore⟩
    exact hcomponents.read?_of_isNoNumber (.inl hnone)

/-- **The release line of a version is written in one way, which is read back**, so that the numbers
tell release lines apart. Blanks around a version, further `v`s in front, zeros in front of a number
and all that is behind the second number do not count. A version is rejected if one of its first two
components is no number of 32 bits, or if it has one component only. -/
theorem read?_canonical :
    (∀ version r, read? version = some r → r.major < 2 ^ 32 ∧ r.minor < 2 ^ 32 ∧
      read? r.text = some r ∧ ∃ major minor : String, r.text = "v" ++ major ++ "." ++ minor ∧
        IsDecimal major r.major ∧ IsDecimal minor r.minor) ∧
    (∀ version version' r r', read? version = some r → read? version' = some r' →
      (r.text = r'.text ↔ r.major = r'.major ∧ r.minor = r'.minor)) ∧
    (∀ (before after rest : List Char) (k i j major minor : Nat), (∀ c ∈ before, isBlank c) →
      (∀ c ∈ after, isBlank c) → EndsPiece rest → major < 2 ^ 32 → minor < 2 ^ 32 →
      read? (String.ofList (before ++ (List.replicate k 'v' ++
        ((List.replicate i '0' ++ (toString major).toList) ++
          '.' :: (List.replicate j '0' ++ (toString minor).toList))) ++ (rest ++ after))) =
            some ⟨major, minor⟩) ∧
    (∀ version first sep second, Components version first sep second →
      IsNoNumber first ∨ IsNoNumber second → read? version = none) ∧
    ∀ version bare, IsBare version bare → IsPiece bare → read? version = none := by
  refine ⟨fun version r h => ?_, fun version version' r r' h h' => ?_, ?_, ?_, ?_⟩
  · obtain ⟨hmajor, hminor⟩ := lt_of_read? h
    exact ⟨hmajor, hminor, read?_text hmajor hminor, toString r.major, toString r.minor, rfl,
      isDecimal_toString r.major, isDecimal_toString r.minor⟩
  · obtain ⟨hmajor, hminor⟩ := lt_of_read? h
    obtain ⟨hmajor', hminor'⟩ := lt_of_read? h'
    rw [← ReleaseLine.mk.injEq]
    refine ⟨fun htext => ?_, fun heq => congrArg text heq⟩
    have hback := read?_text hmajor hminor
    rw [htext, read?_text hmajor' hminor'] at hback
    exact (Option.some.inj hback).symm
  · intro before after rest k i j major minor hbefore hafter hrest hmajor hminor
    exact read?_written hbefore k i j hmajor rfl hminor hrest hafter
  · exact fun version first sep second h hnone => h.read?_of_isNoNumber hnone
  · exact fun version bare hbare hpiece => read?_of_isPiece hbare hpiece

/-- A release candidate with blanks around it and zeros in front of its numbers, and a number that
32 bits do not hold. -/
theorem read?_canonical_candidate :
    read? "\tvv007.0012-rc.1 \n" = some ⟨7, 12⟩ ∧ (⟨7, 12⟩ : ReleaseLine).text = "v7.12" ∧
      read? "v7.12" = some ⟨7, 12⟩ ∧ read? "0.4294967296" = none := by
  obtain ⟨hread, -, hwritten, hrejected, -⟩ := read?_canonical
  have hcandidate : read? "\tvv007.0012-rc.1 \n" = some ⟨7, 12⟩ :=
    hwritten ['\t'] [' ', '\n'] ['-', 'r', 'c', '.', '1'] 2 2 2 7 12 (List.all_eq_true.mp rfl)
      (List.all_eq_true.mp rfl) (by rintro c ⟨⟩; rfl) (by decide) (by decide)
  have hzero : IsNumeral ['0'] 0 := ⟨by decide, List.all_eq_true.mp rfl, by decide⟩
  have hlarge : IsNumeral "4294967296".toList 4294967296 :=
    ⟨by decide, List.all_eq_true.mp rfl, by decide⟩
  have hsize : 2 ^ 32 ≤ Nat.ofDigitChars 10 "4294967296".toList 0 := by
    have hvalue := hlarge.value
    omega
  have hbare : IsBare "0.4294967296" (['0'] ++ '.' :: ("4294967296".toList ++ [])) :=
    isBare_iff.mpr (by decide +kernel)
  have hcomponents : Components "0.4294967296" ['0'] '.' "4294967296".toList :=
    ⟨[], hbare, isPiece_of_isNumeral hzero, rfl, isPiece_of_isNumeral hlarge, by simp [EndsPiece]⟩
  exact ⟨hcandidate, rfl, (hread _ _ hcandidate).2.2.1,
    hrejected _ _ _ _ hcomponents (.inr (.inr (.inr hsize)))⟩

/-! ## Separators -/

/-- The first component of the characters is a numeral of 32 bits. -/
def StartsWithNumber (cs : List Char) (n : Nat) : Prop :=
  ∃ piece rest, cs = piece ++ rest ∧ IsNumeral piece n ∧ n < 2 ^ 32 ∧ EndsPiece rest

/-- What is behind the first separator decides on the second number. -/
theorem IsBare.read?_eq_some_iff {suffix : List Char} {major : Nat}
    (hbare : IsBare version (first ++ sep :: suffix)) (hfirst : IsNumeral first major)
    (hmajor : major < 2 ^ 32) (hsep : isSeparator sep) :
    read? version = some r ↔ r.major = major ∧ StartsWithNumber suffix r.minor := by
  have hpiece := isPiece_of_isNumeral hfirst
  constructor
  · intro h
    obtain ⟨second, rest, rfl, hsecond, hrest⟩ := exists_piece suffix
    have hcomponents : Components version first sep second :=
      ⟨rest, hbare, hpiece, hsep, hsecond, hrest⟩
    obtain ⟨⟨hnumeral, -⟩, hminor, hlt⟩ := hcomponents.read?_eq_some_iff.mp h
    exact ⟨hnumeral.unique hfirst, second, rest, rfl, hminor, hlt, hrest⟩
  · rintro ⟨rfl, second, rest, rfl, hminor, hlt, hrest⟩
    have hcomponents : Components version first sep second :=
      ⟨rest, hbare, hpiece, hsep, isPiece_of_isNumeral hminor, hrest⟩
    exact hcomponents.read?_eq_some_iff.mpr ⟨⟨hfirst, hmajor⟩, hminor, hlt⟩

/-- The first number is followed by a suffix that starts with a number. -/
def HasNumberedSuffix (version : String) : Prop :=
  ∃ first sep suffix major minor, IsBare version (first ++ sep :: suffix) ∧
    (IsNumeral first major ∧ major < 2 ^ 32) ∧ (sep = '-' ∨ sep = '+') ∧
      StartsWithNumber suffix minor

theorem isSeparator_of_suffix (h : sep = '-' ∨ sep = '+') : isSeparator sep :=
  isSeparator_iff.mpr (.inr h)

/-- The first separator of a version is told by the version. -/
theorem IsBare.sep_unique {first' suffix suffix' : List Char} {sep' : Char}
    (h : IsBare version (first ++ sep :: suffix)) (h' : IsBare version (first' ++ sep' :: suffix'))
    (hfirst : IsPiece first) (hfirst' : IsPiece first') (hsep : isSeparator sep)
    (hsep' : isSeparator sep') : sep = sep' := by
  have hchars : first ++ sep :: suffix = first' ++ sep' :: suffix' :=
    (isBare_iff.mp h).symm.trans (isBare_iff.mp h')
  have hfront {cs more : List Char} {c : Char} (hcs : IsPiece cs) (hc : isSeparator c) :
      (cs ++ c :: more).takeWhile (fun d => !isSeparator d) = cs :=
    takeWhile_front (fun d hd => by rw [hcs d hd, Bool.not_false]) (by simp [hc])
  have hpieces : first = first' := by
    rw [← hfront hfirst hsep, hchars, hfront hfirst' hsep']
  rw [hpieces] at hchars
  exact (List.cons.inj (List.append_cancel_left hchars)).1

theorem exists_sep_of_read? (h : read? version = some r) : ∃ first sep suffix,
    IsBare version (first ++ sep :: suffix) ∧ IsNumeral first r.major ∧
      (sep = '.' ∨ sep = '-' ∨ sep = '+') ∧ StartsWithNumber suffix r.minor := by
  obtain ⟨first, sep, second, ⟨rest, hbare, -, hsep, -, hrest⟩, ⟨hmajor, -⟩, hminor, hlt⟩ :=
    read?_eq_some_iff.mp h
  exact ⟨first, sep, second ++ rest, hbare, hmajor, isSeparator_iff.mp hsep, second, rest, rfl,
    hminor, hlt, hrest⟩

/-- A suffix that starts with a number is read. -/
theorem HasNumberedSuffix.exists_read? (h : HasNumberedSuffix version) :
    ∃ r first sep suffix, read? version = some r ∧ IsBare version (first ++ sep :: suffix) ∧
      IsPiece first ∧ (sep = '-' ∨ sep = '+') := by
  obtain ⟨first, sep, suffix, major, minor, hbare, ⟨hfirst, hmajor⟩, hsep, hminor⟩ := h
  have hread := hbare.read?_eq_some_iff (r := ⟨major, minor⟩) hfirst hmajor
    (isSeparator_of_suffix hsep)
  exact ⟨_, first, sep, suffix, hread.mpr ⟨rfl, hminor⟩, hbare, isPiece_of_isNumeral hfirst, hsep⟩

/-- **The second number of a version is behind its first separator, whichever that is.** It is always
behind a dot, unless the first number is followed by a suffix that starts with a number, which is
then taken for the second one. With any other suffix, and without any, a version of one number is
rejected. -/
theorem minor_behind_separator (version : String) :
    (∀ r, read? version = some r → ∃ first sep suffix,
      IsBare version (first ++ sep :: suffix) ∧ IsNumeral first r.major ∧
        (sep = '.' ∨ sep = '-' ∨ sep = '+') ∧ StartsWithNumber suffix r.minor) ∧
    ((∀ r, read? version = some r → ∃ first suffix,
      IsBare version (first ++ '.' :: suffix) ∧ IsNumeral first r.major ∧
        StartsWithNumber suffix r.minor) ↔ ¬ HasNumberedSuffix version) ∧
    (∀ first sep suffix major, IsBare version (first ++ sep :: suffix) → IsNumeral first major →
      sep = '-' ∨ sep = '+' → (read? version = none ↔ ¬ HasNumberedSuffix version)) ∧
    ∀ first major, IsBare version first → IsNumeral first major → read? version = none := by
  refine ⟨fun r h => exists_sep_of_read? h, ⟨?_, ?_⟩, ?_,
    fun first major hbare hfirst => read?_of_isPiece hbare (isPiece_of_isNumeral hfirst)⟩
  · intro hdotted hsuffix
    obtain ⟨r, first, sep, suffix, hread, hbare, hfirst, hsep⟩ := hsuffix.exists_read?
    obtain ⟨first', suffix', hbare', hfirst', -⟩ := hdotted r hread
    obtain rfl : sep = '.' := hbare.sep_unique hbare' hfirst (isPiece_of_isNumeral hfirst')
      (isSeparator_of_suffix hsep) rfl
    rcases hsep with h | h <;> cases h
  · intro hnone r hr
    obtain ⟨first, sep, suffix, hbare, hfirst, rfl | hsep, hminor⟩ := exists_sep_of_read? hr
    · exact ⟨first, suffix, hbare, hfirst, hminor⟩
    · have hmajor := (lt_of_read? hr).1
      exact absurd ⟨first, sep, suffix, _, _, hbare, ⟨hfirst, hmajor⟩, hsep, hminor⟩ hnone
  · intro first sep suffix major hbare hfirst hsep
    constructor
    · intro hrejected hsuffix
      obtain ⟨r, -, -, -, hread, -⟩ := hsuffix.exists_read?
      rw [hrejected] at hread
      cases hread
    · refine fun hnone => Option.eq_none_iff_forall_ne_some.mpr fun r hr => hnone ?_
      have hmajor := (lt_of_read? hr).1
      obtain ⟨first', sep', suffix', hbare', hfirst', hsep', hminor⟩ := exists_sep_of_read? hr
      obtain rfl : sep' = sep := hbare'.sep_unique hbare (isPiece_of_isNumeral hfirst')
        (isPiece_of_isNumeral hfirst) (isSeparator_iff.mpr hsep') (isSeparator_of_suffix hsep)
      exact ⟨first', sep', suffix', _, _, hbare', ⟨hfirst', hmajor⟩, hsep, hminor⟩

/-- A date of build is taken for the second number of a version that has one number only. -/
theorem minor_of_buildDate :
    IsBare "v1-20210614" "1-20210614".toList ∧ read? "v1" = none ∧
      read? "v1-20210614" = some ⟨1, 20210614⟩ ∧
      (read? "v1-20210614").map text = some "v1.20210614" := by
  have hbare : IsBare "v1-20210614" "1-20210614".toList := isBare_iff.mpr (by decide +kernel)
  exact ⟨hbare, by decide +kernel, by decide +kernel, by decide +kernel⟩

end MeshDoctor.ReleaseLine
