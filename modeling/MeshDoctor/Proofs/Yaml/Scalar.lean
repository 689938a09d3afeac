import MeshDoctor.Proofs.Json.Leaves
import MeshDoctor.Yaml.Printer
import Mathlib.Data.List.DropRight

/-!
# YAML — reading back what is printed

A printable text on one line is written plainly or between single quotes. Both ways end with the line.

* `IsPrintable`, `IsWord`: the texts that are written, and those that need no quotes.
* `readPlain_key`, `readPlain_value`: a plain text is read up to its colon or the end of its line.
* `doubled`, `readQuoted_doubled`: a quoted text is read up to its closing quote.
* `Written`, **`written_writeScalar`**: how a printable text is written.
* `needsQuotes_of_plain`: what is written plainly is not taken for something else.
* **`readUnsigned?_toString`**: a printed number is read back.
-/

namespace MeshDoctor.Yaml

/-! ## Characters -/

/-- The printable characters of ASCII. -/
def IsPrintable (c : Char) : Prop := 0x20 ≤ c.toNat ∧ c.toNat ≤ 0x7E

instance : DecidablePred IsPrintable := fun _ => inferInstanceAs (Decidable (_ ∧ _))

/-- The characters of names and of numerals. -/
def isWordCharacter (c : Char) : Bool := c.isAlphanum || c = '_'

/-- A name or a numeral. -/
def IsWord (cs : List Char) : Prop := cs ≠ [] ∧ ∀ c ∈ cs, isWordCharacter c

-- Not a search through all characters.
instance : DecidablePred IsWord := fun cs =>
  have : Decidable (∀ c ∈ cs, isWordCharacter c) := List.decidableBAll _ cs
  inferInstanceAs (Decidable (_ ∧ _))

variable {c : Char} {cs rest : List Char}

theorem IsPrintable.isAllowed (h : IsPrintable c) : isAllowed c := by
  simp [Yaml.isAllowed, h.1, h.2]

theorem IsPrintable.isShown (h : IsPrintable c) : isShown c := by
  simp [Yaml.isShown, h.1, h.2]

theorem IsPrintable.isBreak_eq (h : IsPrintable c) : isBreak c = false := by
  have hne : ∀ d, ¬ IsPrintable d → c ≠ d := fun d hd hc => hd (hc ▸ h)
  simp (disch := decide) [isBreak, hne]

theorem ne_of_word {d : Char} (h : isWordCharacter c) (hd : isWordCharacter d = false) : c ≠ d := by
  rintro rfl
  simp [h] at hd

theorem isBlank_of_word (h : isWordCharacter c) : isBlank c = false := by
  simp (disch := decide) [isBlank, ne_of_word h]

theorem isPrintable_of_between {low high : Char} (hlow : IsPrintable low) (hhigh : IsPrintable high)
    (h : c.val ≥ low.val ∧ c.val ≤ high.val) : IsPrintable c :=
  ⟨Nat.le_trans hlow.1 (UInt32.le_iff_toNat_le.mp h.1),
    Nat.le_trans (UInt32.le_iff_toNat_le.mp h.2) hhigh.2⟩

theorem isPrintable_of_word (h : isWordCharacter c) : IsPrintable c := by
  rcases Bool.or_eq_true_iff.mp h with halphanum | hunderscore
  · rcases Bool.or_eq_true_iff.mp halphanum with halpha | hdigit
    · rcases Bool.or_eq_true_iff.mp halpha with hupper | hlower
      · exact isPrintable_of_between (by decide : IsPrintable 'A') (by decide : IsPrintable 'Z')
          (of_decide_eq_true hupper)
      · obtain ⟨hlow, hhigh⟩ := Bool.and_eq_true_iff.mp hlower
        exact isPrintable_of_between (by decide : IsPrintable 'a') (by decide : IsPrintable 'z')
          ⟨of_decide_eq_true hlow, of_decide_eq_true hhigh⟩
    · obtain ⟨hlow, hhigh⟩ := Bool.and_eq_true_iff.mp hdigit
      exact isPrintable_of_between (by decide : IsPrintable '0') (by decide : IsPrintable '9')
        ⟨of_decide_eq_true hlow, of_decide_eq_true hhigh⟩
  · rw [of_decide_eq_true hunderscore]
    decide

theorem isBreak_of_word (h : isWordCharacter c) : isBreak c = false :=
  (isPrintable_of_word h).isBreak_eq

theorem startsPlain_of_word (h : isWordCharacter c) : startsPlain false c rest := by
  simp (disch := decide) [startsPlain, isBreak_of_word h, isBlank_of_word h, isMark, isFlowMark,
    ne_of_word h]

/-! ## Plain texts -/

theorem isBlank_of_startsPlain (h : startsPlain false c rest) : isBlank c = false ∧ c ≠ '#' := by
  rw [startsPlain] at h
  split at h
  next hdash => rw [hdash]; decide
  next =>
    split at h
    next hmark =>
      rw [Bool.or_eq_true, decide_eq_true_eq, decide_eq_true_eq] at hmark
      rcases hmark with rfl | rfl <;> decide
    next =>
      simp only [Bool.and_eq_true, Bool.not_eq_true'] at h
      refine ⟨h.1.1, ?_⟩
      rintro rfl
      simp [isMark] at h

theorem endsWord_append (h : cs ≠ []) : endsWord (cs ++ rest) = endsWord cs := by
  cases cs with
  | nil => contradiction
  | cons c cs => rfl

/-- What starts a plain text does so in front of further characters, too. -/
theorem startsPlain_append (h : startsPlain false c cs) : startsPlain false c (cs ++ rest) := by
  cases cs with
  | nil =>
    -- A mark that may start a plain text does not do so at the end of a word.
    have hmark : ¬ (c = '-' ∨ c = '?' ∨ c = ':') := by
      rintro (rfl | rfl | rfl) <;> simp [startsPlain, endsWord] at h
    simp only [not_or] at hmark
    simpa [startsPlain, hmark] using h
  | cons d cs => exact h

/-- A text without inner marks is read up to where a plain text stops. -/
theorem plainLine_append {afterBlank : Bool} (hmark : hasInnerMark afterBlank cs = false)
    (hbreak : ∀ c ∈ cs, isBreak c = false)
    (hstop : ∀ afterBlank, plainLine false afterBlank rest = some ([], rest)) :
    plainLine false afterBlank (cs ++ rest) = some (cs, rest) := by
  induction cs generalizing afterBlank with
  | nil => exact hstop afterBlank
  | cons c cs ih =>
    rw [hasInnerMark, Bool.or_eq_false_iff, Bool.or_eq_false_iff] at hmark
    obtain ⟨⟨hhash, hcolon⟩, hmark⟩ := hmark
    have hc : isBreak c = false := hbreak c List.mem_cons_self
    have hcolon' : (decide (c = ':') && endsWord (cs ++ rest)) = false := by
      by_cases hcs : cs = []
      · simp [hcs, endsWord] at hcolon
        simp [hcolon]
      · rwa [endsWord_append hcs]
    rw [hc, Bool.or_false] at hmark
    have hmore := ih hmark fun d hd => hbreak d (List.mem_cons_of_mem c hd)
    rw [List.cons_append, plainLine, hc, hhash, hcolon', hmore]
    simp

theorem isPlain_parts (h : isPlain cs) :
    (∃ c rest, cs = c :: rest ∧ startsPlain false c rest) ∧ (∀ c ∈ cs, isBreak c = false) ∧
      dropLastBlanks cs = cs ∧ hasInnerMark true cs = false := by
  cases cs with
  | nil => simp [isPlain] at h
  | cons c rest =>
    simp only [isPlain, Bool.and_eq_true, Bool.not_eq_true'] at h
    obtain ⟨⟨⟨⟨⟨hstarts, hbreak⟩, hlast⟩, hmark⟩, -⟩, -⟩ := h
    refine ⟨⟨c, rest, rfl, hstarts⟩, ?_, ?_, hmark⟩
    · simpa [List.any_eq_false] using hbreak
    · refine List.rdropWhile_eq_self_iff.mpr fun hne => ?_
      rw [List.getLast?_eq_some_getLast hne] at hlast
      simpa using hlast

theorem hasInnerMark_of_word {afterBlank : Bool} (h : ∀ c ∈ cs, isWordCharacter c) :
    hasInnerMark afterBlank cs = false := by
  induction cs generalizing afterBlank with
  | nil => rfl
  | cons c cs ih =>
    have hc : isWordCharacter c := h c List.mem_cons_self
    rw [hasInnerMark, ih fun d hd => h d (List.mem_cons_of_mem c hd)]
    simp (disch := decide) [ne_of_word hc]

/-- Names and numerals need no quotes. -/
theorem IsWord.isPlain (h : IsWord cs) : isPlain cs := by
  obtain ⟨hne, hword⟩ := h
  have hlast : cs.getLast?.any isBlank = false := by
    rw [List.getLast?_eq_some_getLast hne, Option.any_some]
    exact isBlank_of_word (hword _ (List.getLast_mem hne))
  have hbreak : cs.any isBreak = false :=
    List.any_eq_false.mpr fun c hc => by simp [isBreak_of_word (hword c hc)]
  have hmark : hasInnerMark true cs = false := hasInnerMark_of_word hword
  cases cs with
  | nil => contradiction
  | cons c rest =>
    have hc : isWordCharacter c := hword c List.mem_cons_self
    have hdashes : "---".toList.isPrefixOf (c :: rest) = false := by
      simp [List.isPrefixOf, (ne_of_word hc (by decide : isWordCharacter '-' = false)).symm]
    have hdots : "...".toList.isPrefixOf (c :: rest) = false := by
      simp [List.isPrefixOf, (ne_of_word hc (by decide : isWordCharacter '.' = false)).symm]
    rw [Yaml.isPlain, startsPlain_of_word hc, hbreak, hlast, hmark, hdashes, hdots]
    rfl

/-- A key is read up to its colon. -/
theorem readPlain_key {low fuel column : Nat} {fresh : Bool} (h : isPlain cs) :
    readPlain false low (fuel + 1) ⟨column, fresh, cs ++ ':' :: ' ' :: rest⟩ =
      some (cs, ⟨column + cs.length, false, ':' :: ' ' :: rest⟩) := by
  obtain ⟨⟨c, tail, hcs, -⟩, hbreak, hblanks, hmark⟩ := isPlain_parts h
  have hline : plainLine false true (cs ++ ':' :: ' ' :: rest) = some (cs, ':' :: ' ' :: rest) :=
    plainLine_append hmark hbreak fun _ => by simp [plainLine, isBreak, endsWord, isBlank]
  have hahead : breakAhead (':' :: ' ' :: rest) = false := by simp [breakAhead, isBreak, isBlank]
  have hne : cs ≠ [] := by simp [hcs]
  simp [readPlain, hline, hblanks, hne, hahead]

/-- The text starts with a word, if it is not at its end. -/
def StartsWord (cs : List Char) : Prop := ∀ c ∈ cs.head?, isWordCharacter c

theorem StartsWord.readBreaks {low : Nat} (h : StartsWord rest) :
    readBreaks low 0 rest = some ([], 0, rest) := by
  cases rest with
  | nil => rfl
  | cons c rest =>
    have hc : isWordCharacter c := h c rfl
    have hblank := isBlank_of_word hc
    rw [isBlank, Bool.or_eq_false_iff, decide_eq_false_iff_not, decide_eq_false_iff_not] at hblank
    simp [Yaml.readBreaks, isBreak_of_word hc, hblank]

/-- A plain value ends with its line, if the next line is not indented. -/
theorem readPlain_value {low fuel column : Nat} {fresh : Bool} (h : isPlain cs) (hlow : 0 < low)
    (hrest : StartsWord rest) :
    readPlain false low (fuel + 1) ⟨column, fresh, cs ++ '\n' :: rest⟩ =
      some (cs, ⟨0, true, rest⟩) := by
  obtain ⟨⟨c, tail, hcs, -⟩, hbreak, hblanks, hmark⟩ := isPlain_parts h
  have hline : plainLine false true (cs ++ '\n' :: rest) = some (cs, '\n' :: rest) :=
    plainLine_append hmark hbreak fun _ => by simp [plainLine, isBreak]
  have hahead : breakAhead ('\n' :: rest) = true := by simp [breakAhead, isBreak]
  have hbreaks : readBreaks low 0 ('\n' :: rest) = some (['\n'], 0, rest) := by
    simp [readBreaks, isBreak, hrest.readBreaks]
  have hne : cs ≠ [] := by simp [hcs]
  simp [readPlain, hline, hblanks, hne, hahead, hbreaks, hlow]

/-! ## Quoted texts -/

/-- The text with every quote written twice. -/
def doubled (cs : List Char) : List Char :=
  cs.flatMap fun c => if c = '\'' then ['\'', '\''] else [c]

theorem doubled_quote : doubled ('\'' :: cs) = '\'' :: '\'' :: doubled cs := rfl

theorem doubled_cons (h : c ≠ '\'') : doubled (c :: cs) = c :: doubled cs := by
  simp [doubled, h]

theorem mem_doubled (h : c ∈ doubled cs) : c = '\'' ∨ c ∈ cs := by
  obtain ⟨d, hd, hc⟩ := List.mem_flatMap.mp h
  split at hc
  · exact .inl (by simpa using hc)
  · obtain rfl := List.mem_singleton.mp hc
    exact .inr hd

theorem breakAhead_doubled (h : ∀ c ∈ cs, isBreak c = false) :
    breakAhead (doubled cs ++ '\'' :: rest) = false := by
  induction cs with
  | nil => simp [doubled, breakAhead, isBreak, isBlank]
  | cons c cs ih =>
    have hmore := ih fun d hd => h d (List.mem_cons_of_mem c hd)
    have hc : isBreak c = false := h c List.mem_cons_self
    by_cases hquote : c = '\''
    · simp [hquote, doubled_quote, breakAhead, isBreak, isBlank]
    · simp [doubled_cons hquote, breakAhead, hc, hmore]

/-- A text is read back from between its quotes. -/
theorem singleLine_doubled (h : ∀ c ∈ cs, isBreak c = false) (hrest : rest.head? ≠ some '\'') :
    singleLine (doubled cs ++ '\'' :: rest) = some (cs, .closed, rest) := by
  induction cs with
  | nil =>
    have hclosing : ∀ more, '\'' = '\'' → rest = '\'' :: more → False := by
      rintro more - rfl
      exact hrest rfl
    rw [show doubled [] = [] from rfl, List.nil_append, singleLine.eq_3 _ _ hclosing]
    simp
  | cons c cs ih =>
    have hbreak : ∀ d ∈ cs, isBreak d = false := fun d hd => h d (List.mem_cons_of_mem c hd)
    by_cases hquote : c = '\''
    · rw [hquote, doubled_quote, List.cons_append, List.cons_append, singleLine, ih hbreak]
      rfl
    · have hsingle : ∀ more, c = '\'' → doubled cs ++ '\'' :: rest = '\'' :: more → False :=
        fun _ hc => absurd hc hquote
      have hahead : breakAhead (c :: (doubled cs ++ '\'' :: rest)) = false := by
        rw [← List.cons_append, ← doubled_cons hquote]
        exact breakAhead_doubled h
      rw [doubled_cons hquote, List.cons_append, singleLine.eq_3 _ _ hsingle, hahead, ih hbreak]
      simp [hquote]

theorem indentLines_of_no_breaks (h : ∀ c ∈ cs, isBreak c = false) : indentLines false cs = cs := by
  induction cs with
  | nil => rfl
  | cons c cs ih =>
    rw [indentLines, h c List.mem_cons_self, ih fun d hd => h d (List.mem_cons_of_mem c hd)]
    rfl

theorem quoteSingle_eq (h : ∀ c ∈ cs, isBreak c = false) :
    quoteSingle cs = '\'' :: (doubled cs ++ ['\'']) := by
  have hdoubled : ∀ c ∈ doubled cs, isBreak c = false := by
    intro c hc
    rcases mem_doubled hc with rfl | hc
    · decide
    · exact h c hc
  have hlast : cs.getLast?.any isBreak = false := by
    cases hcs : cs.getLast? with
    | none => rfl
    | some c => exact h c (List.mem_of_getLast? hcs)
  have hlines : indentLines false (doubled cs) = doubled cs := indentLines_of_no_breaks hdoubled
  rw [quoteSingle, hlast, ← doubled, hlines]
  simp

/-- A quoted value ends with its closing quote. -/
theorem readQuoted_doubled {fuel column : Nat} (h : ∀ c ∈ cs, isBreak c = false)
    (hrest : rest.head? ≠ some '\'') :
    readQuoted singleLine (fuel + 1) column (doubled cs ++ '\'' :: rest) =
      some (cs, ⟨column + ((doubled cs).length + 1), false, rest⟩) := by
  have hlength : (doubled cs ++ '\'' :: rest).length - rest.length = (doubled cs).length + 1 := by
    simp only [List.length_append, List.length_cons]
    omega
  simp only [readQuoted, singleLine_doubled h hrest, hlength, Option.bind_eq_bind,
    Option.bind_some]

/-! ## Printable texts -/

/-- The ways to write a printable text on the rest of a line. -/
inductive Written : List Char → Style → List Char → Prop
  /-- Without quotes. -/
  | plain {cs : List Char} (h : ∀ c ∈ cs, IsPrintable c) (hplain : isPlain cs) : Written cs .plain cs
  /-- Between single quotes. -/
  | single {cs : List Char} (h : ∀ c ∈ cs, IsPrintable c) : Written (quoteSingle cs) .single cs

/-- What is written is printable, too. -/
theorem Written.isPrintable {written : List Char} {style : Style} (h : Written written style cs) :
    ∀ c ∈ written, IsPrintable c := by
  cases h with
  | plain h _ => exact h
  | single h =>
    rw [quoteSingle_eq fun c hc => (h c hc).isBreak_eq]
    intro c hc
    simp only [List.mem_cons, List.mem_append, List.not_mem_nil, or_false] at hc
    rcases hc with rfl | hdoubled | rfl
    · decide
    · rcases mem_doubled hdoubled with rfl | hc
      · decide
      · exact h c hc
    · decide

theorem exists_of_hasPair {first second : Char → Bool} (h : hasPair first second cs) :
    (∃ c ∈ cs, first c) ∧ ∃ c ∈ cs, second c := by
  induction cs with
  | nil => simp [hasPair] at h
  | cons c cs ih =>
    cases cs with
    | nil => simp [hasPair] at h
    | cons d cs =>
      rw [hasPair, Bool.or_eq_true, Bool.and_eq_true] at h
      rcases h with ⟨hfirst, hsecond⟩ | hmore
      · exact ⟨⟨c, by simp, hfirst⟩, d, by simp, hsecond⟩
      · obtain ⟨⟨e, he, hfirst⟩, f, hf, hsecond⟩ := ih hmore
        exact ⟨⟨e, List.mem_cons_of_mem c he, hfirst⟩, f, List.mem_cons_of_mem c hf, hsecond⟩

/-- A printable text is plain where that is safe, else between single quotes. -/
theorem styleOf_eq (h : ∀ c ∈ cs, IsPrintable c) :
    Style.of cs = if !needsQuotes cs && isPlain cs then .plain else .single := by
  have hbreak : ∀ c ∈ cs, isBreak c = false := fun c hc => (h c hc).isBreak_eq
  have hescapes : needsEscapes cs = false := by
    rw [needsEscapes, Bool.or_eq_false_iff]
    refine ⟨List.any_eq_false.mpr fun c hc => by simp [(h c hc).isShown], ?_⟩
    refine Bool.eq_false_iff.mpr fun hpair => ?_
    obtain ⟨-, c, hc, hsecond⟩ := exists_of_hasPair hpair
    simp [hbreak c hc] at hsecond
  have hlines : cs.any (· = '\n') = false := by
    refine List.any_eq_false.mpr fun c hc => ?_
    have := hbreak c hc
    simp_all [isBreak]
  have hindented : hasPair isBreak (· = ' ') cs = false := by
    refine Bool.eq_false_iff.mpr fun hpair => ?_
    obtain ⟨⟨c, hc, hfirst⟩, -⟩ := exists_of_hasPair hpair
    simp [hbreak c hc] at hfirst
  rw [Style.of, hescapes, hlines, hindented]
  simp

/-- **A printable text is written so that it can be read back.** -/
theorem written_writeScalar (h : ∀ c ∈ cs, IsPrintable c) :
    Written (writeScalar cs) (Style.of cs) cs := by
  rw [writeScalar, styleOf_eq h]
  by_cases hplain : !needsQuotes cs && isPlain cs
  · rw [if_pos hplain]
    exact .plain h (Bool.and_eq_true_iff.mp hplain).2
  · rw [if_neg hplain]
    exact .single h

/-- What is written plainly is not taken for something else. -/
theorem needsQuotes_of_plain (h : ∀ c ∈ cs, IsPrintable c) (hstyle : Style.of cs = .plain) :
    needsQuotes cs = false := by
  rw [styleOf_eq h] at hstyle
  split at hstyle
  · simp_all
  · cases hstyle

/-! ## Numerals -/

theorem isWord_toString (n : Nat) : IsWord (toString n).toList := by
  rw [Nat.toString_eq_repr, Nat.toList_repr]
  refine ⟨Nat.toDigits_ne_nil, fun c hc => ?_⟩
  have hdigit : c.isDigit := Json.isDigit_of_mem_toDigits hc
  exact Bool.or_eq_true_iff.mpr (.inl (Bool.or_eq_true_iff.mpr (.inr hdigit)))

theorem digitIn?_of_isDigit (h : c.isDigit) : Text.digitIn? 10 c = some (c.toNat - '0'.toNat) := by
  have hlt : c.toNat - '0'.toNat < 10 := by
    have hrange := Char.isDigit_iff_toNat.mp h
    simp only [Char.reduceToNat] at hrange ⊢
    omega
  rw [Text.digitIn?, Text.hexValue?, if_pos h, Option.filter_some, if_pos (decide_eq_true hlt)]

theorem digitsValue?_of_isDigit (h : ∀ c ∈ cs, c.isDigit) :
    Text.digitsValue? 10 cs = some (Nat.ofDigitChars 10 cs 0) := by
  have hdigits : cs.mapM (Text.digitIn? 10) = some (cs.map fun c => c.toNat - '0'.toNat) := by
    induction cs with
    | nil => rfl
    | cons c cs ih =>
      obtain ⟨hc, hcs⟩ := List.forall_mem_cons.mp h
      rw [List.mapM_cons, digitIn?_of_isDigit hc, ih hcs]
      rfl
  rw [Text.digitsValue?, hdigits, Option.map_some, List.foldl_map]
  rfl

theorem basedNumber?_of_isDigit (h : ∀ c ∈ cs, c.isDigit) : basedNumber? cs = none := by
  have hletter : ∀ d rest, d.isDigit = false → cs ≠ '0' :: d :: rest := by
    rintro d rest hd rfl
    simp [h d (by simp)] at hd
  rw [basedNumber?.eq_def]
  split
  · exact absurd rfl (hletter 'x' _ (by decide))
  · exact absurd rfl (hletter 'o' _ (by decide))
  · exact absurd rfl (hletter 'b' _ (by decide))
  · rfl

theorem dropSign_of_isDigit (h : ∀ c ∈ cs, c.isDigit) :
    dropSign '+' cs = cs ∧ dropAnySign cs = cs := by
  cases cs with
  | nil => exact ⟨rfl, rfl⟩
  | cons c cs =>
    have hc : c.isDigit := h c List.mem_cons_self
    have hplus : c ≠ '+' := fun heq => by simp [heq] at hc
    have hminus : c ≠ '-' := fun heq => by simp [heq] at hc
    simp [dropSign, dropAnySign, hplus, hminus]

theorem isZeroPadded_toDigits (n : Nat) : isZeroPadded (Nat.toDigits 10 n) = false := by
  have hdigit : ∀ c ∈ Nat.toDigits 10 n, c.isDigit := fun c => Json.isDigit_of_mem_toDigits
  rw [isZeroPadded, (dropSign_of_isDigit hdigit).2]
  rcases Json.toDigits_head_ne_zero n with hzero | ⟨c, ds, hds, hne⟩
  · rw [hzero]
    rfl
  · rw [hds]
    split
    next heq => exact absurd (by rw [(List.cons.inj heq).1]; decide) hne
    next => rfl

/-- **A printed number is read back.** -/
theorem readUnsigned?_toString {n bound : Nat} (h : n < bound) :
    readUnsigned? bound (toString n).toList = some n := by
  have hdigit : ∀ c ∈ Nat.toDigits 10 n, c.isDigit := fun c => Json.isDigit_of_mem_toDigits
  have hvalue : digitsIn? 10 (Nat.toDigits 10 n) = some n := by
    rw [digitsIn?, digitsValue?_of_isDigit hdigit, Nat.ofDigitChars_ten_toDigits]
    simp [Nat.toDigits_ne_nil]
  rw [Nat.toString_eq_repr, Nat.toList_repr, readUnsigned?, (dropSign_of_isDigit hdigit).1,
    basedNumber?_of_isDigit hdigit, isZeroPadded_toDigits, hvalue]
  simp [h]

end MeshDoctor.Yaml
