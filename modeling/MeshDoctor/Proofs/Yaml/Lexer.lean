import MeshDoctor.Proofs.Yaml.Scalar
import MeshDoctor.Yaml.Lexer

/-!
# YAML — the tokens of a mapping

A mapping at the top of a document has one entry on each line. A key takes its token, and the first
one the start of the mapping, only when the lexer comes to the colon behind it.

* `Entry`, `Entry.IsReadable`: an entry, and that its line can be read back.
* `Lexer.between`: the lexer between two tokens outside of keys and collections in flow form.
* `run_key`, `run_value`, `run_scalar`: the tokens of a line, one by one.
* `run_entries`: the tokens of all lines, from the first to the last.
* **`tokens?_lines`**: a mapping has the tokens of its entries.
-/

namespace MeshDoctor.Yaml

/-! ## Entries -/

/-- A name that is a key: a word that is not too long. -/
def IsKey (name : List Char) : Prop :=
  IsWord name ∧ name.foldl (fun size c => size + c.utf8Size) 0 ≤ keyLimit

instance : DecidablePred IsKey := fun _ => inferInstanceAs (Decidable (_ ∧ _))

/-- An entry of a mapping on a line of its own. -/
structure Entry where
  name : String
  /-- The way the text is written. -/
  style : Style
  text : List Char
  /-- What is written after the colon. -/
  written : List Char

namespace Entry

/-- The line of an entry. -/
def line (e : Entry) : List Char := writeEntry e.name e.written

/-- The tokens of an entry. -/
def tokens (e : Entry) : List Token :=
  [.key, .scalar .plain e.name.toList, .value, .scalar e.style e.text]

/-- The line of the entry can be read back. -/
structure IsReadable (e : Entry) : Prop where
  isKey : IsKey e.name.toList
  isWritten : Written e.written e.style e.text

end Entry

/-- The lines of entries. -/
def lines (es : List Entry) : List Char := es.flatMap Entry.line

variable {e : Entry} {es : List Entry} {rest : List Char} {columns : List Nat} {tokens : List Token}

/-- What is written starts with a character that is not passed over. -/
theorem Written.exists_cons {written text : List Char} {style : Style}
    (h : Written written style text) :
    ∃ c more, written = c :: more ∧ isBreak c = false ∧ isBlank c = false ∧ c ≠ '#' := by
  cases h with
  | plain h hplain =>
    obtain ⟨⟨c, more, hcs, hstarts⟩, hbreak, -⟩ := isPlain_parts hplain
    exact ⟨c, more, hcs, hbreak c (by simp [hcs]), isBlank_of_startsPlain hstarts⟩
  | single h =>
    rw [quoteSingle_eq fun c hc => (h c hc).isBreak_eq]
    exact ⟨'\'', _, rfl, by decide, by decide, by decide⟩

theorem Entry.IsReadable.line_eq (h : e.IsReadable) :
    e.line = e.name.toList ++ ':' :: ' ' :: (e.written ++ ['\n']) := by
  have hlast : e.written.getLast?.any isBreak = false := by
    cases hlast : e.written.getLast? with
    | none => rfl
    | some c => exact (h.isWritten.isPrintable c (List.mem_of_getLast? hlast)).isBreak_eq
  rw [Entry.line, writeEntry, hlast]
  simp

theorem startsWord_lines (h : ∀ e ∈ es, e.IsReadable) : StartsWord (lines es) := by
  cases es with
  | nil => simp [StartsWord, lines]
  | cons e es =>
    have he := h e List.mem_cons_self
    obtain ⟨⟨hne, hword⟩, -⟩ := he.isKey
    rw [lines, List.flatMap_cons, he.line_eq]
    cases hname : e.name.toList with
    | nil => exact absurd hname hne
    | cons c more =>
      rintro d hd
      obtain rfl : c = d := by simpa using hd
      exact hword c (by simp [hname])

/-! ## Single tokens -/

namespace Lexer

/-- The lexer between two tokens, outside of keys and of collections in flow form. -/
def between (columns : List Nat) (tokens : List Token) (c : Cursor) : Lexer :=
  ⟨c, columns, none, [], [], tokens⟩

/-- One token further. -/
theorem run_succ {l l' l'' : Lexer} {fuel : Nat} (hadvance : l.advance = some l')
    (hne : l'.cursor.rest ≠ []) (hstep : l'.step = some l'') : l.run (fuel + 1) = l''.run fuel := by
  simp [run, hadvance, hne, hstep]

theorem advance_between (tokens : List Token) (hcolumns : columns = [] ∨ columns = [0])
    (c : Cursor) :
    (between columns tokens c).advance = some (between columns tokens (c.skip false)) := by
  rcases hcolumns with rfl | rfl <;> simp [advance, between, flow, missesKey, closeBlocks]

theorem atMarker_of_column {c : Cursor} (h : c.column ≠ 0) (marker : String) :
    c.atMarker marker = false := by
  simp [Cursor.atMarker, h]

theorem atMarker_of_head {c : Cursor} {d : Char} {more : List Char} {marker : String}
    (hrest : c.rest = d :: more) (h : marker.toList.head? ≠ some d) (hne : marker.toList ≠ []) :
    c.atMarker marker = false := by
  cases hmarker : marker.toList with
  | nil => exact absurd hmarker hne
  | cons m ms =>
    have hdiff : m ≠ d := by simpa [hmarker] using h
    simp [Cursor.atMarker, hrest, hmarker, List.isPrefixOf?, hdiff]

/-- A plain scalar is next where no marker is. -/
theorem step_plain {l : Lexer} {d : Char} {more : List Char}
    (hdashes : l.cursor.atMarker "---" = false) (hdots : l.cursor.atMarker "..." = false)
    (hrest : l.cursor.rest = d :: more) (hdirective : d ≠ '%' ∨ l.cursor.column ≠ 0)
    (hstarts : startsPlain l.flow d more) : l.step = l.plainScalar := by
  have hpercent : (decide (d = '%') && decide (l.cursor.column = 0)) = false := by
    rcases hdirective with h | h <;> simp [h]
  simp [step, hdashes, hdots, hrest, hpercent, hstarts]

/-- The start of the mapping, before its first key. -/
def opening (columns : List Nat) : List Token := if columns = [] then [.blockMapping] else []

/-- The cursor in front of the colon of an entry. -/
def atColon (e : Entry) (rest : List Char) : Cursor :=
  ⟨e.name.toList.length, false, ':' :: ' ' :: (e.written ++ '\n' :: rest)⟩

/-- The lexer in front of the colon of an entry, with its key at the start of the line. -/
def beforeColon (e : Entry) (rest : List Char) (columns : List Nat) (tokens : List Token) : Lexer :=
  { between columns (.scalar .plain e.name.toList :: tokens) (atColon e rest) with
    candidate := some
      ⟨⟨0, true, e.name.toList ++ (atColon e rest).rest⟩, tokens.length, columns.head? = some 0⟩ }

theorem plainScalar_key (h : e.IsReadable) :
    (between columns tokens ⟨0, true, e.name.toList ++ (atColon e rest).rest⟩).plainScalar =
      some (beforeColon e rest columns tokens) := by
  have hread : ∀ low fuel, readPlain false low (fuel + 1)
      ⟨0, true, e.name.toList ++ (atColon e rest).rest⟩ =
        some (e.name.toList, ⟨0 + e.name.toList.length, false, (atColon e rest).rest⟩) :=
    fun low fuel => readPlain_key h.isKey.1.isPlain
  simp [plainScalar, saveCandidate, dropCandidate, between, flow, hread, emit, beforeColon]
  rfl

/-- The key of an entry. -/
theorem run_key {c : Cursor} (h : e.IsReadable) (hcolumns : columns = [] ∨ columns = [0])
    (hc : c.skip false = ⟨0, true, e.line ++ rest⟩) (fuel : Nat) :
    (between columns tokens c).run (fuel + 1) = (beforeColon e rest columns tokens).run fuel := by
  have hline : e.line ++ rest = e.name.toList ++ (atColon e rest).rest := by
    rw [h.line_eq]
    simp [atColon]
  rw [hline] at hc
  have hadvance := advance_between tokens hcolumns c
  obtain ⟨d, more, hname⟩ := List.exists_cons_of_ne_nil h.isKey.1.1
  have hd : isWordCharacter d := h.isKey.1.2 d (by simp [hname])
  have hrest : (between columns tokens (c.skip false)).cursor.rest =
      d :: (more ++ (atColon e rest).rest) := by
    rw [between, hc, hname, List.cons_append]
  refine run_succ hadvance (by simp [hrest]) ?_
  rw [step_plain ?_ ?_ hrest ?_ ?_, hc, plainScalar_key h]
  · refine atMarker_of_head hrest ?_ (by decide)
    simpa using (ne_of_word hd (by decide)).symm
  · refine atMarker_of_head hrest ?_ (by decide)
    simpa using (ne_of_word hd (by decide)).symm
  · exact .inl (ne_of_word hd (by decide))
  · exact startsPlain_of_word hd

theorem reaches_atColon (h : e.IsReadable) {position : Nat} {required : Bool} :
    Candidate.reaches ⟨⟨0, true, e.name.toList ++ (atColon e rest).rest⟩, position, required⟩
      (atColon e rest) := by
  obtain ⟨⟨-, hword⟩, hfits⟩ := h.isKey
  have hkey : Cursor.upTo ⟨0, true, e.name.toList ++ (atColon e rest).rest⟩ (atColon e rest) =
      e.name.toList := by
    simp [Cursor.upTo]
  have hbreak : e.name.toList.all (fun d => !isBreak d) :=
    List.all_eq_true.mpr fun d hd => by simp [isBreak_of_word (hword d hd)]
  rw [Candidate.reaches, hkey, hbreak, Bool.true_and]
  exact decide_eq_true hfits

/-- The colon of an entry. Its key gets its token, and the first key opens the mapping. -/
theorem run_value (h : e.IsReadable) (hcolumns : columns = [] ∨ columns = [0]) (fuel : Nat) :
    (beforeColon e rest columns tokens).run (fuel + 1) =
      (between [0] (.value :: .scalar .plain e.name.toList :: .key :: (opening columns ++ tokens))
        ⟨e.name.toList.length + 1, false, ' ' :: (e.written ++ '\n' :: rest)⟩).run fuel := by
  have hskip : (atColon e rest).skip false = atColon e rest := by
    simp [atColon, Cursor.skip, Cursor.skipFrom, isBreak]
  have hadvance : (beforeColon e rest columns tokens).advance =
      some (beforeColon e rest columns tokens) := by
    rcases hcolumns with rfl | rfl <;>
      simp [advance, beforeColon, between, flow, hskip, missesKey, reaches_atColon h, closeBlocks]
  have hcolumn : (atColon e rest).column ≠ 0 := by
    simpa [atColon] using h.isKey.1.1
  have hvalue : (beforeColon e rest columns tokens).step =
      (beforeColon e rest columns tokens).value := by
    have hrest : (atColon e rest).rest = ':' :: ' ' :: (e.written ++ '\n' :: rest) := rfl
    simp [step, beforeColon, between, atMarker_of_column hcolumn, hrest, startsPlain, endsWord,
      isBlank]
  have hpast : (atColon e rest).past 1 false =
      ⟨e.name.toList.length + 1, false, ' ' :: (e.written ++ '\n' :: rest)⟩ := rfl
  refine run_succ hadvance (by simp [beforeColon, between, atColon]) ?_
  rw [hvalue]
  rcases hcolumns with rfl | rfl <;>
    simp [value, beforeColon, between, Option.filter, reaches_atColon h, openBlock, flow, low,
      insertFromEnd, emit, opening, hpast]

theorem skip_of_startsWord (h : StartsWord rest) :
    Cursor.skipFrom false false true 0 rest = ⟨0, true, rest⟩ := by
  cases rest with
  | nil => rfl
  | cons d more =>
    have hd : isWordCharacter d := h d rfl
    simp (disch := decide) [Cursor.skipFrom, isBreak_of_word hd, ne_of_word hd]

theorem step_of_plain {text : List Char} {column : Nat} (h : isPlain text) (hcolumn : column ≠ 0)
    (hrest : StartsWord rest) :
    (between [0] tokens ⟨column, false, text ++ '\n' :: rest⟩).step =
      some (between [0] (.scalar .plain text :: tokens) ⟨0, true, rest⟩) := by
  obtain ⟨⟨d, more, htext, hstarts⟩, -⟩ := isPlain_parts h
  have hread : ∀ fuel, readPlain false 1 (fuel + 1) ⟨column, false, text ++ '\n' :: rest⟩ =
      some (text, ⟨0, true, rest⟩) := fun fuel => readPlain_value h (by decide) hrest
  have hcursor : (between [0] tokens ⟨column, false, text ++ '\n' :: rest⟩).cursor.rest =
      d :: (more ++ '\n' :: rest) := by
    rw [between, htext, List.cons_append]
  rw [step_plain (atMarker_of_column hcolumn _) (atMarker_of_column hcolumn _) hcursor
    (.inr hcolumn) (startsPlain_append hstarts)]
  simp [plainScalar, saveCandidate, between, flow, low, hread, emit]

theorem step_of_single (tokens : List Token) (rest : List Char) {text : List Char} {column : Nat}
    (h : ∀ c ∈ text, isBreak c = false) (hcolumn : column ≠ 0) :
    ∃ after, (between [0] tokens ⟨column, false, quoteSingle text ++ '\n' :: rest⟩).step =
      some (between [0] (.scalar .single text :: tokens) ⟨after, false, '\n' :: rest⟩) := by
  have hread : ∀ fuel, readQuoted singleLine (fuel + 1) (column + 1)
      (doubled text ++ '\'' :: '\n' :: rest) =
        some (text, ⟨column + 1 + ((doubled text).length + 1), false, '\n' :: rest⟩) :=
    fun fuel => readQuoted_doubled h (by simp)
  have hcursor : quoteSingle text ++ '\n' :: rest =
      '\'' :: (doubled text ++ '\'' :: '\n' :: rest) := by
    rw [quoteSingle_eq h]
    simp
  refine ⟨column + 1 + ((doubled text).length + 1), ?_⟩
  rw [hcursor]
  simp [step, between, atMarker_of_column, hcolumn, startsPlain, isMark, quotedScalar, saveCandidate,
    hread, emit]

/-- The text of an entry up to the end of its line. -/
theorem run_scalar (tokens : List Token) {written text : List Char} {style : Style}
    (h : Written written style text) (hrest : StartsWord rest) (column fuel : Nat) :
    ∃ c, c.skip false = ⟨0, true, rest⟩ ∧
      (between [0] tokens ⟨column, false, ' ' :: (written ++ '\n' :: rest)⟩).run (fuel + 1) =
        (between [0] (.scalar style text :: tokens) c).run fuel := by
  obtain ⟨d, more, hwritten, hbreak, hblank, hhash⟩ := h.exists_cons
  have hskip : Cursor.skip false ⟨column, false, ' ' :: (written ++ '\n' :: rest)⟩ =
      ⟨column + 1, false, written ++ '\n' :: rest⟩ := by
    rw [isBlank, Bool.or_eq_false_iff, decide_eq_false_iff_not, decide_eq_false_iff_not] at hblank
    have hspace : isBreak ' ' = false := by decide
    simp [hwritten, Cursor.skip, Cursor.skipFrom, hspace, hbreak, hhash, hblank]
  have hadvance := advance_between tokens (.inr rfl)
    ⟨column, false, ' ' :: (written ++ '\n' :: rest)⟩
  rw [hskip] at hadvance
  have hne : (between [0] tokens ⟨column + 1, false, written ++ '\n' :: rest⟩).cursor.rest ≠ [] := by
    simp [between]
  have hcolumn : column + 1 ≠ 0 := Nat.succ_ne_zero column
  cases h with
  | plain h hplain =>
    have hnext : Cursor.skip false ⟨0, true, rest⟩ = ⟨0, true, rest⟩ := skip_of_startsWord hrest
    exact ⟨_, hnext, run_succ hadvance hne (step_of_plain hplain hcolumn hrest)⟩
  | single h =>
    obtain ⟨after, hstep⟩ := step_of_single tokens rest (fun c hc => (h c hc).isBreak_eq) hcolumn
    have hnext : Cursor.skip false ⟨after, false, '\n' :: rest⟩ = ⟨0, true, rest⟩ := by
      simp [Cursor.skip, Cursor.skipFrom, isBreak, skip_of_startsWord hrest]
    exact ⟨_, hnext, run_succ hadvance hne hstep⟩

/-! ## Lines -/

/-- An entry, up to the next line. -/
theorem run_entry (tokens : List Token) {c : Cursor} (h : e.IsReadable)
    (hcolumns : columns = [] ∨ columns = [0]) (hrest : StartsWord rest)
    (hc : c.skip false = ⟨0, true, e.line ++ rest⟩) (fuel : Nat) :
    ∃ c', c'.skip false = ⟨0, true, rest⟩ ∧
      (between columns tokens c).run (fuel + 3) =
        (between [0] (e.tokens.reverse ++ (opening columns ++ tokens)) c').run fuel := by
  obtain ⟨c', hskip, hscalar⟩ := run_scalar (.value :: .scalar .plain e.name.toList :: .key ::
    (opening columns ++ tokens)) h.isWritten hrest (e.name.toList.length + 1) fuel
  exact ⟨c', hskip, (run_key h hcolumns hc _).trans ((run_value h hcolumns _).trans hscalar)⟩

theorem run_end {c : Cursor} (hc : c.skip false = ⟨0, true, []⟩) (fuel : Nat) :
    (between [0] tokens c).run (fuel + 1) = some (.blockEnd :: tokens) := by
  have hadvance := advance_between tokens (.inr rfl) c
  rw [hc] at hadvance
  rw [run, hadvance]
  simp [between, closeBlocks, flow, dropCandidate]

/-- All further entries of a mapping that is open. -/
theorem run_entries {c : Cursor} (h : ∀ e ∈ es, e.IsReadable)
    (hc : c.skip false = ⟨0, true, lines es⟩) {fuel : Nat} (hfuel : 3 * es.length < fuel) :
    (between [0] tokens c).run fuel =
      some (.blockEnd :: ((es.flatMap Entry.tokens).reverse ++ tokens)) := by
  induction es generalizing c tokens fuel with
  | nil =>
    obtain ⟨fuel, rfl⟩ := Nat.exists_eq_add_of_lt hfuel
    exact run_end hc _
  | cons e es ih =>
    obtain ⟨he, hes⟩ := List.forall_mem_cons.mp h
    rw [List.length_cons] at hfuel
    obtain ⟨fuel, rfl⟩ : ∃ n, fuel = n + 3 := ⟨fuel - 3, by omega⟩
    obtain ⟨c', hc', hrun⟩ := run_entry tokens he (.inr rfl) (startsWord_lines hes) hc fuel
    rw [hrun, ih hes hc' (by omega)]
    simp [opening]

end Lexer

theorem printable_or_newline_of_mem_lines {c : Char} (h : ∀ e ∈ es, e.IsReadable)
    (hc : c ∈ lines es) : IsPrintable c ∨ c = '\n' := by
  obtain ⟨e, he, hc⟩ := List.mem_flatMap.mp hc
  rw [(h e he).line_eq] at hc
  simp only [List.mem_append, List.mem_cons, List.not_mem_nil, or_false] at hc
  rcases hc with hname | rfl | rfl | hwritten | rfl
  · exact .inl (isPrintable_of_word ((h e he).isKey.1.2 c hname))
  · exact .inl (by decide)
  · exact .inl (by decide)
  · exact .inl ((h e he).isWritten.isPrintable c hwritten)
  · exact .inr rfl

theorem unifyBreaks_eq {cs : List Char} (h : ∀ c ∈ cs, IsPrintable c ∨ c = '\n') :
    unifyBreaks cs = cs := by
  induction cs with
  | nil => rfl
  | cons c cs ih =>
    obtain ⟨hc, hcs⟩ := List.forall_mem_cons.mp h
    have hreturn : c ≠ '\r' := by
      rintro rfl
      revert hc
      decide
    have hnext : c ≠ '\u0085' := by
      rintro rfl
      revert hc
      decide
    rw [unifyBreaks.eq_3 _ _ fun _ hc _ => hreturn hc, ih hcs]
    simp [hreturn, hnext]

theorem length_le_length_lines (h : ∀ e ∈ es, e.IsReadable) :
    3 * es.length ≤ (lines es).length := by
  induction es with
  | nil => exact Nat.zero_le _
  | cons e es ih =>
    obtain ⟨he, hes⟩ := List.forall_mem_cons.mp h
    have hmore := ih hes
    rw [lines, List.flatMap_cons, he.line_eq, ← lines]
    simp only [List.length_append, List.length_cons]
    omega

/-- **A mapping has the tokens of its entries**, one after the other. -/
theorem tokens?_lines (h : ∀ e ∈ es, e.IsReadable) (hne : es ≠ []) :
    tokens? (lines es) = some (.blockMapping :: (es.flatMap Entry.tokens ++ [.blockEnd])) := by
  have hchars : ∀ c ∈ lines es, IsPrintable c ∨ c = '\n' := fun c hc =>
    printable_or_newline_of_mem_lines h hc
  have hallowed : (lines es).all isAllowed := by
    refine List.all_eq_true.mpr fun c hc => ?_
    rcases hchars c hc with hprintable | rfl
    · exact hprintable.isAllowed
    · decide
  have hstart : Cursor.skip false ⟨0, true, lines es⟩ = ⟨0, true, lines es⟩ :=
    Lexer.skip_of_startsWord (startsWord_lines h)
  have hfuel := length_le_length_lines h
  have hrun : (Lexer.between [] [] ⟨0, true, lines es⟩).run ((lines es).length + 1) =
      some (Token.blockMapping :: (es.flatMap Entry.tokens ++ [.blockEnd])).reverse := by
    cases es with
    | nil => contradiction
    | cons e es =>
      obtain ⟨he, hes⟩ := List.forall_mem_cons.mp h
      rw [List.length_cons] at hfuel
      obtain ⟨fuel, hlength⟩ : ∃ n, (lines (e :: es)).length + 1 = n + 3 :=
        ⟨(lines (e :: es)).length - 2, by omega⟩
      obtain ⟨c, hc, hfirst⟩ := Lexer.run_entry [] he (.inl rfl) (startsWord_lines hes)
        hstart fuel
      rw [hlength, hfirst, Lexer.run_entries hes hc (by omega)]
      simp [Lexer.opening]
  rw [tokens?, hallowed, unifyBreaks_eq hchars]
  change Option.map List.reverse (Lexer.run _ (Lexer.between [] [] _)) = _
  rw [hrun, Option.map_some, List.reverse_reverse]

end MeshDoctor.Yaml
