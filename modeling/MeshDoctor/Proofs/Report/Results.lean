import MeshDoctor.Proofs.Text.Numeral
import MeshDoctor.Proofs.Text.Words
import MeshDoctor.Report.Results

/-!
# Reports — what they show

* `Text.splitLines_intercalate`: lines that are joined are read back.
* `Table.bodyLines_eq_intercalate`: the lines of rows are one block for each row.
* `Table.exists_getElem?_rowLines`: the lines of a cell stand side by side with those of its row.
* `Table.splitLines_render`: the lines of a table.
* **`reportText_shows`**: a report has one block of lines for each record, in order, which shows its
  number, description, status and details, and ends with the counts.
-/

namespace MeshDoctor

/-! ## Lines -/

namespace Text

theorem notMem_of_mem_splitOn {α : Type} [DecidableEq α] {sep : α} {piece : List α} :
    ∀ {cs : List α}, piece ∈ cs.splitOn sep → sep ∉ piece
  | [], h => by
    rw [List.splitOn_nil, List.mem_singleton] at h
    rw [h]
    exact List.not_mem_nil
  | c :: rest, h => by
    obtain ⟨first, more, hrest⟩ := List.exists_cons_of_ne_nil (List.splitOn_ne_nil sep rest)
    have hfirst : sep ∉ first := notMem_of_mem_splitOn (hrest ▸ List.mem_cons_self)
    have hmore : ∀ p ∈ more, sep ∉ p := fun p hp =>
      notMem_of_mem_splitOn (hrest ▸ List.mem_cons_of_mem first hp)
    rw [List.splitOn_cons_eq_if_modifyHead, hrest] at h
    split at h
    · rcases List.mem_cons.mp h with rfl | h
      · exact List.not_mem_nil
      · exact notMem_of_mem_splitOn (hrest ▸ h)
    · next hne =>
      rcases List.mem_cons.mp h with rfl | h
      · rw [List.mem_cons, not_or]
        exact ⟨fun heq => hne (beq_iff_eq.mpr heq.symm), hfirst⟩
      · exact hmore piece h

theorem notMem_of_mem_splitLines {text piece : String} (h : piece ∈ splitLines text) :
    '\n' ∉ piece.toList := by
  obtain ⟨cs, hcs, rfl⟩ := List.mem_map.mp h
  rw [String.toList_ofList]
  exact notMem_of_mem_splitOn hcs

/-- **Lines that are joined are read back.** -/
theorem splitLines_intercalate {lines : List String} (h : ∀ line ∈ lines, '\n' ∉ line.toList)
    (hne : lines ≠ []) : splitLines (String.intercalate "\n" lines) = lines := by
  have hpieces : ∀ cs ∈ lines.map String.toList, '\n' ∉ cs := by
    intro cs hcs
    obtain ⟨line, hline, rfl⟩ := List.mem_map.mp hcs
    exact h line hline
  have hsplit := List.splitOn_intercalate '\n' hpieces (mt List.map_eq_nil_iff.mp hne)
  rw [splitLines, String.toList_intercalate]
  change (List.splitOn '\n' (List.intercalate ['\n'] _)).map String.ofList = lines
  rw [hsplit, List.map_map]
  simp

/-- Lines before and after a line end are lines of the whole. -/
theorem splitLines_append (first rest : String) :
    splitLines (first ++ "\n" ++ rest) = splitLines first ++ splitLines rest := by
  have hcut : (first ++ "\n" ++ rest).toList = first.toList ++ '\n' :: rest.toList := by simp
  rw [splitLines, hcut, List.splitOn_append_cons_self, List.map_append]
  rfl

/-! ## Joined texts -/

theorem notMem_append {c : Char} {first rest : String} (hfirst : c ∉ first.toList)
    (hrest : c ∉ rest.toList) : c ∉ (first ++ rest).toList := by
  rw [String.toList_append, List.mem_append, not_or]
  exact ⟨hfirst, hrest⟩

theorem infix_intercalate {sep piece : String} {pieces : List String} (h : piece ∈ pieces) :
    piece.toList <:+: (String.intercalate sep pieces).toList := by
  induction pieces with
  | nil => cases h
  | cons first rest ih =>
    cases rest with
    | nil =>
      have hlone : String.intercalate sep [first] = piece :=
        String.intercalate_singleton.trans (List.mem_singleton.mp h).symm
      exact hlone ▸ List.infix_rfl
    | cons second rest =>
      rw [String.intercalate_cons_cons, String.toList_append, String.toList_append]
      rcases List.mem_cons.mp h with rfl | h
      · exact ((List.prefix_append _ _).trans (List.prefix_append _ _)).isInfix
      · exact (ih h).trans (List.suffix_append _ _).isInfix

theorem notMem_intercalate {c : Char} {sep : String} {pieces : List String} (hsep : c ∉ sep.toList)
    (h : ∀ piece ∈ pieces, c ∉ piece.toList) : c ∉ (String.intercalate sep pieces).toList := by
  induction pieces with
  | nil => simp
  | cons first rest ih =>
    have hfirst := h first List.mem_cons_self
    have hrest := ih fun piece hpiece => h piece (List.mem_cons_of_mem _ hpiece)
    cases rest with
    | nil => rwa [String.intercalate_singleton]
    | cons second rest =>
      rw [String.intercalate_cons_cons]
      exact notMem_append (notMem_append hfirst hsep) hrest

end Text

/-! ## Cells -/

namespace Cell

variable {c : Cell} {n : Nat}

/-- The line of a cell is shown, in whatever colour and width. -/
theorem contains_line {text : String} (h : c.lines[n]? = some text) (styled : Bool) (width : Nat) :
    Text.contains text (c.line styled width n) := by
  have hpadded (rest : String) : text.toList <:+: (" " ++ text ++ rest ++ " ").toList :=
    ⟨[' '], rest.toList ++ [' '], by simp⟩
  have hpainted (colour : Colour) (padded : String) :
      padded.toList <:+: (colour.paint padded).toList :=
    ⟨(escape ("38;5;" ++ toString colour.code)).toList, (escape "39").toList, by
      rw [Colour.paint, String.toList_append, String.toList_append]⟩
  rw [Text.contains_iff, line, h]
  dsimp only
  split
  · split
    · exact (hpadded _).trans (hpainted _ _)
    · exact hpadded _
  · exact hpadded _

/-- Cells of single lines keep to the line. -/
theorem lineEnd_notMem_line (h : ∀ text ∈ c.lines, '\n' ∉ text.toList) (styled : Bool)
    (width : Nat) : '\n' ∉ (c.line styled width n).toList := by
  have hcode (colour : Colour) :
      '\n' ∉ (escape ("38;5;" ++ toString colour.code)).toList := by
    cases colour <;> decide
  have hend : '\n' ∉ (escape "39").toList := by decide
  rw [line]
  cases htext : c.lines[n]? with
  | none => simp
  | some text =>
    have hpadded : '\n' ∉ (" " ++ text
        ++ String.ofList (List.replicate (width - Text.displayWidth text) ' ') ++ " ").toList := by
      simp [h text (List.mem_of_getElem? htext)]
    dsimp only
    split
    · split
      · next colour _ _ => exact Text.notMem_append (Text.notMem_append (hcode colour) hpadded) hend
      · exact hpadded
    · exact hpadded

end Cell

/-! ## Tables -/

namespace Table

variable (styled : Bool) {widths : List Nat}

/-! ### Ruled lines -/

theorem lineEnd_notMem_rule {corner : String} (h : '\n' ∉ corner.toList) :
    '\n' ∉ (rule widths corner).toList := by
  have hjoined : '\n' ∉ (String.intercalate "+" (widths.map fun w =>
      String.ofList (List.replicate (w + 2) '-'))).toList := by
    refine Text.notMem_intercalate (by decide) fun piece hpiece => ?_
    obtain ⟨w, -, rfl⟩ := List.mem_map.mp hpiece
    simp
  exact Text.notMem_append (Text.notMem_append h hjoined) h

theorem lineEnd_notMem_headingRule : '\n' ∉ (headingRule widths).toList := by
  simp [headingRule]

/-! ### Rows -/

/-- The lines of a cell are on those of its row, from the first one on. -/
theorem exists_getElem?_rowLines {row : List Cell} (hlength : row.length ≤ widths.length) {c : Cell}
    (hc : c ∈ row) {n : Nat} {text : String} (htext : c.lines[n]? = some text) :
    ∃ line, (rowLines styled widths row)[n]? = some line ∧ Text.contains text line := by
  have hheight : n < (row.map fun c => c.lines.length).foldl max 0 := by
    have hmem : c.lines.length ∈ row.map fun c => c.lines.length := List.mem_map_of_mem hc
    have hmax := List.le_max?_getD_of_mem (k := 0) hmem
    have hn : n < c.lines.length := (List.getElem?_eq_some_iff.mp htext).1
    rw [List.foldl_max]
    omega
  have hshown : ∃ width, c.line styled width n ∈
      List.zipWith (fun w c => c.line styled w n) widths row := by
    obtain ⟨k, hk⟩ := List.mem_iff_getElem?.mp hc
    have hcolumn : k < widths.length :=
      Nat.lt_of_lt_of_le (List.getElem?_eq_some_iff.mp hk).1 hlength
    refine ⟨widths[k], List.mem_iff_getElem?.mpr ⟨k, ?_⟩⟩
    rw [List.getElem?_zipWith, List.getElem?_eq_getElem hcolumn, hk]
  obtain ⟨width, hmem⟩ := hshown
  refine ⟨_, by rw [rowLines, List.getElem?_map, List.getElem?_range hheight]; rfl, ?_⟩
  rw [Text.contains_iff, String.toList_append, String.toList_append]
  exact (Text.contains_iff.mp (c.contains_line htext styled width)).trans
    ((Text.infix_intercalate hmem).trans (List.infix_append _ _ _))

theorem lineEnd_notMem_rowLines {row : List Cell}
    (h : ∀ c ∈ row, ∀ text ∈ c.lines, '\n' ∉ text.toList) :
    ∀ line ∈ rowLines styled widths row, '\n' ∉ line.toList := by
  intro line hline
  obtain ⟨n, -, rfl⟩ := List.mem_map.mp hline
  have hcells : ∀ piece ∈ List.zipWith (fun w c => c.line styled w n) widths row,
      '\n' ∉ piece.toList := by
    intro piece hpiece
    obtain ⟨k, hk⟩ := List.mem_iff_getElem?.mp hpiece
    obtain ⟨w, c, -, hc, rfl⟩ := List.getElem?_zipWith_eq_some.mp hk
    exact Cell.lineEnd_notMem_line (h c (List.mem_of_getElem? hc)) styled w
  have hjoined := Text.notMem_intercalate (by decide : '\n' ∉ "|".toList) hcells
  exact Text.notMem_append (Text.notMem_append (by decide) hjoined) (by decide)

/-- One block of lines for each row, and a ruled line between two of them. -/
theorem bodyLines_eq_intercalate (rows : List (List Cell)) :
    bodyLines styled widths rows =
      List.intercalate [rule widths "|"] (rows.map (rowLines styled widths)) := by
  induction rows with
  | nil => rfl
  | cons row rest ih =>
    cases rest with
    | nil => exact (List.intercalate_singleton).symm
    | cons next rest =>
      have hjoin : List.intercalate [rule widths "|"]
          (rowLines styled widths row :: rowLines styled widths next ::
            rest.map (rowLines styled widths)) =
          rowLines styled widths row ++ [rule widths "|"] ++ List.intercalate [rule widths "|"]
            (rowLines styled widths next :: rest.map (rowLines styled widths)) :=
        List.intercalate_cons_cons
      rw [List.map_cons, List.map_cons, hjoin, List.append_assoc]
      exact congrArg (rowLines styled widths row ++ rule widths "|" :: ·) ih

theorem lineEnd_notMem_bodyLines : ∀ {rows : List (List Cell)},
    (∀ row ∈ rows, ∀ c ∈ row, ∀ text ∈ c.lines, '\n' ∉ text.toList) →
    ∀ line ∈ bodyLines styled widths rows, '\n' ∉ line.toList
  | [], _, _, hline => nomatch hline
  | [row], h, line, hline =>
    lineEnd_notMem_rowLines styled (h row List.mem_cons_self) line hline
  | row :: next :: rest, h, line, hline => by
    rcases List.mem_append.mp hline with hline | hline
    · exact lineEnd_notMem_rowLines styled (h row List.mem_cons_self) line hline
    rcases List.mem_cons.mp hline with rfl | hline
    · exact lineEnd_notMem_rule (by decide)
    · exact lineEnd_notMem_bodyLines (fun r hr => h r (List.mem_cons_of_mem _ hr)) line hline

/-! ### Columns -/

theorem length_widths (t : Table) (h : ∀ row ∈ t.rows, row.length = t.heading.length) :
    t.widths.length = t.heading.length := by
  have hfold : ∀ (rows : List (List Cell)) (widths : List Nat),
      (∀ row ∈ rows, row.length = widths.length) →
      (rows.foldl (fun widths row => List.zipWith max widths (row.map Cell.width)) widths).length =
        widths.length := by
    intro rows
    induction rows with
    | nil => exact fun _ _ => rfl
    | cons row rest ih =>
      intro widths hrows
      have hrow := hrows row List.mem_cons_self
      have hnext : (List.zipWith max widths (row.map Cell.width)).length = widths.length := by
        simp [hrow]
      rw [List.foldl_cons, ih _ fun r hr => (hrows r (List.mem_cons_of_mem _ hr)).trans hnext.symm,
        hnext]
  rw [widths, hfold t.rows _ (by simpa using h), List.length_map]

/-! ### The text -/

/-- The lines of a table: the heading and the rows between ruled lines. -/
theorem splitLines_render (t : Table) (styled : Bool)
    (h : ∀ row ∈ t.heading :: t.rows, ∀ c ∈ row, ∀ text ∈ c.lines, '\n' ∉ text.toList) :
    Text.splitLines (t.render styled) =
      rule t.widths "+" :: rowLines styled t.widths t.heading ++ headingRule t.widths ::
        List.intercalate [rule t.widths "|"] (t.rows.map (rowLines styled t.widths)) ++
          [rule t.widths "+"] := by
  rw [render, ← bodyLines_eq_intercalate]
  refine Text.splitLines_intercalate (fun line hline => ?_) (by simp)
  have hedge : '\n' ∉ (rule t.widths "+").toList := lineEnd_notMem_rule (by decide)
  simp only [List.mem_append, List.mem_cons, List.not_mem_nil, or_false] at hline
  rcases hline with ((rfl | hline) | rfl | hline) | rfl
  · exact hedge
  · exact lineEnd_notMem_rowLines styled (h _ List.mem_cons_self) line hline
  · exact lineEnd_notMem_headingRule
  · exact lineEnd_notMem_bodyLines styled (fun row hrow => h row (List.mem_cons_of_mem _ hrow)) line
      hline
  · exact hedge

end Table

/-! ## Reports -/

theorem resultRows_eq_mapIdx (number : Nat) (records : List Record) :
    resultRows number records = records.mapIdx fun i r => r.row (number + i) := by
  induction records generalizing number with
  | nil => rfl
  | cons r rest ih =>
    rw [resultRows, ih, List.mapIdx_cons]
    simp only [Nat.add_assoc, Nat.add_comm 1, Nat.add_zero]

namespace Record

variable (r : Record) (number : Nat)

theorem exists_mem_row {text : String}
    (h : text ∈ [toString number, r.description, r.status.word, r.details]) :
    ∃ c ∈ r.row number, c.lines = Text.splitLines text := by
  simp only [List.mem_cons, List.not_mem_nil, or_false] at h
  rw [row]
  rcases h with rfl | rfl | rfl | rfl
  · exact ⟨.ofText (toString number), by simp, rfl⟩
  · exact ⟨.ofText r.description, by simp, rfl⟩
  · exact ⟨.ofText r.status.word (some r.status.colour), by simp, rfl⟩
  · exact ⟨.ofText r.details, by simp, rfl⟩

theorem lineEnd_notMem_row {c : Cell} (h : c ∈ r.row number) :
    ∀ text ∈ c.lines, '\n' ∉ text.toList := by
  simp only [row, List.mem_cons, List.not_mem_nil, or_false] at h
  rcases h with rfl | rfl | rfl | rfl <;> exact fun _ => Text.notMem_of_mem_splitLines

end Record

theorem Summary.lineEnd_notMem_line (s : Summary) (styled : Bool) :
    '\n' ∉ (s.line styled).toList := by
  have hcount (n : Nat) : '\n' ∉ (toString n).toList := fun h =>
    absurd ((Text.isDecimal_toString n).isNumeral.isDigit _ h) (by decide)
  have htext : '\n' ∉
      (toString s.total ++ " checks run, " ++ toString s.failed ++ " failed").toList :=
    Text.notMem_append (Text.notMem_append (Text.notMem_append (hcount _) (by decide)) (hcount _))
      (by decide)
  rw [line]
  split
  · exact htext
  · split <;> exact Text.notMem_append (Text.notMem_append (by decide) htext) (by decide)

section Results

variable (records : List Record)

theorem rows_resultsTable :
    (resultsTable records).rows = records.mapIdx fun i r => r.row (i + 1) := by
  rw [resultsTable, resultRows_eq_mapIdx]
  simp only [Nat.add_comm 1]

theorem exists_eq_row_of_mem {row : List Cell} (h : row ∈ (resultsTable records).rows) :
    ∃ r number, row = Record.row r number := by
  rw [rows_resultsTable] at h
  obtain ⟨i, hi, rfl⟩ := List.mem_mapIdx.mp h
  exact ⟨records[i], i + 1, rfl⟩

theorem length_widths_resultsTable : (resultsTable records).widths.length = 4 := by
  refine Table.length_widths _ fun row hrow => ?_
  obtain ⟨r, number, rfl⟩ := exists_eq_row_of_mem records hrow
  rfl

/-- The lines of a report are those of its table and one that counts the records. -/
theorem splitLines_reportText (styled : Bool) :
    Text.splitLines (reportText records styled) =
      Text.splitLines ((resultsTable records).render styled) ++
        [(Summary.ofRecords records).line styled, ""] := by
  have hcounts : Text.splitLines
      (String.intercalate "\n" [(Summary.ofRecords records).line styled, ""]) =
        [(Summary.ofRecords records).line styled, ""] := by
    refine Text.splitLines_intercalate (fun line hline => ?_) (List.cons_ne_nil _ _)
    simp only [List.mem_cons, List.not_mem_nil, or_false] at hline
    rcases hline with rfl | rfl
    · exact Summary.lineEnd_notMem_line _ styled
    · exact List.not_mem_nil
  rw [reportText, String.append_assoc, Text.splitLines_append, ← hcounts]
  simp

theorem lineEnd_notMem_resultsTable :
    ∀ row ∈ (resultsTable records).heading :: (resultsTable records).rows, ∀ c ∈ row,
      ∀ text ∈ c.lines, '\n' ∉ text.toList := by
  intro row hrow c hc
  rcases List.mem_cons.mp hrow with rfl | hrow
  · obtain ⟨title, -, rfl⟩ := List.mem_map.mp hc
    exact fun _ => Text.notMem_of_mem_splitLines
  · obtain ⟨r, number, rfl⟩ := exists_eq_row_of_mem records hrow
    exact r.lineEnd_notMem_row number hc

/-- **What a report shows.** Each record has a block of lines, in order; the lines of its number,
its description, its status and its details start side by side on the first line of the block. The
last line counts the records. -/
theorem reportText_shows (styled : Bool) :
    ∃ (top : List String) (blocks : List (List String)) (ruled bottom : String),
      Text.splitLines (reportText records styled) =
        top ++ List.intercalate [ruled] blocks ++
          [bottom, (Summary.ofRecords records).line styled, ""] ∧
      blocks.length = records.length ∧
      ∀ (i : Nat) record block, records[i]? = some record → blocks[i]? = some block →
        ∀ text ∈ [toString (i + 1), record.description, record.status.word, record.details],
          ∀ (n : Nat) piece, (Text.splitLines text)[n]? = some piece →
            ∃ line, block[n]? = some line ∧ Text.contains piece line := by
  let t := resultsTable records
  refine ⟨Table.rule t.widths "+" :: Table.rowLines styled t.widths t.heading ++
      [Table.headingRule t.widths],
    t.rows.map (Table.rowLines styled t.widths), Table.rule t.widths "|",
    Table.rule t.widths "+", ?_, ?_, ?_⟩
  · rw [splitLines_reportText, Table.splitLines_render _ _ (lineEnd_notMem_resultsTable records)]
    simp [t]
  · rw [List.length_map, rows_resultsTable, List.length_mapIdx]
  · intro i record block hrecord hblock text htext n piece hpiece
    rw [List.getElem?_map, rows_resultsTable, List.getElem?_mapIdx, hrecord] at hblock
    obtain rfl := Option.some.inj hblock
    obtain ⟨c, hc, hlines⟩ := record.exists_mem_row (i + 1) htext
    have hlength : (record.row (i + 1)).length ≤ t.widths.length :=
      Nat.le_of_eq (length_widths_resultsTable records).symm
    exact Table.exists_getElem?_rowLines styled hlength hc (hlines ▸ hpiece)

end Results

end MeshDoctor
