import MeshDoctor.Files.Path
import MeshDoctor.Proofs.Text.Pieces

/-!
# Files — the names on a joined path

* `IsPlainName`: a name that stands for itself on a path.
* `joinPath_eq_append`: the text of a joined path.
* **`pathParts_joinPath`**: the names on a joined path are those of its two parts.
* `pathParts_of_isPlainName`: a plain name is the only name on its path.
* `exists_pathParts_append`, `exists_joinPath_append`: what is written at the end of a path belongs
  to its last name.
-/

namespace MeshDoctor

/-- The name stands for itself on a path. -/
structure IsPlainName (name : String) : Prop where
  no_slash : '/' ∉ name.toList
  ne_empty : name ≠ ""
  ne_dot : name ≠ "."
  ne_dots : name ≠ ".."

theorem endsWith_slash_iff {path : String} :
    path.endsWith "/" ↔ ∃ front : String, path = front ++ "/" := by
  rw [String.endsWith_eq_endsWith_toSlice, String.Slice.endsWith_string_iff, String.copy_toSlice]
  constructor
  · rintro ⟨front, hfront⟩
    exact ⟨String.ofList front, String.toList_injective (by simp [← hfront])⟩
  · rintro ⟨front, rfl⟩
    exact ⟨front.toList, by simp⟩

/-- A name without slashes starts no absolute path. -/
theorem IsPlainName.not_startsWith {name : String} (h : IsPlainName name) :
    ¬ name.startsWith "/" := by
  rw [String.startsWith_string_iff]
  rintro ⟨rest, hrest⟩
  refine h.no_slash ?_
  rw [← hrest]
  simp

/-- Below a path that does not end with a slash, one is put before the name. -/
theorem joinPath_eq_append {base name : String} (hbase : base ≠ "")
    (hlast : base.toList.getLast? ≠ some '/') (h : IsPlainName name) :
    joinPath base name = base ++ "/" ++ name := by
  have hends : ¬ base.endsWith "/" := by
    rw [endsWith_slash_iff]
    rintro ⟨front, rfl⟩
    exact hlast (by simp)
  rw [joinPath, if_neg h.not_startsWith, if_neg (by simp [hends, hbase])]

/-! ## Names on a path -/

theorem pathParts_append_slash (front rest : String) :
    pathParts (front ++ "/" ++ rest) = pathParts front ++ pathParts rest := by
  have hchars : (front ++ "/" ++ rest).toList = front.toList ++ '/' :: rest.toList := by simp
  rw [pathParts, hchars, List.splitOn_append_cons_self, List.map_append, List.filter_append]
  rfl

theorem pathParts_empty : pathParts "" = [] := rfl

/-- **The names on a joined path are those of its two parts.** -/
theorem pathParts_joinPath (base : String) {name : String} (h : ¬ name.startsWith "/") :
    pathParts (joinPath base name) = pathParts base ++ pathParts name := by
  rw [joinPath, if_neg h]
  by_cases hempty : base = ""
  · subst hempty
    rw [pathParts_empty, List.nil_append]
    exact congrArg pathParts String.empty_append
  by_cases hends : base.endsWith "/"
  · obtain ⟨front, rfl⟩ := endsWith_slash_iff.mp hends
    have hfront : pathParts (front ++ "/") = pathParts front := by
      have happend := pathParts_append_slash front ""
      rwa [String.append_empty, pathParts_empty, List.append_nil] at happend
    rw [if_pos (by simp [hends]), pathParts_append_slash, hfront]
  · rw [if_neg (by simp [hends, hempty]), pathParts_append_slash]

theorem pathParts_eq_singleton {name : String} (hslash : '/' ∉ name.toList) (hempty : name ≠ "")
    (hdot : name ≠ ".") : pathParts name = [name] := by
  have hsplit : name.toList.splitOn '/' = [name.toList] := List.splitOn_eq_singleton hslash
  rw [pathParts, hsplit, List.map_singleton, String.ofList_toList]
  simp [hempty, hdot]

theorem IsPlainName.pathParts_eq {name : String} (h : IsPlainName name) :
    pathParts name = [name] :=
  pathParts_eq_singleton h.no_slash h.ne_empty h.ne_dot

/-- What is written at the end of a path belongs to its last name. -/
theorem exists_pathParts_append (path : String) {tail : String} (hslash : '/' ∉ tail.toList)
    (htail : 1 < tail.length) :
    ∃ front last, pathParts (path ++ tail) = front ++ [last ++ tail] := by
  have hsingle (last : String) (hlast : '/' ∉ last.toList) :
      pathParts (last ++ tail) = [last ++ tail] := by
    have hlength : 1 < (last ++ tail).length := by
      rw [String.length_append]
      omega
    refine pathParts_eq_singleton (by simp [hlast, hslash]) ?_ ?_
    · intro hempty
      simp [hempty] at hlength
    · intro hdot
      rw [hdot] at hlength
      exact absurd hlength (by decide)
  by_cases hmem : '/' ∈ path.toList
  · obtain ⟨before, after, hpath, hafter⟩ := Text.exists_eq_append_of_mem hmem
    have hsplit : path ++ tail =
        String.ofList before ++ "/" ++ (String.ofList after ++ tail) := by
      refine String.toList_injective ?_
      simp [hpath]
    refine ⟨pathParts (String.ofList before), String.ofList after, ?_⟩
    rw [hsplit, pathParts_append_slash, hsingle _ (by simpa using hafter)]
  · exact ⟨[], path, hsingle path hmem⟩

/-! ## Where a path starts -/

theorem startsWith_append {base : String} (h : base ≠ "") (rest : String) :
    (base ++ rest).startsWith "/" = base.startsWith "/" := by
  obtain ⟨c, cs, hbase⟩ :=
    List.exists_cons_of_ne_nil (fun hnil => h (String.toList_eq_nil_iff.mp hnil))
  rw [Bool.eq_iff_iff, String.startsWith_string_iff, String.startsWith_string_iff,
    String.toList_append, hbase]
  simp

theorem startsWith_joinPath {base name : String} (hbase : base ≠ "")
    (h : ¬ name.startsWith "/") : (joinPath base name).startsWith "/" = base.startsWith "/" := by
  rw [joinPath, if_neg h]
  by_cases hends : base.endsWith "/"
  · rw [if_pos (by simp [hends]), startsWith_append hbase]
  · rw [if_neg (by simp [hends, hbase]), String.append_assoc, startsWith_append hbase]

/-- What is written at the end of a name is at the end of a joined path. -/
theorem exists_joinPath_append (base name tail : String) :
    ∃ front, joinPath base (name ++ tail) = front ++ tail := by
  rw [joinPath]
  by_cases habsolute : (name ++ tail).startsWith "/"
  · rw [if_pos habsolute]
    exact ⟨name, rfl⟩
  rw [if_neg habsolute]
  by_cases hends : (base.isEmpty || base.endsWith "/") = true
  · rw [if_pos hends, ← String.append_assoc]
    exact ⟨base ++ name, rfl⟩
  · rw [if_neg hends, ← String.append_assoc]
    exact ⟨base ++ "/" ++ name, rfl⟩

theorem joinPath_ne_empty (base : String) {name : String} (h : name ≠ "") :
    joinPath base name ≠ "" := by
  obtain ⟨front, hpath⟩ := exists_joinPath_append base "" name
  rw [String.empty_append] at hpath
  rw [hpath]
  intro hempty
  have hchars : front.toList ++ name.toList = [] := by
    rw [← String.toList_append, hempty]
    rfl
  exact h (String.toList_eq_nil_iff.mp (List.append_eq_nil_iff.mp hchars).2)

end MeshDoctor
