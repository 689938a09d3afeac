import MeshDoctor.Files.Tree
import MeshDoctor.Proofs.Files.Path
import MeshDoctor.Proofs.Inquiry.Finds

/-!
# Files — what the operations do to a tree

* `FileTree.wayOf`: the way to what a path names, two dots leading back; **`FileTree.wayOf_joinPath`**.
* `FileTree.IsFree`: nothing lies at a path or below it.
* `FileTree.remove`: the tree without the file at a path.
* `FileTree.KeepsDirectories`, `FileTree.SameDirectories`: the directories of one tree are there in
  the other one; paths then lead where they led.
* **`FileTree.read_eq_ok_iff`**, **`FileTree.write_eq_ok_iff`**: what is written is put at the way of
  its path, and what is read is found there.
* **`FileTree.write_congr`**, `FileTree.remove_congr`: on a path to a directory that is there, only
  what lies at its end matters.
* **`FileTree.walk_of_makeDirectories`**, `FileTree.file_of_makeDirectories`: a directory that was
  made can be reached, and making it changes no file.
-/

namespace MeshDoctor.FileTree

variable {t t' : FileTree} {path name : String} {way way' : List String} {bytes : List UInt8}

/-! ## Entries -/

theorem lookup_filter_ne {β : Type} (entries : List (List String × β)) (way way' : List String) :
    (entries.filter (·.1 ≠ way)).lookup way' = if way' = way then none else entries.lookup way' := by
  induction entries with
  | nil => simp
  | cons entry entries ih =>
    obtain ⟨key, value⟩ := entry
    by_cases hkey : key = way
    · subst hkey
      rw [List.filter_cons_of_neg (by simp), ih, List.lookup_cons]
      by_cases hway : way' = key
      · rw [if_pos hway, if_pos hway]
      · rw [if_neg hway, if_neg hway, beq_eq_false_iff_ne.mpr hway]
    · rw [List.filter_cons_of_pos (by simpa using hkey), List.lookup_cons, ih, List.lookup_cons]
      by_cases hway : way' = key
      · subst hway
        rw [beq_self_eq_true]
        exact (if_neg hkey).symm
      · rw [beq_eq_false_iff_ne.mpr hway]

@[simp] theorem entry?_nil (t : FileTree) : t.entry? [] = some .directory := rfl

theorem entry?_of_ne_nil (h : way ≠ []) : t.entry? way = t.entries.lookup way :=
  if_neg h

theorem entry?_put_self (h : way ≠ []) (e : FileEntry) : entry? (t.put way e) way = some e := by
  rw [entry?_of_ne_nil h, put, List.lookup_append, lookup_filter_ne, if_pos rfl, Option.none_or,
    List.lookup_cons_self]

theorem entry?_put_of_ne (h : way' ≠ way) (e : FileEntry) :
    entry? (t.put way e) way' = t.entry? way' := by
  by_cases hnil : way' = []
  · rw [hnil, entry?_nil, entry?_nil]
  · rw [entry?_of_ne_nil hnil, entry?_of_ne_nil hnil, put, List.lookup_append, lookup_filter_ne,
      if_neg h, List.lookup_cons, beq_eq_false_iff_ne.mpr h]
    exact Option.or_none

/-! ## Ways -/

/-- Where names lead from a directory, two dots leading back. -/
def follow (done : List String) : List String → List String
  | [] => done
  | name :: rest => if name = ".." then follow done.dropLast rest else follow (done ++ [name]) rest

/-- The way to what a path names. -/
def wayOf (t : FileTree) (path : String) : List String :=
  follow (t.origin path) (pathParts path)

theorem follow_append (done front rest : List String) :
    follow done (front ++ rest) = follow (follow done front) rest := by
  induction front generalizing done with
  | nil => rfl
  | cons name front ih =>
    rw [List.cons_append, follow, follow]
    by_cases hname : name = ".."
    · rw [if_pos hname, if_pos hname, ih]
    · rw [if_neg hname, if_neg hname, ih]

theorem follow_singleton (done : List String) (h : name ≠ "..") :
    follow done [name] = done ++ [name] := by
  rw [follow, if_neg h, follow]

theorem origin_joinPath {base : String} (hbase : base ≠ "") (hname : IsPlainName name)
    (t : FileTree) : t.origin (joinPath base name) = t.origin base := by
  rw [origin, origin, startsWith_joinPath hbase hname.not_startsWith]

/-- A joined path leads on from where its first part leads. -/
theorem wayOf_joinPath {base : String} (hbase : base ≠ "") (hname : IsPlainName name)
    (t : FileTree) : t.wayOf (joinPath base name) = t.wayOf base ++ [name] := by
  rw [wayOf, wayOf, origin_joinPath hbase hname, pathParts_joinPath base hname.not_startsWith,
    hname.pathParts_eq, follow_append, follow_singleton _ hname.ne_dots]

/-- What is written at the end of a path is at the end of its way. -/
theorem exists_wayOf_append (t : FileTree) (path tail : String)
    (hslash : '/' ∉ tail.toList) (htail : 2 < tail.length) :
    ∃ front last, t.wayOf (path ++ tail) = front ++ [last ++ tail] := by
  obtain ⟨front, last, hparts⟩ := exists_pathParts_append path hslash (Nat.lt_of_succ_lt htail)
  have hdots : last ++ tail ≠ ".." := by
    intro heq
    have hlength := congrArg String.length heq
    rw [String.length_append] at hlength
    have htwo : "..".length = 2 := by decide
    omega
  rw [wayOf, hparts, follow_append, follow_singleton _ hdots]
  exact ⟨_, last, rfl⟩

theorem walk_cons (t : FileTree) (done : List String) (name : String) (rest : List String) :
    t.walk done (name :: rest) =
      if name = ".." then t.walk done.dropLast rest
      else if nameLimit < name.utf8ByteSize then .error .nameTooLong
      else
        match t.entry? (done ++ [name]) with
        | some .directory => t.walk (done ++ [name]) rest
        | some (.file _) => .error .notADirectory
        | none => .error .missing := by
  by_cases hname : name = ".."
  · rw [if_pos hname, hname, walk]
  · rw [if_neg hname]
    exact walk.eq_3 t done name rest hname

theorem walk_append (t : FileTree) (done front rest : List String) :
    t.walk done (front ++ rest) = (t.walk done front).bind fun way => t.walk way rest := by
  induction front generalizing done with
  | nil => rfl
  | cons name front ih =>
    rw [List.cons_append, walk_cons, walk_cons]
    split
    · exact ih done.dropLast
    split
    · rfl
    split
    · exact ih (done ++ [name])
    · rfl
    · rfl

/-- A walk that succeeds ends where the names lead. -/
theorem walk_eq_ok {done names : List String} (h : t.walk done names = .ok way) :
    way = follow done names := by
  induction names generalizing done with
  | nil => exact (Except.ok.inj h).symm
  | cons name rest ih =>
    rw [walk_cons] at h
    rw [follow]
    by_cases hname : name = ".."
    · rw [if_pos hname] at h ⊢
      exact ih h
    · rw [if_neg hname] at h ⊢
      split at h
      · cases h
      · split at h
        · exact ih h
        · cases h
        · cases h

/-- Nothing lies at the path or below it. -/
def IsFree (t : FileTree) (path : String) : Prop :=
  ∀ way, t.wayOf path <+: way → t.entry? way = none

theorem isFree_of_entries_eq_nil (h : t.entries = []) (hway : t.wayOf path ≠ []) :
    t.IsFree path := by
  intro way hprefix
  have hne : way ≠ [] := by
    rintro rfl
    exact hway (List.prefix_nil.mp hprefix)
  rw [entry?_of_ne_nil hne, h]
  rfl

/-! ## Directories that stay -/

/-- All directories of the tree are in the other one, too. -/
structure KeepsDirectories (t t' : FileTree) : Prop where
  here_eq : t'.here = t.here
  directory {way : List String} (h : t.entry? way = some .directory) :
    t'.entry? way = some .directory

namespace KeepsDirectories

theorem refl (t : FileTree) : t.KeepsDirectories t := ⟨rfl, id⟩

theorem trans {t'' : FileTree} (h : t.KeepsDirectories t') (h' : t'.KeepsDirectories t'') :
    t.KeepsDirectories t'' :=
  ⟨h'.here_eq.trans h.here_eq, fun hway => h'.directory (h.directory hway)⟩

theorem put (hway : t.entry? way ≠ some .directory) (e : FileEntry) :
    t.KeepsDirectories (t.put way e) := by
  refine ⟨rfl, fun {way'} h => ?_⟩
  have hne : way' ≠ way := by
    rintro rfl
    exact hway h
  rw [entry?_put_of_ne hne, h]

variable (h : t.KeepsDirectories t')
include h

theorem origin_eq (path : String) : t'.origin path = t.origin path := by
  rw [origin, origin, h.here_eq]

theorem wayOf_eq (path : String) : t'.wayOf path = t.wayOf path := by
  rw [wayOf, wayOf, h.origin_eq]

theorem walk_eq_ok {done names : List String} (hwalk : t.walk done names = .ok way) :
    t'.walk done names = .ok way := by
  induction names generalizing done with
  | nil => exact hwalk
  | cons name rest ih =>
    rw [walk_cons] at hwalk ⊢
    by_cases hname : name = ".."
    · rw [if_pos hname] at hwalk ⊢
      exact ih hwalk
    · rw [if_neg hname] at hwalk ⊢
      by_cases hsize : nameLimit < name.utf8ByteSize
      · rw [if_pos hsize] at hwalk
        cases hwalk
      · rw [if_neg hsize] at hwalk ⊢
        split at hwalk
        next hentry =>
          rw [h.directory hentry]
          exact ih hwalk
        next => cases hwalk
        next => cases hwalk

end KeepsDirectories

/-! ## Files at a path -/

theorem resolve_eq_ok {parts : List String} (h : resolve path = .ok parts) :
    pathFault? path = none ∧ path ≠ "" ∧ parts = pathParts path := by
  rw [resolve] at h
  split at h
  · cases h
  next hfault =>
    split at h
    · cases h
    next hempty => exact ⟨hfault, fun h => hempty (h ▸ rfl), (Except.ok.inj h).symm⟩

theorem locate_eq_bind (t : FileTree) (path : String) :
    t.locate path = (resolve path).bind fun parts =>
      match parts.getLast? with
      | some name =>
        if name = ".." then (t.walk (t.origin path) parts).bind fun parent => .ok (parent, none)
        else
          (t.walk (t.origin path) parts.dropLast).bind fun parent =>
            if nameLimit < name.utf8ByteSize then .error .nameTooLong else .ok (parent, some name)
      | none => .ok (t.origin path, none) := rfl

/-- The path names something of this name in a directory that is there. -/
structure Reaches (t : FileTree) (path : String) (parent : List String) (name : String) : Prop where
  getLast?_eq : (pathParts path).getLast? = some name
  ne_dots : name ≠ ".."
  walk_eq : t.walk (t.origin path) (pathParts path).dropLast = .ok parent

/-- The name can be that of a file, too. -/
structure Located (t : FileTree) (path : String) (parent : List String) (name : String) : Prop
    extends t.Reaches path parent name where
  resolve_eq : resolve path = .ok (pathParts path)
  size_le : ¬ nameLimit < name.utf8ByteSize

namespace Reaches

variable {parent : List String}

theorem wayOf_eq (h : t.Reaches path parent name) : t.wayOf path = parent ++ [name] := by
  obtain ⟨front, hparts⟩ := List.getLast?_eq_some_iff.mp h.getLast?_eq
  have hwalk : t.walk (t.origin path) front = .ok parent := by
    rw [← h.walk_eq, hparts, List.dropLast_concat]
  rw [wayOf, hparts, follow_append, follow_singleton _ h.ne_dots, ← walk_eq_ok hwalk]

theorem ne_nil (h : t.Reaches path parent name) : t.wayOf path ≠ [] := by
  rw [h.wayOf_eq]
  exact List.append_ne_nil_of_right_ne_nil _ (List.cons_ne_nil _ _)

theorem keep (h : t.Reaches path parent name) (hkeeps : t.KeepsDirectories t') :
    t'.Reaches path parent name :=
  { h with walk_eq := by rw [hkeeps.origin_eq]; exact hkeeps.walk_eq_ok h.walk_eq }

theorem locate_eq (h : t.Reaches path parent name) :
    t.locate path = (resolve path).bind fun _ =>
      if nameLimit < name.utf8ByteSize then .error .nameTooLong else .ok (parent, some name) := by
  rw [locate_eq_bind]
  cases hresolve : resolve path with
  | error e => rfl
  | ok parts =>
    obtain rfl : parts = pathParts path := (resolve_eq_ok hresolve).2.2
    rw [ok_bind, ok_bind]
    simp only [h.getLast?_eq]
    rw [if_neg h.ne_dots, h.walk_eq, ok_bind]

/-- A plain name below a directory that is there. -/
theorem of_walk {base : String} (hbase : base ≠ "") (hname : IsPlainName name)
    (hwalk : t.walk (t.origin base) (pathParts base) = .ok parent) :
    t.Reaches (joinPath base name) parent name := by
  have hparts : pathParts (joinPath base name) = pathParts base ++ [name] := by
    rw [pathParts_joinPath base hname.not_startsWith, hname.pathParts_eq]
  refine ⟨?_, hname.ne_dots, ?_⟩
  · rw [hparts, List.getLast?_concat]
  · rw [hparts, List.dropLast_concat, origin_joinPath hbase hname]
    exact hwalk

end Reaches

/-- Where a directory can be reached, the one above it can be reached as well. -/
theorem walk_of_walk_joinPath {base : String} (hbase : base ≠ "") (hname : IsPlainName name)
    (hwalk : t.walk (t.origin (joinPath base name)) (pathParts (joinPath base name)) = .ok way) :
    t.walk (t.origin base) (pathParts base) = .ok (t.wayOf base) := by
  rw [origin_joinPath hbase hname, pathParts_joinPath base hname.not_startsWith,
    walk_append] at hwalk
  obtain ⟨middle, hmiddle, -⟩ := bind_eq_ok.mp hwalk
  rw [wayOf, ← walk_eq_ok hmiddle]
  exact hmiddle

namespace Located

variable {parent : List String}

theorem of_locate (h : t.locate path = .ok (parent, some name)) : t.Located path parent name := by
  rw [locate_eq_bind] at h
  obtain ⟨parts, hresolve, h⟩ := bind_eq_ok.mp h
  obtain rfl : parts = pathParts path := (resolve_eq_ok hresolve).2.2
  split at h
  next last hlast =>
    by_cases hdots : last = ".."
    · rw [if_pos hdots] at h
      obtain ⟨parent', -, h⟩ := bind_eq_ok.mp h
      cases h
    · rw [if_neg hdots] at h
      obtain ⟨parent', hwalk, h⟩ := bind_eq_ok.mp h
      by_cases hsize : nameLimit < last.utf8ByteSize
      · rw [if_pos hsize] at h
        cases h
      · rw [if_neg hsize] at h
        cases h
        exact ⟨⟨hlast, hdots, hwalk⟩, hresolve, hsize⟩
  next => cases h

theorem locate_eq (h : t.Located path parent name) : t.locate path = .ok (parent, some name) := by
  rw [h.toReaches.locate_eq, h.resolve_eq, ok_bind, if_neg h.size_le]

theorem keep (h : t.Located path parent name) (hkeeps : t.KeepsDirectories t') :
    t'.Located path parent name :=
  { h with toReaches := h.toReaches.keep hkeeps }

end Located

/-! ## Reading and writing -/

theorem find_eq_bind (t : FileTree) (path : String) :
    t.find path = (t.locate path).bind fun (parent, name) =>
      match name with
      | none => .ok .directory
      | some name =>
        match t.entry? (parent ++ [name]) with
        | none => .error .missing
        | some .directory => .ok .directory
        | some (.file bytes) =>
          if path.endsWith "/" then .error .notADirectory else .ok (.file bytes) := rfl

theorem read_eq_bind (t : FileTree) (path : String) :
    t.read path = (t.find path).bind fun e =>
      match e with
      | .directory => .error .isADirectory
      | .file bytes => .ok bytes := rfl

theorem write_eq_bind (t : FileTree) (path : String) (bytes : List UInt8) :
    t.write path bytes = (t.locate path).bind fun (parent, name) =>
      match name with
      | none => .error .isADirectory
      | some name =>
        match t.entry? (parent ++ [name]) with
        | some .directory => .error .isADirectory
        | _ =>
          if path.endsWith "/" then .error .isADirectory
          else .ok (t.put (parent ++ [name]) (.file bytes)) := by
  rfl

theorem read_eq_ok_iff : t.read path = .ok bytes ↔
    (∃ parent name, t.Located path parent name) ∧ ¬ path.endsWith "/" ∧
      t.entry? (t.wayOf path) = some (.file bytes) := by
  rw [read_eq_bind, find_eq_bind]
  constructor
  · intro h
    obtain ⟨e, hfind, h⟩ := bind_eq_ok.mp h
    obtain ⟨⟨parent, last⟩, hlocate, hfind⟩ := bind_eq_ok.mp hfind
    cases last with
    | none =>
      cases hfind
      cases h
    | some name =>
      have hlocated := Located.of_locate hlocate
      simp only [← hlocated.toReaches.wayOf_eq] at hfind
      cases hentry : t.entry? (t.wayOf path) with
      | none => simp [hentry] at hfind
      | some entry =>
        cases entry with
        | directory =>
          simp only [hentry, Except.ok.injEq] at hfind
          subst hfind
          cases h
        | file bytes' =>
          simp only [hentry] at hfind
          by_cases hends : path.endsWith "/"
          · simp [hends] at hfind
          · rw [if_neg hends] at hfind
            cases hfind
            cases h
            exact ⟨⟨parent, name, hlocated⟩, hends, rfl⟩
  · rintro ⟨⟨parent, name, hlocated⟩, hends, hentry⟩
    rw [hlocated.locate_eq, ok_bind]
    simp only [← hlocated.toReaches.wayOf_eq, hentry, if_neg hends, ok_bind]

theorem write_eq_ok_iff : t.write path bytes = .ok t' ↔
    (∃ parent name, t.Located path parent name) ∧ ¬ path.endsWith "/" ∧
      t.entry? (t.wayOf path) ≠ some .directory ∧ t' = t.put (t.wayOf path) (.file bytes) := by
  rw [write_eq_bind]
  constructor
  · intro h
    obtain ⟨⟨parent, last⟩, hlocate, h⟩ := bind_eq_ok.mp h
    cases last with
    | none => cases h
    | some name =>
      have hlocated := Located.of_locate hlocate
      simp only [← hlocated.toReaches.wayOf_eq] at h
      split at h
      · cases h
      next hentry =>
        by_cases hends : path.endsWith "/"
        · simp [hends] at h
        · rw [if_neg hends] at h
          cases h
          exact ⟨⟨parent, name, hlocated⟩, hends, hentry, rfl⟩
  · rintro ⟨⟨parent, name, hlocated⟩, hends, hentry, rfl⟩
    rw [hlocated.locate_eq, ok_bind]
    simp only [← hlocated.toReaches.wayOf_eq, if_neg hends]

/-- A file that was written is read where its path leads, as long as the directories stay. -/
theorem read_of_keeps {bytes' : List UInt8} {t'' : FileTree} (hwrite : t.write path bytes = .ok t')
    (hkeeps : t.KeepsDirectories t'') (hentry : t''.entry? (t.wayOf path) = some (.file bytes')) :
    t''.read path = .ok bytes' := by
  obtain ⟨⟨parent, name, hlocated⟩, hends, -, -⟩ := write_eq_ok_iff.mp hwrite
  rw [← hkeeps.wayOf_eq] at hentry
  exact read_eq_ok_iff.mpr ⟨⟨parent, name, hlocated.keep hkeeps⟩, hends, hentry⟩

theorem read_of_write (hwrite : t.write path bytes = .ok t') : t'.read path = .ok bytes := by
  obtain ⟨⟨parent, name, hlocated⟩, -, hentry, rfl⟩ := write_eq_ok_iff.mp hwrite
  exact read_of_keeps hwrite (.put hentry _) (entry?_put_self hlocated.toReaches.ne_nil _)

/-- A path that cannot be written to cannot be read. -/
theorem read_of_write_error {e : SystemError} (hwrite : t.write path bytes = .error e)
    (bytes' : List UInt8) : t.read path ≠ .ok bytes' := by
  intro hread
  obtain ⟨hlocated, hends, hentry⟩ := read_eq_ok_iff.mp hread
  have hfile : t.entry? (t.wayOf path) ≠ some .directory := by
    rw [hentry]
    exact fun h => nomatch h
  rw [write_eq_ok_iff.mpr ⟨hlocated, hends, hfile, rfl⟩] at hwrite
  cases hwrite

/-! ## Removing -/

/-- The tree without the file at a path. -/
def remove (t : FileTree) (path : String) : FileTree :=
  match t.read path with
  | .ok _ => { t with entries := t.entries.filter (·.1 ≠ t.wayOf path) }
  | .error _ => t

theorem remove_of_error {e : SystemError} (h : t.read path = .error e) : t.remove path = t := by
  rw [remove, h]

theorem entry?_remove (h : t.read path = .ok bytes) (way : List String) :
    entry? (t.remove path) way = if way = t.wayOf path then none else t.entry? way := by
  obtain ⟨⟨parent, name, hlocated⟩, -, -⟩ := read_eq_ok_iff.mp h
  have hnil := hlocated.toReaches.ne_nil
  rw [remove, h]
  by_cases hway : way = []
  · subst hway
    rw [if_neg (Ne.symm hnil)]
    rfl
  · rw [entry?_of_ne_nil hway, entry?_of_ne_nil hway]
    exact lookup_filter_ne t.entries (t.wayOf path) way

theorem entry?_remove_of_ne (h : way ≠ t.wayOf path) :
    entry? (t.remove path) way = t.entry? way := by
  cases hread : t.read path with
  | ok bytes => rw [entry?_remove hread, if_neg h]
  | error e => rw [remove_of_error hread]

theorem read_remove (t : FileTree) (path : String) (bytes : List UInt8) :
    (t.remove path).read path ≠ .ok bytes := by
  cases hread : t.read path with
  | ok bytes' =>
    intro h
    obtain ⟨-, -, hentry⟩ := read_eq_ok_iff.mp h
    have hway : (t.remove path).wayOf path = t.wayOf path := by
      rw [remove, hread]
      rfl
    rw [hway, entry?_remove hread, if_pos rfl] at hentry
    cases hentry
  | error e =>
    rw [remove_of_error hread, hread]
    exact fun h => nomatch h

/-! ## The same directories -/

/-- Both trees have the same directories. -/
structure SameDirectories (t t' : FileTree) : Prop where
  here_eq : t'.here = t.here
  directory_iff (way : List String) :
    t'.entry? way = some .directory ↔ t.entry? way = some .directory

namespace SameDirectories

theorem refl (t : FileTree) : t.SameDirectories t := ⟨rfl, fun _ => Iff.rfl⟩

theorem trans {t'' : FileTree} (h : t.SameDirectories t') (h' : t'.SameDirectories t'') :
    t.SameDirectories t'' :=
  ⟨h'.here_eq.trans h.here_eq, fun way => (h'.directory_iff way).trans (h.directory_iff way)⟩

theorem keeps (h : t.SameDirectories t') : t.KeepsDirectories t' :=
  ⟨h.here_eq, (h.directory_iff _).mpr⟩

theorem put (hnil : way ≠ []) (hway : t.entry? way ≠ some .directory) (bytes : List UInt8) :
    t.SameDirectories (t.put way (.file bytes)) := by
  refine ⟨rfl, fun way' => ?_⟩
  by_cases hne : way' = way
  · subst hne
    rw [entry?_put_self hnil]
    exact ⟨fun h => (nomatch h), fun h => absurd h hway⟩
  · rw [entry?_put_of_ne hne]

theorem write (h : t.write path bytes = .ok t') : t.SameDirectories t' := by
  obtain ⟨⟨parent, name, hlocated⟩, -, hentry, rfl⟩ := write_eq_ok_iff.mp h
  exact put hlocated.toReaches.ne_nil hentry bytes

theorem remove (t : FileTree) (path : String) : t.SameDirectories (t.remove path) := by
  cases hread : t.read path with
  | ok bytes =>
    refine ⟨by rw [FileTree.remove, hread], fun way => ?_⟩
    rw [entry?_remove hread]
    by_cases hway : way = t.wayOf path
    · obtain ⟨-, -, hentry⟩ := read_eq_ok_iff.mp hread
      rw [if_pos hway, hway, hentry]
      exact ⟨fun h => (nomatch h), fun h => (nomatch h)⟩
    · rw [if_neg hway]
  | error e =>
    rw [remove_of_error hread]
    exact refl t

end SameDirectories

section Congruence

variable {parent : List String} (hreach : t.Reaches path parent name)
  (hkeeps : t.KeepsDirectories t')
include hreach hkeeps

theorem locate_congr : t'.locate path = t.locate path := by
  rw [hreach.locate_eq, (hreach.keep hkeeps).locate_eq]

/-- **Whether a file can be written** depends on nothing but whether a directory has its place. -/
theorem write_congr
    (hentry : t'.entry? (t.wayOf path) = some .directory ↔ t.entry? (t.wayOf path) = some .directory)
    (bytes bytes' : List UInt8) :
    (∃ e, t.write path bytes = .error e ∧ t'.write path bytes' = .error e) ∨
      t.write path bytes = .ok (t.put (t.wayOf path) (.file bytes)) ∧
        t'.write path bytes' = .ok (t'.put (t.wayOf path) (.file bytes')) := by
  rw [write_eq_bind, write_eq_bind, locate_congr hreach hkeeps, hreach.locate_eq]
  cases resolve path with
  | error e => exact .inl ⟨e, rfl, rfl⟩
  | ok parts =>
    rw [ok_bind]
    by_cases hsize : nameLimit < name.utf8ByteSize
    · rw [if_pos hsize]
      exact .inl ⟨_, rfl, rfl⟩
    rw [if_neg hsize, ok_bind, ok_bind]
    simp only [← hreach.wayOf_eq]
    by_cases hdirectory : t.entry? (t.wayOf path) = some .directory
    · rw [hdirectory, hentry.mpr hdirectory]
      exact .inl ⟨_, rfl, rfl⟩
    have hdirectory' := fun h => hdirectory (hentry.mp h)
    by_cases hends : path.endsWith "/"
    · simp only [if_pos hends]
      exact .inl ⟨.isADirectory, rfl, rfl⟩
    · simp only [if_neg hends]
      exact .inr ⟨trivial, trivial⟩

/-- What is left of a file that is removed depends on nothing but the file. -/
theorem remove_congr (hentry : t'.entry? (t.wayOf path) = t.entry? (t.wayOf path)) :
    entry? (t'.remove path) (t.wayOf path) = entry? (t.remove path) (t.wayOf path) := by
  have hread : t'.read path = t.read path := by
    rw [read_eq_bind, read_eq_bind, find_eq_bind, find_eq_bind, locate_congr hreach hkeeps,
      hreach.locate_eq]
    cases resolve path with
    | error e => rfl
    | ok parts =>
      rw [ok_bind]
      by_cases hsize : nameLimit < name.utf8ByteSize
      · rw [if_pos hsize]
        rfl
      rw [if_neg hsize, ok_bind, ok_bind]
      simp only [← hreach.wayOf_eq, hentry]
  cases hfound : t.read path with
  | ok bytes =>
    rw [entry?_remove hfound, entry?_remove (hread.trans hfound), hkeeps.wayOf_eq, if_pos rfl,
      if_pos rfl]
  | error e => rw [remove_of_error hfound, remove_of_error (hread.trans hfound), hentry]

end Congruence

/-! ## Making directories -/

theorem descend_cons (made : Bool) (t : FileTree) (done : List String) (name : String)
    (rest : List String) :
    t.descend made done (name :: rest) =
      if name = ".." then t.descend made done.dropLast rest
      else if nameLimit < name.utf8ByteSize then (.error .nameTooLong, t)
      else
        match t.entry? (done ++ [name]) with
        | some .directory => t.descend made (done ++ [name]) rest
        | some (.file _) => (.error (if made || rest = [] then .alreadyExists else .notADirectory), t)
        | none => (t.put (done ++ [name]) .directory).descend true (done ++ [name]) rest := by
  by_cases hname : name = ".."
  · rw [if_pos hname, hname, descend]
  · rw [if_neg hname]
    exact descend.eq_3 made t done name rest hname

theorem keepsDirectories_descend (made : Bool) (t : FileTree) (done names : List String) :
    t.KeepsDirectories (t.descend made done names).2 := by
  induction names generalizing made t done with
  | nil => exact .refl t
  | cons name rest ih =>
    rw [descend_cons]
    split
    · exact ih made t done.dropLast
    split
    · exact .refl t
    split
    · exact ih made t (done ++ [name])
    · exact .refl t
    next hentry =>
      have hput : t.KeepsDirectories (t.put (done ++ [name]) .directory) :=
        .put (by rw [hentry]; exact fun h => nomatch h) _
      exact hput.trans (ih true _ (done ++ [name]))

theorem file_of_descend (made : Bool) (t : FileTree) (done names way : List String)
    (bytes : List UInt8) :
    entry? (t.descend made done names).2 way = some (.file bytes) ↔
      t.entry? way = some (.file bytes) := by
  induction names generalizing made t done with
  | nil => rfl
  | cons name rest ih =>
    have hne : done ++ [name] ≠ [] := List.append_ne_nil_of_right_ne_nil _ (List.cons_ne_nil _ _)
    rw [descend_cons]
    split
    · exact ih made t done.dropLast
    split
    · rfl
    split
    · exact ih made t (done ++ [name])
    · rfl
    next hentry =>
      rw [ih]
      by_cases hway : way = done ++ [name]
      · rw [hway, hentry, entry?_put_self hne]
        exact ⟨fun h => (nomatch h), fun h => (nomatch h)⟩
      · rw [entry?_put_of_ne hway]

theorem walk_of_descend {made : Bool} {t : FileTree} {done names : List String}
    (h : (t.descend made done names).1 = .ok ()) :
    (t.descend made done names).2.walk done names = .ok (follow done names) := by
  induction names generalizing made t done with
  | nil => rfl
  | cons name rest ih =>
    have hne : done ++ [name] ≠ [] := List.append_ne_nil_of_right_ne_nil _ (List.cons_ne_nil _ _)
    rw [descend_cons] at h ⊢
    rw [follow, walk_cons]
    by_cases hname : name = ".."
    · simp only [if_pos hname] at h ⊢
      exact ih h
    simp only [if_neg hname] at h ⊢
    by_cases hsize : nameLimit < name.utf8ByteSize
    · rw [if_pos hsize] at h
      cases h
    simp only [if_neg hsize] at h ⊢
    cases hentry : t.entry? (done ++ [name]) with
    | none =>
      simp only [hentry] at h ⊢
      rw [(keepsDirectories_descend true _ (done ++ [name]) rest).directory (entry?_put_self hne _)]
      exact ih h
    | some e =>
      cases e with
      | directory =>
        simp only [hentry] at h ⊢
        rw [(keepsDirectories_descend made t (done ++ [name]) rest).directory hentry]
        exact ih h
      | file bytes =>
        simp only [hentry] at h
        cases h

theorem keepsDirectories_makeDirectories (t : FileTree) (path : String) :
    t.KeepsDirectories (t.makeDirectories path).2 := by
  rw [makeDirectories]
  split
  · exact .refl t
  · exact keepsDirectories_descend false t _ _

theorem file_of_makeDirectories (t : FileTree) (path : String) (way : List String)
    (bytes : List UInt8) :
    entry? (t.makeDirectories path).2 way = some (.file bytes) ↔
      t.entry? way = some (.file bytes) := by
  rw [makeDirectories]
  split
  · rfl
  · exact file_of_descend false t _ _ way bytes

/-- **A directory that was made can be reached.** -/
theorem walk_of_makeDirectories (h : (t.makeDirectories path).1 = .ok ()) :
    (t.makeDirectories path).2.walk (t.origin path) (pathParts path) = .ok (t.wayOf path) := by
  rw [makeDirectories] at h ⊢
  cases hfault : pathFault? path with
  | some e =>
    simp only [hfault] at h
    cases h
  | none =>
    simp only [hfault] at h ⊢
    exact walk_of_descend h

end MeshDoctor.FileTree
