import MeshDoctor.Proofs.Files.Tree
import MeshDoctor.Proofs.Inquiry.Exchanges
import MeshDoctor.Text.Utf8

/-!
# Files — a machine with files

* `Machine`, `Machine.host`: surroundings that keep files in a tree. Any change of files may be refused
  for a reason of the machine's own; a file that could not be written is then not there.
* `Machine.host_makeDirectories`, `Machine.host_writePath`: how a change can go.
* **`Machine.file_steps_iff`**: where no file is refused, the files are those that were written and
  those that were there; `Machine.read_of_mem`: what was written can be read.
* `Machine.reached_of_made`: a directory that was made stays within reach.
* **`Machine.reads`**: to an inquiry that is not about files the machine is a world.
-/

namespace MeshDoctor

open FileTree

/-- Is a request about files? -/
def Request.concernsFiles : Request → Bool
  | .pathExists _ | .readPath _ | .makeDirectories _ | .writePath .. => true
  | _ => false

/-- The path of the file that a request writes. -/
def Request.written? : Request → Option String
  | .writePath path _ => some path
  | _ => none

/-- Surroundings that keep files: what they answer to anything else, and which changes of files they
refuse. -/
structure Machine where
  world : World
  refusal? : Request → FileTree → Option SystemError := fun _ _ => none

namespace Machine

/-- The answers of a machine and the files it keeps. -/
def host (m : Machine) : Inquiry.Host FileTree
  | .pathExists path, t => (.ok (t.holds path), t)
  | .readPath path, t =>
    match t.read path with
    | .ok bytes => (.ok bytes, t)
    | .error e => (.error (.of (.system e)), t)
  | .makeDirectories path, t =>
    match m.refusal? (.makeDirectories path) t with
    | some e => (.error (.of (.system e)), t)
    | none =>
      match t.makeDirectories path with
      | (.ok (), t') => (.ok (), t')
      | (.error e, t') => (.error (.of (.system e)), t')
  | .writePath path text, t =>
    match m.refusal? (.writePath path text) t with
    | some e => (.error (.of (.system e)), t.remove path)
    | none =>
      match t.write path (Text.encode text) with
      | .ok t' => (.ok (), t')
      | .error e => (.error (.of (.system e)), t)
  | r, t => (m.world r, t)

variable {m : Machine} {t t' : FileTree} {r : Request} {path text : String} {way : List String}
  {bytes : List UInt8} {es : List Exchange}

/-! ## One request -/

theorem host_of_not_concerned (m : Machine) (h : r.concernsFiles = false) (t : FileTree) :
    m.host r t = (m.world r, t) := by
  cases r with
  | pathExists _ => cases h
  | readPath _ => cases h
  | makeDirectories _ => cases h
  | writePath _ _ => cases h
  | _ => rfl

theorem host_makeDirectories {answer : Except Failure Unit}
    (h : m.host (.makeDirectories path) t = (answer, t')) :
    answer = .ok () ∧ t.makeDirectories path = (.ok (), t') ∨
      ∃ f, answer = .error f ∧ (t' = t ∨ t' = (t.makeDirectories path).2) := by
  rw [host] at h
  split at h
  next e _ =>
    cases h
    exact .inr ⟨_, rfl, .inl rfl⟩
  next =>
    split at h
    next made hmade =>
      cases h
      exact .inl ⟨rfl, hmade⟩
    next e made hmade =>
      cases h
      exact .inr ⟨_, rfl, .inr (by rw [hmade])⟩

theorem host_writePath {answer : Except Failure Unit}
    (h : m.host (.writePath path text) t = (answer, t')) :
    answer = .ok () ∧ t.write path (Text.encode text) = .ok t' ∨
      ∃ f, answer = .error f ∧
        (t' = t.remove path ∨ t' = t ∧ ∃ e, t.write path (Text.encode text) = .error e) := by
  rw [host] at h
  split at h
  next e _ =>
    cases h
    exact .inr ⟨_, rfl, .inl rfl⟩
  next =>
    split at h
    next written hwritten =>
      cases h
      exact .inl ⟨rfl, hwritten⟩
    next e hwritten =>
      cases h
      exact .inr ⟨_, rfl, .inr ⟨rfl, e, hwritten⟩⟩

theorem write_of_host (h : m.host (.writePath path text) t = (.ok (), t')) :
    t.write path (Text.encode text) = .ok t' := by
  obtain ⟨-, hwrite⟩ | ⟨f, hanswer, -⟩ := host_writePath h
  · exact hwrite
  · cases hanswer

/-- A file that could not be written is not there. -/
theorem read_of_refused {f : Failure} (h : m.host (.writePath path text) t = (.error f, t')) :
    t'.read path ≠ .ok bytes := by
  obtain ⟨hanswer, -⟩ | ⟨-, -, rfl | ⟨rfl, e, hwrite⟩⟩ := host_writePath h
  · cases hanswer
  · exact read_remove t path bytes
  · exact read_of_write_error hwrite bytes

/-- Writing makes and removes no directories. -/
theorem sameDirectories_writePath (m : Machine) (t : FileTree) (path text : String) :
    t.SameDirectories (m.host (.writePath path text) t).2 := by
  obtain ⟨-, hwrite⟩ | ⟨-, -, heq | ⟨heq, -⟩⟩ := host_writePath (Prod.eta _).symm
  · exact .write hwrite
  · rw [heq]
    exact .remove t path
  · rw [heq]
    exact .refl t

theorem keepsDirectories_host (m : Machine) (r : Request) (t : FileTree) :
    t.KeepsDirectories (m.host r t).2 := by
  cases r with
  | makeDirectories path =>
    have hmade := keepsDirectories_makeDirectories t path
    obtain ⟨-, heq⟩ | ⟨-, -, heq | heq⟩ := host_makeDirectories (Prod.eta _).symm
    · rwa [heq] at hmade
    · rw [heq]
      exact .refl t
    · rwa [← heq] at hmade
  | writePath path text => exact (m.sameDirectories_writePath t path text).keeps
  | readPath path =>
    rw [host]
    split
    · exact .refl t
    · exact .refl t
  | _ => exact .refl t

theorem keepsDirectories_of_host {answer : Except Failure r.Answer}
    (h : m.host r t = (answer, t')) : t.KeepsDirectories t' := by
  have hkeeps := m.keepsDirectories_host r t
  rwa [h] at hkeeps

theorem entry?_writePath_of_ne (m : Machine) (h : t.wayOf path ≠ way) (text : String) :
    entry? (m.host (.writePath path text) t).2 way = t.entry? way := by
  obtain ⟨-, hwrite⟩ | ⟨-, -, heq | ⟨heq, -⟩⟩ := host_writePath (Prod.eta _).symm
  · obtain ⟨-, -, -, heq⟩ := write_eq_ok_iff.mp hwrite
    rw [heq, entry?_put_of_ne (Ne.symm h)]
  · rw [heq, entry?_remove_of_ne (Ne.symm h)]
  · rw [heq]

/-- A file stays where it is, and no file appears, unless something is written there. -/
theorem file_host_of_ne {answer : Except Failure r.Answer} (hhost : m.host r t = (answer, t'))
    (h : r.written?.map t.wayOf ≠ some way) :
    t'.entry? way = some (.file bytes) ↔ t.entry? way = some (.file bytes) := by
  obtain rfl : (m.host r t).2 = t' := congrArg Prod.snd hhost
  clear hhost
  cases r with
  | makeDirectories path =>
    have hmade := file_of_makeDirectories t path way bytes
    obtain ⟨-, heq⟩ | ⟨-, -, heq | heq⟩ := host_makeDirectories (Prod.eta _).symm
    · rwa [heq] at hmade
    · rw [heq]
    · rwa [← heq] at hmade
  | writePath path text => rw [m.entry?_writePath_of_ne (fun heq => h (congrArg some heq))]
  | readPath path =>
    rw [host]
    split
    · rfl
    · rfl
  | _ => rfl

theorem file_host_of_write (h : m.host (.writePath path text) t = (.ok (), t')) :
    t'.entry? way = some (.file bytes) ↔
      t.wayOf path = way ∧ bytes = Text.encode text ∨
        t.wayOf path ≠ way ∧ t.entry? way = some (.file bytes) := by
  obtain ⟨⟨_, _, hlocated⟩, -, -, rfl⟩ := write_eq_ok_iff.mp (write_of_host h)
  by_cases hway : t.wayOf path = way
  · subst hway
    rw [entry?_put_self hlocated.toReaches.ne_nil]
    simp [eq_comm]
  · rw [entry?_put_of_ne (Ne.symm hway)]
    simp [hway]

/-! ## Many requests -/

theorem keepsDirectories_steps (h : m.host.Steps t es t') : t.KeepsDirectories t' :=
  h.invariant (fun e _ s hs => hs.trans (m.keepsDirectories_host e.1 s)) (.refl t)

/-- No file appears or disappears where nothing is written. -/
theorem file_steps_of_ne (h : m.host.Steps t es t')
    (hes : ∀ e ∈ es, ∀ path, e.1.written? = some path → t.wayOf path ≠ way) :
    t'.entry? way = some (.file bytes) ↔ t.entry? way = some (.file bytes) := by
  induction h with
  | nil t => rfl
  | @cons r answer t s₁ t' es hhost hrest ih =>
    have hway : r.written?.map t.wayOf ≠ some way := by
      intro heq
      obtain ⟨path, hpath, hway⟩ := Option.map_eq_some_iff.mp heq
      exact hes _ List.mem_cons_self path hpath hway
    rw [ih fun e he path => ?_, file_host_of_ne hhost hway]
    rw [(keepsDirectories_of_host hhost).wayOf_eq]
    exact hes e (List.mem_cons_of_mem _ he) path

/-- **A directory that was made stays within reach.** -/
theorem reached_of_made (h : m.host.Steps t es t') (he : ⟨.makeDirectories path, .ok ()⟩ ∈ es) :
    t'.walk (t'.origin path) (pathParts path) = .ok (t'.wayOf path) := by
  obtain ⟨before, after, s₁, s₂, -, -, hhost, hafter⟩ := h.of_mem he
  have hmade : s₁.makeDirectories path = (.ok (), s₂) := by
    obtain ⟨-, heq⟩ | ⟨f, hanswer, -⟩ := host_makeDirectories hhost
    · exact heq
    · cases hanswer
  have hwalk : s₂.walk (s₁.origin path) (pathParts path) = .ok (s₁.wayOf path) := by
    have hreached : (s₁.makeDirectories path).2.walk (s₁.origin path) (pathParts path) =
        .ok (s₁.wayOf path) := walk_of_makeDirectories (by rw [hmade])
    rwa [hmade] at hreached
  have hkeeps := (keepsDirectories_of_host hhost).trans (keepsDirectories_steps hafter)
  rw [hkeeps.origin_eq, hkeeps.wayOf_eq]
  exact (keepsDirectories_steps hafter).walk_eq_ok hwalk

/-- The paths of the files that are to be written. -/
def paths (es : List Exchange) : List String := es.filterMap (·.1.written?)

@[simp] theorem paths_append (es es' : List Exchange) : paths (es ++ es') = paths es ++ paths es' :=
  List.filterMap_append

theorem paths_cons_of_not_written {answer : Except Failure r.Answer} (h : r.written? = none)
    (es : List Exchange) : paths (⟨r, answer⟩ :: es) = paths es :=
  List.filterMap_cons_none h

theorem write_inj {path text path' text' : String} {answer answer' : Except Failure Unit}
    (h : (⟨.writePath path text, answer⟩ : Exchange) = ⟨.writePath path' text', answer'⟩) :
    path = path' ∧ text = text' ∧ answer = answer' := by
  cases h
  exact ⟨rfl, rfl, rfl⟩

theorem mem_paths {answer : Except Failure Unit} (he : ⟨.writePath path text, answer⟩ ∈ es) :
    path ∈ paths es :=
  List.mem_filterMap.mpr ⟨_, he, rfl⟩

section Accepted

variable (h : m.host.Steps t es t') (haccepted : ∀ path text f, ⟨.writePath path text, .error f⟩ ∉ es)
  (hnodup : ((paths es).map t.wayOf).Nodup)
include h haccepted hnodup

/-- **Where no file is refused**, the files are those that were written and those that were there. -/
theorem file_steps_iff : t'.entry? way = some (.file bytes) ↔
    (∃ path text, ⟨.writePath path text, .ok ()⟩ ∈ es ∧ t.wayOf path = way ∧
        bytes = Text.encode text) ∨
      (∀ path ∈ paths es, t.wayOf path ≠ way) ∧ t.entry? way = some (.file bytes) := by
  induction h with
  | nil t => simp [paths]
  | @cons r answer t s₁ t' es hhost hrest ih =>
    have haccepted' (path text f) : ⟨.writePath path text, .error f⟩ ∉ es := fun he =>
      haccepted path text f (List.mem_cons_of_mem _ he)
    have hways : s₁.wayOf = t.wayOf := funext (keepsDirectories_of_host hhost).wayOf_eq
    rw [hways] at ih
    cases hr : r.written? with
    | none =>
      have hway : r.written?.map t.wayOf ≠ some way := by
        rw [hr]
        exact fun heq => nomatch heq
      rw [paths_cons_of_not_written hr] at hnodup ⊢
      rw [ih haccepted' hnodup, file_host_of_ne hhost hway]
      refine or_congr_left (exists₂_congr fun path text => and_congr_left fun _ => ?_)
      constructor
      · exact List.mem_cons_of_mem _
      · rintro (_ | ⟨_, hmem⟩)
        · cases hr
        · exact hmem
    | some path =>
      cases r with
      | writePath path' text =>
        obtain rfl : path' = path := Option.some.inj hr
        cases answer with
        | error f => exact absurd List.mem_cons_self (haccepted path' text f)
        | ok u =>
          obtain ⟨⟩ := u
          have hpaths : paths (⟨.writePath path' text, .ok ()⟩ :: es) = path' :: paths es := rfl
          rw [hpaths] at hnodup ⊢
          obtain ⟨hfresh, hnodup⟩ := List.nodup_cons.mp hnodup
          have hothers (hway : t.wayOf path' = way) : ∀ path ∈ paths es, t.wayOf path ≠ way :=
            fun path hpath heq => hfresh (List.mem_map.mpr ⟨path, hpath, heq.trans hway.symm⟩)
          rw [ih haccepted' hnodup, file_host_of_write hhost, List.forall_mem_cons]
          constructor
          · rintro (⟨path, text', hmem, hfile⟩ | ⟨hnone, hfile | ⟨hway, hthere⟩⟩)
            · exact .inl ⟨path, text', List.mem_cons_of_mem _ hmem, hfile⟩
            · exact .inl ⟨path', text, List.mem_cons_self, hfile⟩
            · exact .inr ⟨⟨hway, hnone⟩, hthere⟩
          · rintro (⟨path, text', _ | ⟨_, hmem⟩, hfile⟩ | ⟨⟨hway, hnone⟩, hthere⟩)
            · exact .inr ⟨hothers hfile.1, .inl hfile⟩
            · exact .inl ⟨path, text', hmem, hfile⟩
            · exact .inr ⟨hnone, .inr ⟨hway, hthere⟩⟩
      | _ => cases hr

theorem read_of_mem (he : ⟨.writePath path text, .ok ()⟩ ∈ es) :
    t'.read path = .ok (Text.encode text) := by
  obtain ⟨before, after, s₁, s₂, -, hbefore, hhost, hafter⟩ := h.of_mem he
  have hkeeps : s₁.KeepsDirectories t' :=
    (keepsDirectories_of_host hhost).trans (keepsDirectories_steps hafter)
  refine read_of_keeps (write_of_host hhost) hkeeps ?_
  rw [(keepsDirectories_steps hbefore).wayOf_eq]
  exact (file_steps_iff h haccepted hnodup).mpr (.inl ⟨path, text, he, rfl, rfl⟩)

end Accepted

/-! ## Exchanges about files -/

/-- The exchanges about files. -/
def aboutFiles (es : List Exchange) : List Exchange := es.filter (·.1.concernsFiles)

@[simp] theorem aboutFiles_append (es es' : List Exchange) :
    aboutFiles (es ++ es') = aboutFiles es ++ aboutFiles es' :=
  List.filter_append es es'

theorem mem_aboutFiles {e : Exchange} (h : e.1.concernsFiles) : e ∈ aboutFiles es ↔ e ∈ es := by
  rw [aboutFiles, List.mem_filter]
  exact and_iff_left h

theorem paths_aboutFiles (es : List Exchange) : paths (aboutFiles es) = paths es := by
  induction es with
  | nil => rfl
  | cons e es ih =>
    obtain ⟨r, answer⟩ := e
    cases r with
    | writePath path text => exact congrArg (path :: ·) ih
    | _ => exact ih

/-- Anything that is not about files is answered by the world. -/
theorem answer_of_steps (h : m.host.Steps t es t') :
    ∀ e ∈ es, e.1.concernsFiles = false → e.2 = m.world e.1 := by
  intro e he hconcern
  obtain ⟨-, -, s₁, s₂, -, -, hhost, -⟩ := h.of_mem he
  rw [m.host_of_not_concerned hconcern] at hhost
  exact (congrArg Prod.fst hhost).symm

/-- **To an inquiry that is not about files** the machine is a world. -/
theorem reads {α : Type} {x : Lookup α} {result : Except Failure α}
    (hx : x.run.AsksOnly (·.concernsFiles = false)) (h : m.host.Runs x t es result t') :
    result = m.world.finds x ∧ t' = t ∧ aboutFiles es = [] := by
  have hanswers (r s) (hr : r.concernsFiles = false) (hs : s = t) :
      (m.host r s).1 = m.world r ∧ (m.host r s).2 = t := by
    rw [m.host_of_not_concerned hr s]
    exact ⟨rfl, hs⟩
  obtain ⟨hrun, -⟩ := hx.runs_of_answers (w := m.world) hanswers (rfl : t = t)
  have hstay : (x.run.runState m.host t).2 = t :=
    hx.invariant (fun r s hr hs => (hanswers r s hr hs).2) (rfl : t = t)
  have hstate := h.runState_eq
  refine ⟨?_, ?_, ?_⟩
  · exact congrArg Prod.fst (hstate.symm.trans hrun)
  · rw [← hstay, hstate]
  · rw [aboutFiles, List.filter_eq_nil_iff, ← h.exchanges_eq]
    intro e he
    rw [hx.of_mem_exchanges he]
    exact Bool.false_ne_true

end Machine

end MeshDoctor
