import MeshDoctor.Config.Load
import MeshDoctor.Proofs.Inquiry.Finds
import MeshDoctor.Proofs.Text.Utf8
import Mathlib.Tactic.SplitIfs

/-!
# Configuration — the override of the namespace

A file is validated before the override, so what is replaced still counts in one way.

* `SameButNamespace`: settings that differ in the namespace at most.
* `fault?_withNamespace`: which namespace it is does not matter to validity, as long as there is one.
* `overrideNamespace_cases`, `validate_overrideNamespace`: what the override does, and that settings
  stay valid.
* `finds_load_of_found`, `finds_load_of_not_found`: what is loaded, whatever the surroundings say.
* `World.HasConfigFile`, `finds_load`: what is loaded from a file, with the variable set.
* **`load_eq_load_iff`**: the override hides the namespace of a file, but not that it is empty.
-/

namespace MeshDoctor

/-- Is there a file at the path that states these settings? -/
structure World.HasConfigFile (w : World) (path : String) (c : Config) : Prop where
  found : w (.pathExists path) = .ok true
  states : ∃ (bytes : List UInt8) (text : String), w (.readPath path) = .ok bytes ∧
    Text.decodeStrict bytes = .ok text ∧ Config.ofYaml? text = some c

/-- The value of the variable that selects the namespace, if there is one. -/
def World.namespaceValue (w : World) : Option String :=
  (w (.variable Config.namespaceVariable)).toOption.join

namespace Config

/-- Do the settings differ in the namespace at most? -/
def SameButNamespace (c c' : Config) : Prop :=
  { c with meshNamespace := "" } = { c' with meshNamespace := "" }

variable {c c' : Config} {ns : String}

/-! ## Validity -/

/-- An empty namespace is the fault that counts, and no other setting has this fault. -/
theorem fault?_eq_emptyNamespace_iff : c.fault? = some .emptyNamespace ↔ c.meshNamespace = "" := by
  rw [← String.isEmpty_iff, fault?]
  split_ifs <;> simp_all

/-- One namespace in the place of another keeps the fault. -/
theorem fault?_withNamespace (hns : ns ≠ "") (h : c.meshNamespace ≠ "") :
    ({ c with meshNamespace := ns } : Config).fault? = c.fault? := by
  simp only [fault?, String.isEmpty_iff, hns, h, if_false]

theorem Fault.message_injective : Function.Injective Fault.message := by
  intro fault other
  cases fault <;> cases other <;> simp [message]

theorem validate_eq_ok_iff {valid : Config} :
    c.validate = .ok valid ↔ c.fault? = none ∧ c = valid := by
  rw [validate]
  cases c.fault? <;> simp

theorem meshNamespace_ne_empty (h : c.fault? = none) : c.meshNamespace ≠ "" := by
  intro hempty
  rw [fault?_eq_emptyNamespace_iff.mpr hempty] at h
  cases h

theorem validate_withNamespace (hns : ns ≠ "") (h : c.fault? = none) :
    ({ c with meshNamespace := ns } : Config).validate = .ok { c with meshNamespace := ns } :=
  validate_eq_ok_iff.mpr ⟨(fault?_withNamespace hns (meshNamespace_ne_empty h)).trans h, rfl⟩

theorem SameButNamespace.withNamespace (h : c.SameButNamespace c') (ns : String) :
    ({ c with meshNamespace := ns } : Config) = { c' with meshNamespace := ns } :=
  congrArg (fun c : Config => { c with meshNamespace := ns }) h

/-- Settings that differ in their namespaces have the same fault, if they have namespaces. -/
theorem SameButNamespace.fault?_eq (hsame : c.SameButNamespace c') (h : c.meshNamespace ≠ "")
    (h' : c'.meshNamespace ≠ "") : c.fault? = c'.fault? :=
  calc c.fault?
    _ = ({ c with meshNamespace := "osm" } : Config).fault? :=
      (fault?_withNamespace (by decide) h).symm
    _ = ({ c' with meshNamespace := "osm" } : Config).fault? := by rw [hsame.withNamespace "osm"]
    _ = c'.fault? := fault?_withNamespace (by decide) h'

/-! ## The override -/

section

variable {value : Option String}

theorem overrideNamespace_of_ne_empty (hns : ns ≠ "") :
    c.overrideNamespace (some ns) = { c with meshNamespace := ns } := by
  simp [overrideNamespace, Option.filter, hns]

theorem overrideNamespace_of_empty (h : value = none ∨ value = some "") :
    c.overrideNamespace value = c := by
  rcases h with rfl | rfl <;> rfl

/-- Only a value that is not empty replaces the namespace. -/
theorem overrideNamespace_cases (c : Config) (value : Option String) :
    ((value = none ∨ value = some "") ∧ c.overrideNamespace value = c) ∨
      ∃ ns, value = some ns ∧ ns ≠ "" ∧
        c.overrideNamespace value = { c with meshNamespace := ns } := by
  cases value with
  | none => exact .inl ⟨.inl rfl, rfl⟩
  | some ns =>
    by_cases hns : ns = ""
    · subst hns
      exact .inl ⟨.inr rfl, rfl⟩
    · exact .inr ⟨ns, rfl, hns, overrideNamespace_of_ne_empty hns⟩

theorem overrideNamespace_sameButNamespace :
    (c.overrideNamespace value).SameButNamespace c := by
  rcases overrideNamespace_cases c value with ⟨-, h⟩ | ⟨ns, -, -, h⟩
  · rw [h]
    rfl
  · rw [h]
    rfl

/-- A valid configuration has the namespace of the variable exactly if that is not empty. -/
theorem meshNamespace_overrideNamespace_iff (h : c.fault? = none) (hvalue : value = some ns) :
    (c.overrideNamespace value).meshNamespace = ns ↔ ns ≠ "" := by
  subst hvalue
  by_cases hns : ns = ""
  · subst hns
    exact iff_of_false (meshNamespace_ne_empty h) fun hne => hne rfl
  · rw [overrideNamespace_of_ne_empty hns]
    exact iff_of_true rfl hns

theorem overrideNamespace_idem :
    (c.overrideNamespace value).overrideNamespace value = c.overrideNamespace value := by
  rcases overrideNamespace_cases c value with ⟨-, h⟩ | ⟨ns, rfl, hns, h⟩
  · rw [h, h]
  · rw [h, overrideNamespace_of_ne_empty hns]

theorem validate_overrideNamespace (h : c.validate = .ok c) :
    (c.overrideNamespace value).validate = .ok (c.overrideNamespace value) := by
  rcases overrideNamespace_cases c value with ⟨-, hsame⟩ | ⟨ns, -, hns, hother⟩
  · rw [hsame, h]
  · rw [hother]
    exact validate_withNamespace hns (validate_eq_ok_iff.mp h).1

end

/-! ## Loading -/

section

variable {w : World} {path : String}

/-- What a file states is validated. -/
theorem validate_of_finds_fromFile (h : w.finds (fromFile path) = .ok c) : c.validate = .ok c := by
  rw [fromFile, World.finds_bind] at h
  obtain ⟨bytes, -, hbytes⟩ := bind_eq_ok.mp h
  have hvalid : ofBytes path bytes = .ok c := hbytes
  obtain ⟨text, -, hparsed⟩ := bind_eq_ok.mp hvalid
  obtain ⟨stated, -, hstated⟩ := bind_eq_ok.mp hparsed
  obtain ⟨hfault, rfl⟩ := validate_eq_ok_iff.mp hstated
  exact hstated

/-- The last step of loading, after the settings that a run starts from. -/
theorem finds_override (c : Config) : w.finds (do
      let value : Option String ← requestOr (.variable namespaceVariable) none
      Lookup.ofResult (c.overrideNamespace value).validate) =
    (c.overrideNamespace w.namespaceValue).validate := by
  have hvalue : w.finds (requestOr (.variable namespaceVariable) none) = .ok w.namespaceValue := by
    change Except.ok ((w (.variable namespaceVariable)).toOption.getD none) = _
    rw [World.namespaceValue]
    cases (w (.variable namespaceVariable)).toOption <;> rfl
  exact World.finds_bind_of_ok hvalue _

theorem finds_load_of_found (h : w (.pathExists path) = .ok true) :
    w.finds (load path) =
      (w.finds (fromFile path)).map (·.overrideNamespace w.namespaceValue) := by
  refine (World.finds_bind_of_ok (World.finds_requestOr_of_ok h _) _).trans ?_
  refine (w.finds_bind (fromFile path) _).trans ?_
  cases hfile : w.finds (fromFile path) with
  | error f => rfl
  | ok base =>
    exact (finds_override base).trans
      (validate_overrideNamespace (validate_of_finds_fromFile hfile))

theorem finds_load_of_not_found (h : w (.pathExists path) ≠ .ok true) :
    w.finds (load path) = .ok (({} : Config).overrideNamespace w.namespaceValue) := by
  have hfound : w.finds (requestOr (.pathExists path) false) = .ok false := by
    change Except.ok ((w (.pathExists path)).toOption.getD false) = _
    cases hanswer : w (.pathExists path) with
    | error f => rfl
    | ok found =>
      cases found with
      | true => exact absurd hanswer h
      | false => rfl
  have hdefault : ({} : Config).validate = .ok {} := rfl
  refine (World.finds_bind_of_ok hfound _).trans ?_
  exact (finds_override {}).trans (validate_overrideNamespace hdefault)

end

/-- The text of a file counts if it states settings. -/
theorem finds_fromFile_of_readPath {w : World} {path text : String} {bytes : List UInt8}
    (hread : w (.readPath path) = .ok bytes) (hdecode : Text.decodeStrict bytes = .ok text)
    (hparse : ofYaml? text = some c) : w.finds (fromFile path) = c.validate := by
  -- Each step up to the validation goes well.
  have htext : readText path bytes = .ok text := by rw [readText, hdecode]
  have hstated : parse path text = .ok c := by rw [parse, hparse]
  have hbytes : ofBytes path bytes = c.validate := by
    rw [ofBytes, htext]
    change (parse path text).bind validate = _
    rw [hstated, ok_bind]
  have hfound : w.finds ((request (.readPath path)).within ("Failed to read " ++ path)) =
      .ok bytes := by
    rw [World.finds_within]
    exact addContext_eq_ok.mpr hread
  exact (World.finds_bind_of_ok hfound _).trans hbytes

theorem finds_fromFile {w : World} {path : String} (h : w.HasConfigFile path c) :
    w.finds (fromFile path) = c.validate := by
  obtain ⟨bytes, text, hread, hdecode, hparse⟩ := h.states
  exact finds_fromFile_of_readPath hread hdecode hparse

/-- The settings of a file, if they are valid, are loaded with the namespace of the variable. -/
theorem finds_load {w : World} {path : String} (h : w.HasConfigFile path c) (hns : ns ≠ "")
    (hvariable : w (.variable namespaceVariable) = .ok (some ns)) :
    w.finds (load path) = c.validate.map fun valid => { valid with meshNamespace := ns } := by
  have hvalue : w.namespaceValue = some ns := by
    rw [World.namespaceValue, hvariable]
    rfl
  rw [finds_load_of_found h.found, finds_fromFile h, hvalue]
  simp only [overrideNamespace_of_ne_empty hns]

/-- A file without a namespace is refused for that, and no other file is. -/
theorem finds_load_eq_emptyNamespace_iff {w : World} {path : String} (h : w.HasConfigFile path c)
    (hns : ns ≠ "") (hvariable : w (.variable namespaceVariable) = .ok (some ns)) :
    w.finds (load path) = .error (.say Fault.emptyNamespace.message) ↔ c.meshNamespace = "" := by
  rw [finds_load h hns hvariable, ← fault?_eq_emptyNamespace_iff, validate]
  cases c.fault? with
  | none => simp [Except.map]
  | some fault => simp [Except.map, Failure.say, Failure.of, Fault.message_injective.eq_iff]

/-- **The override hides the namespace of a file, but not that it is empty.** -/
theorem load_eq_load_iff {w w' : World} {path path' : String} (h : w.HasConfigFile path c)
    (h' : w'.HasConfigFile path' c') (hsame : c.SameButNamespace c') (hns : ns ≠ "")
    (hvariable : w (.variable namespaceVariable) = .ok (some ns))
    (hvariable' : w' (.variable namespaceVariable) = .ok (some ns)) :
    (w.finds (load path) = w'.finds (load path') ↔
        (c.meshNamespace = "" ↔ c'.meshNamespace = "")) ∧
      (c.meshNamespace = "" →
        w.finds (load path) = .error (.say "mesh_namespace cannot be empty")) := by
  have hempty := finds_load_eq_emptyNamespace_iff h hns hvariable
  have hempty' := finds_load_eq_emptyNamespace_iff h' hns hvariable'
  refine ⟨⟨fun heq => by rw [← hempty, ← hempty', heq], fun hiff => ?_⟩, hempty.mpr⟩
  by_cases hc : c.meshNamespace = ""
  · rw [hempty.mpr hc, hempty'.mpr (hiff.mp hc)]
  · rw [finds_load h hns hvariable, finds_load h' hns hvariable', validate, validate,
      hsame.fault?_eq hc (fun hc' => hc (hiff.mpr hc'))]
    cases c'.fault? with
    | none => exact congrArg Except.ok (hsame.withNamespace ns)
    | some fault => rfl

/-! ## Two files -/

/-- A machine with a configuration file and the variable set. -/
def configuredMachine (text : String) : World
  | .pathExists _ => .ok true
  | .readPath _ => .ok (Text.encode text)
  | .variable _ => .ok (some "env-ns")
  | r => World.silent r

theorem hasConfigFile_configuredMachine {text path : String} (h : ofYaml? text = some c) :
    (configuredMachine text).HasConfigFile path c :=
  ⟨rfl, Text.encode text, text, rfl, Text.decodeStrict_encode text, h⟩

/-- Of two files that are the same but for the namespace, the one without is refused. -/
theorem load_ne_load_of_emptyNamespace :
    let w := configuredMachine "mesh_namespace: ''\n"
    let w' := configuredMachine "mesh_namespace: shop\n"
    w.HasConfigFile "doctor.yaml" { meshNamespace := "" } ∧
      w'.HasConfigFile "doctor.yaml" { meshNamespace := "shop" } ∧
      SameButNamespace { meshNamespace := "" } { meshNamespace := "shop" } ∧
      w (.variable "OSM_NAMESPACE") = .ok (some "env-ns") ∧
      w' (.variable "OSM_NAMESPACE") = .ok (some "env-ns") ∧
      w.finds (load "doctor.yaml") = .error (.say "mesh_namespace cannot be empty") ∧
      w'.finds (load "doctor.yaml") = .ok { meshNamespace := "env-ns" } ∧
      w.finds (load "doctor.yaml") ≠ w'.finds (load "doctor.yaml") := by
  intro w w'
  have hfile : w.HasConfigFile "doctor.yaml" { meshNamespace := "" } :=
    hasConfigFile_configuredMachine (by decide +kernel)
  have hfile' : w'.HasConfigFile "doctor.yaml" { meshNamespace := "shop" } :=
    hasConfigFile_configuredMachine (by decide +kernel)
  have hrefused : w.finds (load "doctor.yaml") = .error (.say "mesh_namespace cannot be empty") :=
    (finds_load_eq_emptyNamespace_iff hfile (by decide) rfl).mpr rfl
  have hloaded : w'.finds (load "doctor.yaml") = .ok { meshNamespace := "env-ns" } :=
    finds_load hfile' (by decide) rfl
  refine ⟨hfile, hfile', rfl, rfl, rfl, hrefused, hloaded, ?_⟩
  rw [hrefused, hloaded]
  exact nofun

/-- Two files with namespaces of their own are not told apart. -/
theorem load_eq_load_iff_configuredMachine :
    let w := configuredMachine "mesh_namespace: stock\nmesh_name: north\n"
    let w' := configuredMachine "mesh_name: north\nmesh_namespace: shop\n"
    w.HasConfigFile "doctor.yaml" { meshNamespace := "stock", meshName := "north" } ∧
      w'.HasConfigFile "other.yaml" { meshNamespace := "shop", meshName := "north" } ∧
      w (.variable namespaceVariable) = .ok (some "env-ns") ∧
      w' (.variable namespaceVariable) = .ok (some "env-ns") ∧
      w.finds (load "doctor.yaml") = w'.finds (load "other.yaml") := by
  intro w w'
  have hfile : w.HasConfigFile "doctor.yaml" { meshNamespace := "stock", meshName := "north" } :=
    hasConfigFile_configuredMachine (by decide +kernel)
  have hfile' : w'.HasConfigFile "other.yaml" { meshNamespace := "shop", meshName := "north" } :=
    hasConfigFile_configuredMachine (by decide +kernel)
  exact ⟨hfile, hfile', rfl, rfl,
    (load_eq_load_iff hfile hfile' rfl (by decide) rfl rfl).1.mpr (by decide)⟩

end Config

end MeshDoctor
