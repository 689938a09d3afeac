import MeshDoctor.Proofs.Config.Override
import MeshDoctor.Proofs.Yaml.Document

/-!
# Configuration — reading back the YAML form

Texts that look like something else are quoted, so that each setting reads as what it was written
for; a setting that is not there is left out, and reads as its default, which is that it is not
there.

* `Config.entries`: the lines of the YAML form as entries of a mapping.
* `stated?_of_mem`, `stated?_of_notMem`: what a mapping says on a name.
* `settingOr_text`, `settingOr_number`, `settingOr_optional`: each kind of setting is read back.
* **`toYaml_reads_back`**: printable settings are read back, and a file with them is accepted if they are
  valid.
-/

namespace MeshDoctor

open Yaml

namespace Yaml.Entry

/-- The entry of a text. -/
def ofText (name text : String) : Entry where
  name := name
  style := .of text.toList
  text := text.toList
  written := writeScalar text.toList

/-- The entry of a number. -/
def ofNumber (name : String) (n : Nat) : Entry where
  name := name
  style := .plain
  text := (toString n).toList
  written := (toString n).toList

variable {name text : String}

theorem isReadable_ofText (hname : IsKey name.toList) (h : ∀ c ∈ text.toList, IsPrintable c) :
    (ofText name text).IsReadable :=
  ⟨hname, written_writeScalar h⟩

theorem isReadable_ofNumber (hname : IsKey name.toList) (n : Nat) :
    (ofNumber name n).IsReadable :=
  ⟨hname, .plain (fun c hc => isPrintable_of_word ((isWord_toString n).2 c hc))
    (isWord_toString n).isPlain⟩

end Yaml.Entry

namespace Config

variable {c : Config}

/-! ## Writing -/

/-- The settings that are texts. -/
def texts (c : Config) : List String :=
  [c.meshNamespace, c.meshName, c.controllerName, c.injectorName, c.bootstrapName, c.meshConfigName,
    c.kubectlPath] ++ c.kubeconfig.toList ++ c.kubeContext.toList

/-- All texts consist of printable characters. -/
def IsPrintable (c : Config) : Prop := ∀ text ∈ c.texts, ∀ ch ∈ text.toList, Yaml.IsPrintable ch

/-- The entries of the YAML form. -/
def entries (c : Config) : List Entry :=
  [.ofText "mesh_namespace" c.meshNamespace, .ofText "mesh_name" c.meshName,
    .ofText "controller_name" c.controllerName, .ofText "injector_name" c.injectorName,
    .ofText "bootstrap_name" c.bootstrapName, .ofText "mesh_config_name" c.meshConfigName,
    .ofNumber "envoy_admin_port" c.adminPort.toNat,
    .ofNumber "admin_timeout_secs" c.adminTimeout.toNat, .ofText "kubectl_path" c.kubectlPath]
    ++ c.kubeconfig.toList.map (.ofText "kubeconfig")
    ++ c.kubeContext.toList.map (.ofText "kube_context")

theorem toYaml_eq (c : Config) : c.toYaml = String.ofList (lines c.entries) := by
  have hlines : c.yamlLines = c.entries.map Entry.line := by
    simp [yamlLines, entries, Function.comp_def, Entry.line, Entry.ofText, Entry.ofNumber]
  rw [toYaml, hlines, lines, List.flatMap_def]

theorem isKey_fieldNames : ∀ name ∈ fieldNames, IsKey name.toList := by decide

theorem isReadable_of_mem_entries (h : c.IsPrintable) : ∀ e ∈ c.entries, e.IsReadable := by
  have htext : ∀ name ∈ fieldNames, ∀ text ∈ c.texts, (Entry.ofText name text).IsReadable :=
    fun name hname text htext => Entry.isReadable_ofText (isKey_fieldNames name hname) (h text htext)
  have hnumber : ∀ name ∈ fieldNames, ∀ n, (Entry.ofNumber name n).IsReadable :=
    fun name hname n => Entry.isReadable_ofNumber (isKey_fieldNames name hname) n
  have hpath : ∀ path ∈ c.kubeconfig.toList, path ∈ c.texts := fun path hpath => by
    simp [texts, Option.mem_toList.mp hpath]
  have hcontext : ∀ name ∈ c.kubeContext.toList, name ∈ c.texts := fun name hname => by
    simp [texts, Option.mem_toList.mp hname]
  simp only [entries, List.forall_mem_append, List.forall_mem_cons, List.forall_mem_map]
  refine ⟨⟨⟨htext _ (by decide) _ (by simp [texts]), htext _ (by decide) _ (by simp [texts]),
    htext _ (by decide) _ (by simp [texts]), htext _ (by decide) _ (by simp [texts]),
    htext _ (by decide) _ (by simp [texts]), htext _ (by decide) _ (by simp [texts]),
    hnumber _ (by decide) _, hnumber _ (by decide) _, htext _ (by decide) _ (by simp [texts]), ?_⟩,
    fun path h => htext _ (by decide) _ (hpath path h)⟩,
    fun name h => htext _ (by decide) _ (hcontext name h)⟩
  simp

theorem names_entries (c : Config) : c.entries.map Entry.name =
    fieldNames.take 9 ++ c.kubeconfig.toList.map (fun _ => "kubeconfig")
      ++ c.kubeContext.toList.map (fun _ => "kube_context") := by
  simp [entries, Entry.ofText, Entry.ofNumber, Function.comp_def, fieldNames]

theorem nodup_names_entries (c : Config) : (c.entries.map Entry.name).Nodup := by
  rw [names_entries]
  cases c.kubeconfig <;> cases c.kubeContext <;> simp [fieldNames]

/-! ## What a mapping states -/

section Settings

variable {named : List (String × Node)} {name : String} {v : Node} {α : Type} {dflt : α}
  {read : Node → Option α}

theorem filter_eq_nil_of_notMem (h : name ∉ named.map (·.1)) : named.filter (·.1 = name) = [] := by
  refine List.filter_eq_nil_iff.mpr fun entry hentry heq => h ?_
  exact List.mem_map.mpr ⟨entry, hentry, of_decide_eq_true heq⟩

theorem filter_eq_singleton_of_mem (hnodup : (named.map (·.1)).Nodup) (h : (name, v) ∈ named) :
    named.filter (·.1 = name) = [(name, v)] := by
  induction named with
  | nil => simp at h
  | cons entry named ih =>
    rw [List.map_cons, List.nodup_cons] at hnodup
    rcases List.mem_cons.mp h with rfl | hmem
    · simp [filter_eq_nil_of_notMem hnodup.1]
    · have hne : entry.1 ≠ name := fun heq =>
        hnodup.1 (heq ▸ List.mem_map_of_mem hmem)
      simp [hne, ih hnodup.2 hmem]

theorem settingOr_of_notMem (h : name ∉ named.map (·.1)) :
    settingOr named name dflt read = some dflt := by
  rw [settingOr, stated?, filter_eq_nil_of_notMem h]
  rfl

theorem settingOr_of_mem (hnodup : (named.map (·.1)).Nodup) (h : (name, v) ∈ named) :
    settingOr named name dflt read = read v := by
  rw [settingOr, stated?, filter_eq_singleton_of_mem hnodup h]
  rfl

end Settings

/-! ## Reading back -/

/-- What the entries of the YAML form state. -/
def stated (c : Config) : List (String × Node) := c.entries.map fun e => (e.name, e.value)

theorem names_stated (c : Config) : c.stated.map (·.1) = c.entries.map Entry.name := by
  simp [stated, Function.comp_def]

section

variable {name text : String} {e : Entry}

theorem settingOr_stated {α : Type} {dflt : α} {read : Node → Option α} (h : e ∈ c.entries)
    (hname : e.name = name) : settingOr c.stated name dflt read = read e.value := by
  have hnodup : (c.stated.map (·.1)).Nodup := c.names_stated ▸ c.nodup_names_entries
  exact settingOr_of_mem hnodup (List.mem_map.mpr ⟨e, h, by rw [hname]⟩)

theorem settingOr_text (dflt : String) (h : .ofText name text ∈ c.entries) :
    settingOr c.stated name dflt scalarText? = some text := by
  refine (settingOr_stated h rfl).trans ?_
  simp [scalarText?, Entry.value, Entry.ofText]

theorem settingOr_number {α : Type} {n bound : Nat} (dflt : α) (f : Nat → α)
    (h : .ofNumber name n ∈ c.entries) (hn : n < bound) :
    settingOr c.stated name dflt (fun v => (scalarNumber? bound v).map f) = some (f n) := by
  refine (settingOr_stated h rfl).trans ?_
  simp only [scalarNumber?, Entry.value, Entry.ofNumber, String.toList_ofList, decide_true,
    Bool.true_or, if_true, readUnsigned?_toString hn, Option.map_some]

/-- A text that is written as an optional one is there. -/
theorem optionalText?_ofText (h : ∀ ch ∈ text.toList, Yaml.IsPrintable ch) :
    optionalText? (Entry.ofText name text).value = some (some text) := by
  have hvalue : (Entry.ofText name text).value =
      .scalar none none (Style.of text.toList) text := by
    simp [Entry.value, Entry.ofText]
  rw [hvalue]
  cases hstyle : Style.of text.toList with
  | plain =>
    -- A plain text is neither empty nor a word for nothing.
    have hquotes := needsQuotes_of_plain h hstyle
    simp only [needsQuotes, Bool.or_eq_false_iff] at hquotes
    obtain ⟨⟨⟨⟨⟨hempty, hnull⟩, -⟩, -⟩, -⟩, -⟩ := hquotes
    have hne : text ≠ "" := by
      rintro rfl
      simp at hempty
    simp [optionalText?, hne, hnull]
  | _ => rfl

theorem settingOr_optional {o : Option String} (h : c.IsPrintable)
    (hsome : ∀ text ∈ o, .ofText name text ∈ c.entries ∧ text ∈ c.texts)
    (hnone : o = none → name ∉ c.entries.map Entry.name) :
    settingOr c.stated name none optionalText? = some o := by
  cases o with
  | none =>
    exact settingOr_of_notMem (c.names_stated ▸ hnone rfl)
  | some text =>
    obtain ⟨hmem, htext⟩ := hsome text rfl
    exact (settingOr_stated hmem rfl).trans (optionalText?_ofText (h text htext))

end

theorem ofEntries?_stated (h : c.IsPrintable) : ofEntries? c.stated = some c := by
  have hport := settingOr_number ({} : Config).adminPort UInt16.ofNat
    (show .ofNumber "envoy_admin_port" c.adminPort.toNat ∈ c.entries by simp [entries])
    c.adminPort.toNat_lt
  have htimeout := settingOr_number ({} : Config).adminTimeout UInt64.ofNat
    (show .ofNumber "admin_timeout_secs" c.adminTimeout.toNat ∈ c.entries by simp [entries])
    c.adminTimeout.toNat_lt
  have hkubeconfig : settingOr c.stated "kubeconfig" none optionalText? = some c.kubeconfig := by
    refine settingOr_optional h (fun text htext => ?_) fun hnone => ?_
    · have hmem : c.kubeconfig = some text := htext
      simp [entries, texts, hmem]
    · rw [names_entries, hnone]
      cases c.kubeContext <;> simp [fieldNames]
  have hcontext : settingOr c.stated "kube_context" none optionalText? = some c.kubeContext := by
    refine settingOr_optional h (fun text htext => ?_) fun hnone => ?_
    · have hmem : c.kubeContext = some text := htext
      simp [entries, texts, hmem]
    · rw [names_entries, hnone]
      cases c.kubeconfig <;> simp [fieldNames]
  have htext : ∀ {name text}, Entry.ofText name text ∈ c.entries → ∀ dflt,
      settingOr c.stated name dflt scalarText? = some text := fun h dflt => settingOr_text dflt h
  rw [ofEntries?]
  simp only [htext (show .ofText "mesh_namespace" c.meshNamespace ∈ c.entries by simp [entries]),
    htext (show .ofText "mesh_name" c.meshName ∈ c.entries by simp [entries]),
    htext (show .ofText "controller_name" c.controllerName ∈ c.entries by simp [entries]),
    htext (show .ofText "injector_name" c.injectorName ∈ c.entries by simp [entries]),
    htext (show .ofText "bootstrap_name" c.bootstrapName ∈ c.entries by simp [entries]),
    htext (show .ofText "mesh_config_name" c.meshConfigName ∈ c.entries by simp [entries]),
    htext (show .ofText "kubectl_path" c.kubectlPath ∈ c.entries by simp [entries]),
    hport, htimeout, hkubeconfig, hcontext, Option.bind_eq_bind, Option.bind_some,
    UInt16.ofNat_toNat, UInt64.ofNat_toNat]

/-- Names and texts are scalars, so that no entry refers to another one. -/
theorem mapM_entries (d : Document) (es : List Entry) :
    (es.map fun e => (e.key, e.value)).mapM (fun (key, v) =>
        (scalarText? (d.resolve key)).map fun name => (name, d.resolve v)) =
      some (es.map fun e => (e.name, e.value)) := by
  induction es with
  | nil => rfl
  | cons e es ih =>
    rw [List.map_cons, List.mapM_cons, ih]
    rfl

/-- **Printable settings are read back**, and a file with them is accepted if they are valid. -/
theorem toYaml_reads_back (c : Config) (h : c.IsPrintable) :
    ofYaml? c.toYaml = some c ∧
      ∀ (w : World) (path : String), w (.readPath path) = .ok (Text.encode c.toYaml) →
        w.finds (fromFile path) = c.validate ∧
          ((∃ found, w.finds (fromFile path) = .ok found) ↔ c.validate = .ok c) := by
  have hread : ofYaml? c.toYaml = some c := by
    have hne : c.entries ≠ [] := by simp [entries]
    rw [ofYaml?, toYaml_eq, read?_lines (isReadable_of_mem_entries h) hne]
    simp only [Option.bind_eq_bind, Option.bind_some, ofDocument?, mapM_entries]
    exact ofEntries?_stated h
  refine ⟨hread, fun w path hfile => ?_⟩
  have hfinds : w.finds (fromFile path) = c.validate :=
    finds_fromFile_of_readPath hfile (Text.decodeStrict_encode c.toYaml) hread
  refine ⟨hfinds, ?_⟩
  rw [hfinds]
  constructor
  · rintro ⟨found, hfound⟩
    obtain ⟨hfault, -⟩ := validate_eq_ok_iff.mp hfound
    exact validate_eq_ok_iff.mpr ⟨hfault, rfl⟩
  · exact fun hvalid => ⟨c, hvalid⟩

/-- Settings that look like other values. -/
def disguised : Config where
  meshNamespace := "123"
  meshName := "true"
  controllerName := "~"
  injectorName := "it's: \"quoted\""
  bootstrapName := " # no comment "
  meshConfigName := ""
  adminPort := 65535
  adminTimeout := 18446744073709551615
  kubectlPath := "- null"
  kubeconfig := some "null"

/-- Settings that look like other values are read back, and the file with them is accepted. -/
theorem toYaml_reads_back_disguised :
    disguised.IsPrintable ∧
      disguised.toYaml = "mesh_namespace: '123'\nmesh_name: 'true'\ncontroller_name: '~'\n" ++
        "injector_name: 'it''s: \"quoted\"'\nbootstrap_name: ' # no comment '\n" ++
        "mesh_config_name: ''\nenvoy_admin_port: 65535\n" ++
        "admin_timeout_secs: 18446744073709551615\nkubectl_path: '- null'\n" ++
        "kubeconfig: 'null'\n" ∧
      ofYaml? disguised.toYaml = some disguised ∧
      (configuredMachine disguised.toYaml).finds (fromFile "doctor.yaml") = .ok disguised := by
  have hchars : disguised.texts.all fun text => text.toList.all (Yaml.IsPrintable ·) := by decide
  have hprintable : disguised.IsPrintable := fun text htext ch hch =>
    of_decide_eq_true (List.all_eq_true.mp (List.all_eq_true.mp hchars text htext) ch hch)
  obtain ⟨hread, hfile⟩ := toYaml_reads_back disguised hprintable
  have hvalid : disguised.validate = .ok disguised := rfl
  exact ⟨hprintable, by decide +kernel, hread, (hfile _ "doctor.yaml" rfl).1.trans hvalid⟩

end Config

end MeshDoctor
