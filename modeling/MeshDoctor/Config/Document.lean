import MeshDoctor.Config.Basic
import MeshDoctor.Yaml.Document
import MeshDoctor.Yaml.Printer

/-!
# Configuration — the YAML form

* `Config.toYaml`: one line for each setting that is there.
* `Config.ofYaml?`: the settings that a text states; an empty text states none.
-/

namespace MeshDoctor.Config

open Yaml

/-! ## Writing -/

/-- The lines of the YAML form. -/
def yamlLines (c : Config) : List (List Char) :=
  [writeEntry "mesh_namespace" (writeScalar c.meshNamespace.toList),
    writeEntry "mesh_name" (writeScalar c.meshName.toList),
    writeEntry "controller_name" (writeScalar c.controllerName.toList),
    writeEntry "injector_name" (writeScalar c.injectorName.toList),
    writeEntry "bootstrap_name" (writeScalar c.bootstrapName.toList),
    writeEntry "mesh_config_name" (writeScalar c.meshConfigName.toList),
    writeEntry "envoy_admin_port" (toString c.adminPort.toNat).toList,
    writeEntry "admin_timeout_secs" (toString c.adminTimeout.toNat).toList,
    writeEntry "kubectl_path" (writeScalar c.kubectlPath.toList)]
    ++ (c.kubeconfig.toList.map fun path => writeEntry "kubeconfig" (writeScalar path.toList))
    ++ c.kubeContext.toList.map fun name => writeEntry "kube_context" (writeScalar name.toList)

/-- The YAML form. -/
def toYaml (c : Config) : String :=
  String.ofList c.yamlLines.flatten

/-! ## Reading -/

/-- The text of a scalar, however it is written. -/
def scalarText? : Node → Option String
  | .scalar _ _ _ text => some text
  | _ => none

/-- A number is written as a plain scalar, or literally with the tag of whole numbers. -/
def scalarNumber? (bound : Nat) : Node → Option Nat
  | .scalar _ tag style text =>
    if style = .plain || (style = .literal && tag = some intTag) then readUnsigned? bound text.toList
    else none
  | _ => none

/-- A text that may be missing; writing nothing or null plainly says so. With the tag of nothing it is
written no other way, and with another tag it is there. -/
def optionalText? : Node → Option (Option String)
  | .scalar _ tag .plain text =>
    match tag with
    | none => if text.isEmpty || isNull text.toList then some none else some (some text)
    | some tag =>
      if tag ≠ nullTag then some (some text) else if isNull text.toList then some none else none
  | .scalar _ _ _ text => some (some text)
  | _ => none

/-- The value of a setting, none where it is not stated. Stating it twice is a fault. -/
def stated? (entries : List (String × Node)) (name : String) : Option (Option Node) :=
  match entries.filter (·.1 = name) with
  | [] => some none
  | [(_, v)] => some (some v)
  | _ => none

/-- A setting with its default. -/
def settingOr {α : Type} (entries : List (String × Node)) (name : String) (dflt : α)
    (read : Node → Option α) : Option α := do
  match ← stated? entries name with
  | none => some dflt
  | some v => read v

/-- The settings that the entries of a mapping state. -/
def ofEntries? (entries : List (String × Node)) : Option Config := do
  let dflt : Config := {}
  some {
    meshNamespace := ← settingOr entries "mesh_namespace" dflt.meshNamespace scalarText?
    meshName := ← settingOr entries "mesh_name" dflt.meshName scalarText?
    controllerName := ← settingOr entries "controller_name" dflt.controllerName scalarText?
    injectorName := ← settingOr entries "injector_name" dflt.injectorName scalarText?
    bootstrapName := ← settingOr entries "bootstrap_name" dflt.bootstrapName scalarText?
    meshConfigName := ← settingOr entries "mesh_config_name" dflt.meshConfigName scalarText?
    adminPort := ← settingOr entries "envoy_admin_port" dflt.adminPort
      fun v => (scalarNumber? UInt16.size v).map UInt16.ofNat
    adminTimeout := ← settingOr entries "admin_timeout_secs" dflt.adminTimeout
      fun v => (scalarNumber? UInt64.size v).map UInt64.ofNat
    kubectlPath := ← settingOr entries "kubectl_path" dflt.kubectlPath scalarText?
    kubeconfig := ← settingOr entries "kubeconfig" dflt.kubeconfig optionalText?
    kubeContext := ← settingOr entries "kube_context" dflt.kubeContext optionalText? }

/-- The settings that a document states. -/
def ofDocument? (d : Document) : Option Config :=
  match d.root with
  | .mapping _ entries => do
    let named ← entries.mapM fun (key, v) =>
      (scalarText? (d.resolve key)).map fun name => (name, d.resolve v)
    ofEntries? named
  | .scalar _ _ .plain "" => some {}
  | _ => none

/-- The settings that a text states. -/
def ofYaml? (text : String) : Option Config := do
  match ← Document.read? text with
  | none => some {}
  | some d => ofDocument? d

end MeshDoctor.Config
