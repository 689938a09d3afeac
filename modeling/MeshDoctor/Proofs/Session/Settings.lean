import MeshDoctor.Proofs.Config.Override
import MeshDoctor.Proofs.Session.Connect

/-!
# Sessions — where settings come from

The settings of a session come from a file or the defaults, from the environment and from the
command line. Each of them replaces its own settings only.

* `World.StartsFrom`: the settings of the file, or the defaults where there is none.
* `Config.finds_load_eq_ok_iff`, `Config.finds_load_eq_error_iff`: what is loaded, and when loading
  fails.
* `Config.SameButCluster`, `Config.pointedAt_sameButCluster`: the command line points at a cluster.
* **`Session.settings_of_run`**: what replaces which settings, and that all of them are valid.
-/

namespace MeshDoctor

open Config

/-! ## Loading -/

/-- The settings before any is replaced: those of the file, or the defaults where there is nothing at
the path. -/
structure World.StartsFrom (w : World) (path : String) (base : Config) : Prop where
  of_found : w (.pathExists path) = .ok true → w.finds (fromFile path) = .ok base
  of_not_found : w (.pathExists path) ≠ .ok true → base = {}

namespace Config

variable {w : World} {path : String} {c : Config}

theorem startsFrom_of_found (h : w (.pathExists path) = .ok true) :
    w.StartsFrom path c ↔ w.finds (fromFile path) = .ok c :=
  ⟨fun hc => hc.of_found h, fun hc => ⟨fun _ => hc, fun hnot => absurd h hnot⟩⟩

theorem startsFrom_of_not_found (h : w (.pathExists path) ≠ .ok true) :
    w.StartsFrom path c ↔ c = {} :=
  ⟨fun hc => hc.of_not_found h, fun hc => ⟨fun hyes => absurd hyes h, fun _ => hc⟩⟩

/-- What is loaded are the settings that a run starts from, with the override. -/
theorem finds_load_eq_ok_iff : w.finds (load path) = .ok c ↔
    ∃ base, w.StartsFrom path base ∧ base.overrideNamespace w.namespaceValue = c := by
  by_cases hfound : w (.pathExists path) = .ok true
  · simp only [finds_load_of_found hfound, map_eq_ok, startsFrom_of_found hfound]
  · simp only [finds_load_of_not_found hfound, startsFrom_of_not_found hfound, exists_eq_left,
      Except.ok.injEq]

/-- Loading fails for a file that cannot be used, and for nothing else. -/
theorem finds_load_eq_error_iff {f : Failure} : w.finds (load path) = .error f ↔
    w (.pathExists path) = .ok true ∧ w.finds (fromFile path) = .error f := by
  by_cases hfound : w (.pathExists path) = .ok true
  · rw [finds_load_of_found hfound, and_iff_right hfound]
    cases w.finds (fromFile path) <;> simp [Except.map]
  · rw [finds_load_of_not_found hfound]
    exact iff_of_false nofun fun h => hfound h.1

theorem validate_of_startsFrom (h : w.StartsFrom path c) : c.validate = .ok c := by
  by_cases hfound : w (.pathExists path) = .ok true
  · exact validate_of_finds_fromFile (h.of_found hfound)
  · rw [h.of_not_found hfound]
    rfl

theorem validate_of_finds_load (h : w.finds (load path) = .ok c) : c.validate = .ok c := by
  obtain ⟨base, hbase, rfl⟩ := finds_load_eq_ok_iff.mp h
  exact validate_overrideNamespace (validate_of_startsFrom hbase)

/-! ## The command line -/

/-- The settings differ in the cluster that they point at, at most. -/
def SameButCluster (c c' : Config) : Prop :=
  { c with kubeconfig := none, kubeContext := none } =
    { c' with kubeconfig := none, kubeContext := none }

theorem pointedAt_sameButCluster (c : Config) (line : CommandLine) :
    (c.pointedAt line).SameButCluster c := rfl

/-- The cluster does not matter to validity. -/
theorem validate_pointedAt (line : CommandLine) (h : c.validate = .ok c) :
    (c.pointedAt line).validate = .ok (c.pointedAt line) :=
  validate_eq_ok_iff.mpr ⟨(validate_eq_ok_iff.mp h).1, rfl⟩

end Config

/-! ## The session -/

namespace Session

variable {w : World} {line : CommandLine}

/-- Connecting succeeds with settings, which it points at a cluster. -/
theorem finds_connect_eq_ok {session : Session} (h : w.finds (connect line) = .ok session) :
    ∃ c, w.finds (load line.config) = .ok c ∧ session.config = c.pointedAt line := by
  cases hload : w.finds (load line.config) with
  | error f =>
    have hconnect := finds_connect_of_error w.host ((w.finds_host _ ()).trans hload)
    rw [w.finds_host, h] at hconnect
    cases hconnect
  | ok c =>
    obtain ⟨session', hconnect, hconfig, -⟩ :=
      exists_finds_connect w.host ((w.finds_host _ ()).trans hload)
    rw [w.finds_host, h] at hconnect
    obtain rfl := Except.ok.inj hconnect
    exact ⟨c, rfl, hconfig⟩

/-- **Settings are valid, and what replaces some of them leaves the others as they are.** A file and
the result of loading are valid. The override of the namespace keeps valid settings valid, so loading
fails only for a file that cannot be used. What is loaded has the namespace of the variable if that is
there and not empty, and is otherwise what the file states, or the defaults. The command line replaces
the settings of the cluster that it gives. -/
theorem settings_of_run (w : World) :
    (∀ path c, w.finds (fromFile path) = .ok c ∨ w.finds (load path) = .ok c →
      c.validate = .ok c) ∧
    (∀ (c : Config) (value : Option String),
      (c.overrideNamespace value).SameButNamespace c ∧
      (c.overrideNamespace value).overrideNamespace value = c.overrideNamespace value ∧
      (c.validate = .ok c →
        (c.overrideNamespace value).validate = .ok (c.overrideNamespace value))) ∧
    (∀ path f, w.finds (load path) = .error f ↔
      w (.pathExists path) = .ok true ∧ w.finds (fromFile path) = .error f) ∧
    (∀ path c, w.finds (load path) = .ok c → ∃ base, w.StartsFrom path base ∧
      c.SameButNamespace base ∧
      (∀ ns, w.namespaceValue = some ns → (c.meshNamespace = ns ↔ ns ≠ "")) ∧
      (w.namespaceValue = none ∨ w.namespaceValue = some "" → c = base)) ∧
    ∀ line, ((∃ session, w.finds (connect line) = .ok session) ↔
        ∃ c, w.finds (load line.config) = .ok c) ∧
      ∀ session, w.finds (connect line) = .ok session →
        session.config.validate = .ok session.config ∧
        ∃ c, w.finds (load line.config) = .ok c ∧ session.config.SameButCluster c ∧
          (∀ path, line.kubeconfig = some path → session.config.kubeconfig = some path) ∧
          (line.kubeconfig = none → session.config.kubeconfig = c.kubeconfig) ∧
          (∀ name, line.context = some name → session.config.kubeContext = some name) ∧
          (line.context = none → session.config.kubeContext = c.kubeContext) := by
  refine ⟨fun path c h => ?_, fun c value => ⟨overrideNamespace_sameButNamespace,
    overrideNamespace_idem, validate_overrideNamespace⟩, fun path f => finds_load_eq_error_iff,
    fun path c h => ?_, fun line => ⟨⟨?_, ?_⟩, fun session h => ?_⟩⟩
  · exact h.elim validate_of_finds_fromFile validate_of_finds_load
  · obtain ⟨base, hbase, rfl⟩ := finds_load_eq_ok_iff.mp h
    have hvalid := (validate_eq_ok_iff.mp (validate_of_startsFrom hbase)).1
    exact ⟨base, hbase, overrideNamespace_sameButNamespace,
      fun ns => meshNamespace_overrideNamespace_iff hvalid, overrideNamespace_of_empty⟩
  · rintro ⟨session, h⟩
    obtain ⟨c, hload, -⟩ := finds_connect_eq_ok h
    exact ⟨c, hload⟩
  · rintro ⟨c, hload⟩
    obtain ⟨session, hconnect, -⟩ := exists_finds_connect w.host ((w.finds_host _ ()).trans hload)
    exact ⟨session, (w.finds_host _ ()).symm.trans hconnect⟩
  · obtain ⟨c, hload, hconfig⟩ := finds_connect_eq_ok h
    rw [hconfig]
    refine ⟨validate_pointedAt line (validate_of_finds_load hload), c, hload,
      pointedAt_sameButCluster c line, fun path hpath => ?_, fun hnone => ?_, fun name hname => ?_,
      fun hnone => ?_⟩
    · rw [pointedAt, hpath]
      rfl
    · rw [pointedAt, hnone]
      rfl
    · rw [pointedAt, hname]
      rfl
    · rw [pointedAt, hnone]
      rfl

/-- The file states a namespace, a mesh and a cluster. The variable replaces the namespace, the
command line one setting of the cluster, and the others stay as they are. -/
theorem settings_of_run_shop :
    let w := configuredMachine
      "mesh_namespace: shop\nmesh_name: books\nkubeconfig: south\nkube_context: east\n"
    let line : CommandLine :=
      { command := .validate, config := "doctor.yaml", kubeconfig := some "north" }
    let stated : Config := { meshNamespace := "shop", meshName := "books",
                             kubeconfig := some "south", kubeContext := some "east" }
    w.HasConfigFile line.config stated ∧
      w.finds (load line.config) = .ok { stated with meshNamespace := "env-ns" } ∧
      ∃ session, w.finds (connect line) = .ok session ∧
        session.config = { stated with meshNamespace := "env-ns", kubeconfig := some "north" } := by
  intro w line stated
  have hfile : w.HasConfigFile line.config stated :=
    hasConfigFile_configuredMachine (by decide +kernel)
  have hload : w.finds (load line.config) = .ok { stated with meshNamespace := "env-ns" } :=
    finds_load hfile (by decide) rfl
  obtain ⟨-, -, -, -, hconnect⟩ := settings_of_run w
  obtain ⟨session, hsession⟩ := (hconnect line).1.mpr ⟨_, hload⟩
  obtain ⟨-, c, hc, hsame, hpath, -, -, hcontext⟩ := (hconnect line).2 session hsession
  obtain rfl := Except.ok.inj (hload.symm.trans hc)
  refine ⟨hfile, hload, session, hsession, ?_⟩
  calc session.config
    _ = { { session.config with kubeconfig := none, kubeContext := none } with
          kubeconfig := session.config.kubeconfig, kubeContext := session.config.kubeContext } := rfl
    _ = { stated with meshNamespace := "env-ns", kubeconfig := some "north" } := by
      rw [hsame, hpath "north" rfl, hcontext rfl]

end Session

end MeshDoctor
