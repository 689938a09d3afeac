import MeshDoctor.Proofs.Bundle.Phases
import MeshDoctor.Proofs.Files.Machine

/-!
# Support bundles — how each phase can go on a machine

* `Collector.Dumped`: what the dumps find and which files they try to write.
* `Obstacle`: why a collection ends early.
* **`Collector.prepare_cases`**, **`Collector.dumped_of_followAll`**, **`Collector.finish_cases`**: how
  the phases can go.
-/

namespace MeshDoctor.Bundle

open Envoy Machine

/-- The writes of the logs of pods. -/
def logWrites (w : World) (directory : String) (pods : List PodRef) : List Exchange :=
  pods.filterMap fun pod =>
    match w (.logs pod none) with
    | .ok logs => some ⟨.writePath (logPath directory pod) logs, .ok ()⟩
    | .error _ => none

namespace Collector

/-- What the dumps of pods find and which files they try to write. -/
inductive Dumped (c : Collector) (w : World) (directory : String) :
    List PodRef → List (PodRef × Except Failure Unit) → List Exchange → Prop where
  | nil : Dumped c w directory [] [] []
  /-- No file is written for a sidecar that cannot be read. -/
  | unread {pod : PodRef} {pods : List PodRef} {results : List (PodRef × Except Failure Unit)}
    {es : List Exchange} {f : Failure} (h : c.document w pod = .error f)
    (rest : Dumped c w directory pods results es) :
    Dumped c w directory (pod :: pods) ((pod, .error f) :: results) es
  /-- The answer to the attempt to write a file is the result. -/
  | tried {pod : PodRef} {pods : List PodRef} {results : List (PodRef × Except Failure Unit)}
    {es : List Exchange} {text : String} (answer : Except Failure Unit)
    (h : c.document w pod = .ok text) (rest : Dumped c w directory pods results es) :
    Dumped c w directory (pod :: pods)
      ((pod, addContext ("Failed to write config dump for " ++ pod.text) answer) :: results)
      (⟨.writePath (dumpPath directory pod) text, answer⟩ :: es)

end Collector

/-! ## Why a collection ends early -/

/-- Why a collection ends early. -/
inductive Obstacle (w : World) (mesh : Mesh) (directory : String) (es : List Exchange) : Prop where
  /-- A directory cannot be made. -/
  | directory {path : String} {f : Failure} (h : ⟨.makeDirectories path, .error f⟩ ∈ es)
  /-- The pods of the controller cannot be listed. -/
  | controllerPods {f : Failure} (h : w.finds mesh.controllerPods = .error f)
  /-- The namespaces of the mesh cannot be listed. -/
  | namespaces {f : Failure} (h : w.finds mesh.monitoredNamespaces = .error f)
  /-- The pods of one of these namespaces cannot be listed. -/
  | podsOf {namespaces : List Namespace} {ns : String} {f : Failure}
    (hnamespaces : w.finds mesh.monitoredNamespaces = .ok namespaces)
    (hns : ns ∈ namespaces.filterMap (·.metadata.name))
    (h : w.finds (listPods (.inNamespace ns)) = .error f)
  /-- The logs of a pod of the controller cannot be written. -/
  | log {pods : List Pod} {pod : Pod} {text : String} {f : Failure}
    (hpods : w.finds mesh.controllerPods = .ok pods) (hpod : pod ∈ pods)
    (h : ⟨.writePath (logPath directory pod.ref) text, .error f⟩ ∈ es)
  /-- At the end, the index cannot be written. -/
  | summary {text : String} {f : Failure}
    (h : es.getLast? = some ⟨.writePath (summaryPath directory) text, .error f⟩)

/-- What was exchanged before makes no difference. -/
theorem Obstacle.append_left {w : World} {mesh : Mesh} {directory : String} {es : List Exchange}
    (h : Obstacle w mesh directory es) (before : List Exchange) :
    Obstacle w mesh directory (before ++ es) := by
  cases h with
  | directory h => exact .directory (List.mem_append_right _ h)
  | controllerPods h => exact .controllerPods h
  | namespaces h => exact .namespaces h
  | podsOf hnamespaces hns h => exact .podsOf hnamespaces hns h
  | log hpods hpod h => exact .log hpods hpod (List.mem_append_right _ h)
  | summary h => exact .summary (by rw [List.getLast?_append, h, Option.some_or])

/-! ## Requests that are not about files -/

theorem asksOnly_listPods (query : ListQuery) :
    (listPods query).run.AsksOnly (·.concernsFiles = false) :=
  .bind (.request rfl) fun _ => trivial

theorem asksOnly_report (level : Level) (text : String) :
    (report level text).run.AsksOnly (·.concernsFiles = false) :=
  .requestOr rfl

theorem asksOnly_meshedIn (names : List String) :
    (meshedIn names).run.AsksOnly (·.concernsFiles = false) := by
  induction names with
  | nil => trivial
  | cons ns rest ih =>
    exact .bind (asksOnly_listPods _) fun _ => .bind ih fun _ => trivial

theorem asksOnly_meshedPods (mesh : Mesh) :
    (meshedPods mesh).run.AsksOnly (·.concernsFiles = false) :=
  .bind (.bind (.request rfl) fun _ => trivial) fun _ => asksOnly_meshedIn _

theorem asksOnly_raw (getter : Getter) : getter.raw.run.AsksOnly (·.concernsFiles = false) := by
  cases getter with
  | canned pod answer => trivial
  | asking pod => exact .request rfl

theorem asksOnly_noteDumps (i : Index) (results : List (PodRef × Except Failure Unit)) :
    (Collector.noteDumps i results).run.AsksOnly (·.concernsFiles = false) := by
  induction results generalizing i with
  | nil => trivial
  | cons result rest ih =>
    obtain ⟨pod, u | f⟩ := result
    · exact .bind (.bind (asksOnly_report _ _) fun _ => trivial) fun i => ih i
    · exact .bind trivial fun i => ih i

theorem Collector.asksOnly_addVersion (c : Collector) (i : Index) :
    (c.addVersion i).run.AsksOnly (·.concernsFiles = false) := by
  refine .bind (.attempt (.bind (asksOnly_listPods _) fun _ => trivial)) fun result => ?_
  cases result with
  | ok release => trivial
  | error f => trivial

/-! ## What is found -/

section Finds

variable (w : World)

theorem finds_report (level : Level) (text : String) : w.finds (report level text) = .ok () := rfl

theorem finds_noteDumps (i : Index) (results : List (PodRef × Except Failure Unit)) :
    w.finds (Collector.noteDumps i results) = .ok (i.withDumps results) := by
  induction results generalizing i with
  | nil =>
    rw [Index.withDumps_nil]
    rfl
  | cons result rest ih =>
    have hnote : w.finds (Collector.noteDump i result) = .ok (i.withDumps [result]) := by
      obtain ⟨pod, f | u⟩ := result
      · rw [Collector.noteDump, World.finds_bind, finds_report, ok_bind]
        simp [Index.withDumps, Index.withError, dumpError]
        rfl
      · simp [Collector.noteDump, Index.withDumps]
        rfl
    rw [Collector.noteDumps, World.finds_bind_of_ok hnote, ih, Index.withDumps_cons]

theorem Collector.finds_addVersion (c : Collector) (moment : Moment) :
    w.finds (c.addVersion
      { createdAt := moment.date, meshNamespace := c.mesh.namespace, meshName := c.mesh.name }) =
      .ok (c.index w moment [] []) := by
  rw [addVersion, World.finds_bind_of_ok (w.finds_attempt _), index, versionErrors, succeeded_nil,
    List.map_nil, sortNames_nil]
  cases w.finds c.mesh.controllerVersion with
  | ok release => rfl
  | error f => rfl

theorem Collector.index_withLogs (c : Collector) (moment : Moment) (pods : List PodRef) :
    (c.index w moment [] []).withLogs (podLogs w pods) = c.index w moment pods [] := by
  simp [Index.withLogs, index, podLogs]

theorem Collector.finds_sorted (c : Collector) (moment : Moment) (pods : List PodRef)
    (results : List (PodRef × Except Failure Unit)) :
    { (c.index w moment pods []).withDumps results with
      configDumps := sortNames ((c.index w moment pods []).withDumps results).configDumps } =
      c.index w moment pods results := by
  simp [Index.withDumps, index, sortNames]

variable {w} {mesh : Mesh}

theorem exists_of_finds_meshedIn_error {names : List String} {f : Failure}
    (h : w.finds (meshedIn names) = .error f) :
    ∃ ns ∈ names, w.finds (listPods (.inNamespace ns)) = .error f := by
  induction names with
  | nil => cases h
  | cons ns rest ih =>
    rw [meshedIn, World.finds_bind] at h
    cases hpods : w.finds (listPods (.inNamespace ns)) with
    | error g =>
      rw [hpods] at h
      obtain rfl := Except.error.inj h
      exact ⟨ns, List.mem_cons_self, hpods⟩
    | ok pods =>
      rw [hpods, ok_bind, World.finds_bind] at h
      cases hmore : w.finds (meshedIn rest) with
      | error g =>
        rw [hmore] at h
        obtain rfl := Except.error.inj h
        obtain ⟨other, hmem, hother⟩ := ih hmore
        exact ⟨other, List.mem_cons_of_mem _ hmem, hother⟩
      | ok more =>
        rw [hmore] at h
        cases h

/-- The pods with a sidecar that can be listed in a namespace. -/
def sidecarsIn (w : World) (ns : String) : List PodRef :=
  match w.finds (listPods (.inNamespace ns)) with
  | .ok pods => (pods.filter (·.hasSidecar)).map (·.ref)
  | .error _ => []

theorem of_finds_meshedIn_ok {names : List String} {meshed : List PodRef}
    (h : w.finds (meshedIn names) = .ok meshed) :
    (∀ ns ∈ names, ∃ pods, w.finds (listPods (.inNamespace ns)) = .ok pods) ∧
      meshed = names.flatMap (sidecarsIn w) := by
  induction names generalizing meshed with
  | nil =>
    obtain rfl : [] = meshed := Except.ok.inj h
    exact ⟨fun _ hns => (nomatch hns), rfl⟩
  | cons ns rest ih =>
    rw [meshedIn, World.finds_bind] at h
    obtain ⟨pods, hpods, h⟩ := bind_eq_ok.mp h
    rw [World.finds_bind] at h
    obtain ⟨more, hmore, h⟩ := bind_eq_ok.mp h
    obtain ⟨hall, rfl⟩ := ih hmore
    obtain rfl := Except.ok.inj h
    refine ⟨?_, ?_⟩
    · rintro other (_ | ⟨_, hother⟩)
      · exact ⟨pods, hpods⟩
      · exact hall other hother
    · rw [List.flatMap_cons, sidecarsIn, hpods]

/-- Where the pods of the mesh can be listed, nothing about them is in the way. -/
theorem of_finds_meshedPods_ok {meshed : List PodRef} (h : w.finds (meshedPods mesh) = .ok meshed) :
    ∃ namespaces, w.finds mesh.monitoredNamespaces = .ok namespaces ∧
      (∀ ns ∈ namespaces.filterMap (·.metadata.name),
        ∃ pods, w.finds (listPods (.inNamespace ns)) = .ok pods) ∧
      meshed = (namespaces.filterMap (·.metadata.name)).flatMap (sidecarsIn w) := by
  rw [meshedPods, World.finds_bind] at h
  obtain ⟨namespaces, hnamespaces, h⟩ := bind_eq_ok.mp h
  exact ⟨namespaces, hnamespaces, of_finds_meshedIn_ok h⟩

/-- The pods of the mesh are missing for one of two reasons. -/
theorem obstacle_of_finds_meshedPods {directory : String} {es : List Exchange} {f : Failure}
    (h : w.finds (meshedPods mesh) = .error f) : Obstacle w mesh directory es := by
  rw [meshedPods, World.finds_bind] at h
  cases hnamespaces : w.finds mesh.monitoredNamespaces with
  | error g => exact .namespaces hnamespaces
  | ok namespaces =>
    rw [hnamespaces, ok_bind] at h
    obtain ⟨ns, hns, hpods⟩ := exists_of_finds_meshedIn_error h
    exact .podsOf hnamespaces hns hpods

end Finds

/-! ## How the phases can go -/

section Cases

variable {m : Machine} {t t' : FileTree} {es : List Exchange} {c : Collector}
  {directory path : String} {i : Index} {pod : PodRef} {pods : List PodRef}

theorem of_report {level : Level} {text : String} {result : Except Failure Unit}
    (h : m.host.Runs (report level text) t es result t') :
    result = .ok () ∧ t' = t ∧ aboutFiles es = [] :=
  reads (asksOnly_report level text) h

theorem makeDirectory_cases {result : Except Failure Unit}
    (h : m.host.Runs (makeDirectory path) t es result t') :
    (∃ f g, result = .error f ∧ es = [⟨.makeDirectories path, .error g⟩]) ∨
      result = .ok () ∧ es = [⟨.makeDirectories path, .ok ()⟩] := by
  rw [makeDirectory] at h
  obtain ⟨found, hrequest, rfl⟩ := h.of_within
  obtain ⟨rfl, -⟩ := hrequest.of_request
  cases found with
  | error f => exact .inl ⟨_, f, rfl, rfl⟩
  | ok u => exact .inr ⟨rfl, rfl⟩

theorem write_cases {text context : String} {result : Except Failure Unit}
    (h : m.host.Runs (Lookup.within context (request (.writePath path text))) t es result t') :
    (∃ f, result = .error (f.within context) ∧ es = [⟨.writePath path text, .error f⟩] ∧
        m.host (.writePath path text) t = (.error f, t')) ∨
      result = .ok () ∧ es = [⟨.writePath path text, .ok ()⟩] ∧
        m.host (.writePath path text) t = (.ok (), t') := by
  obtain ⟨found, hrequest, rfl⟩ := h.of_within
  obtain ⟨rfl, hhost⟩ := hrequest.of_request
  cases found with
  | error f => exact .inl ⟨f, rfl, rfl, hhost⟩
  | ok u => exact .inr ⟨rfl, rfl, hhost⟩

theorem addLogs_cases {result : Except Failure Index}
    (h : m.host.Runs (addLogs directory i pod) t es result t') :
    (∃ f text g, result = .error f ∧ ⟨.writePath (logPath directory pod) text, .error g⟩ ∈ es) ∨
      result = .ok (i.withLogs (podLogs m.world [pod])) ∧
        aboutFiles es = logWrites m.world directory [pod] := by
  rw [addLogs] at h
  have hasks : (request (.logs pod none)).attempt.run.AsksOnly (·.concernsFiles = false) :=
    .attempt (.request rfl)
  obtain ⟨e, hread, rfl⟩ | ⟨found, es₁, t₁, es₂, hread, hrest, rfl⟩ := h.bind_cases
  · cases (reads hasks hread).1
  obtain ⟨hfound, rfl, habout⟩ := reads hasks hread
  obtain rfl : found = m.world (.logs pod none) := Except.ok.inj hfound
  rw [aboutFiles_append, habout, List.nil_append, podLogs, logWrites, List.map_singleton,
    List.filterMap_cons]
  cases hlogs : m.world (.logs pod none) with
  | ok logs =>
    rw [hlogs] at hrest
    obtain ⟨e, hwrite, rfl⟩ | ⟨u, es₃, t₂, es₄, hwrite, hpure, rfl⟩ := hrest.bind_cases
    · obtain ⟨g, -, rfl, -⟩ | ⟨heq, -⟩ := write_cases hwrite
      · exact .inl ⟨e, logs, g, rfl, List.mem_append_right _ List.mem_cons_self⟩
      · cases heq
    · obtain ⟨g, heq, -⟩ | ⟨-, rfl, -⟩ := write_cases hwrite
      · cases heq
      · obtain ⟨rfl, rfl, rfl⟩ := hpure.of_pure
        refine .inr ⟨?_, rfl⟩
        simp [Index.withLogs, succeeded, failed]
  | error f =>
    rw [hlogs] at hrest
    obtain ⟨e, hreport, rfl⟩ | ⟨u, es₃, t₂, es₄, hreport, hpure, rfl⟩ := hrest.bind_cases
    · cases (of_report hreport).1
    · obtain ⟨-, -, hsilent⟩ := of_report hreport
      obtain ⟨rfl, rfl, rfl⟩ := hpure.of_pure
      rw [List.append_nil, hsilent]
      refine .inr ⟨?_, rfl⟩
      simp [Index.withLogs, Index.withError, succeeded, failed]

theorem addAllLogs_cases {result : Except Failure Index}
    (h : m.host.Runs (addAllLogs directory i pods) t es result t') :
    (∃ f pod text g, result = .error f ∧ pod ∈ pods ∧
        ⟨.writePath (logPath directory pod) text, .error g⟩ ∈ es) ∨
      result = .ok (i.withLogs (podLogs m.world pods)) ∧
        aboutFiles es = logWrites m.world directory pods := by
  induction pods generalizing i t es with
  | nil =>
    obtain ⟨rfl, rfl, -⟩ := h.of_pure
    exact .inr ⟨by rw [podLogs, List.map_nil, Index.withLogs_nil], rfl⟩
  | cons pod rest ih =>
    rw [addAllLogs] at h
    obtain ⟨e, hpod, rfl⟩ | ⟨i', es₁, t₁, es₂, hpod, hrest, rfl⟩ := h.bind_cases
    · obtain ⟨f, text, g, -, hmem⟩ | ⟨heq, -⟩ := addLogs_cases hpod
      · exact .inl ⟨e, pod, text, g, rfl, List.mem_cons_self, hmem⟩
      · cases heq
    · obtain ⟨f, text, g, heq, -⟩ | ⟨hpod, hwrites⟩ := addLogs_cases hpod
      · cases heq
      obtain rfl := Except.ok.inj hpod
      obtain ⟨f, other, text, g, rfl, hother, hmem⟩ | ⟨rfl, hwrites'⟩ := ih hrest
      · exact .inl ⟨f, other, text, g, rfl, List.mem_cons_of_mem _ hother,
          List.mem_append_right _ hmem⟩
      · refine .inr ⟨congrArg Except.ok (Index.withLogs_cons ..), ?_⟩
        rw [aboutFiles_append, hwrites, hwrites', logWrites, logWrites, logWrites,
          ← List.filterMap_append]
        rfl

namespace Collector

theorem survey_cases {moment : Moment} {result : Except Failure (Index × List PodRef)}
    (h : m.host.Runs (c.survey moment directory) t es result t') :
    (∃ f, result = .error f ∧ Obstacle m.world c.mesh directory es) ∨
      ∃ pods meshed, m.world.finds c.mesh.controllerPods = .ok pods ∧
        m.world.finds (meshedPods c.mesh) = .ok meshed ∧
        result = .ok (c.index m.world moment (pods.map (·.ref)) [], meshed) ∧
        aboutFiles es = logWrites m.world directory (pods.map (·.ref)) := by
  rw [survey] at h
  obtain ⟨e, hversion, rfl⟩ | ⟨i, es₁, t₁, rest₁, hversion, h₁, rfl⟩ := h.bind_cases
  · have hfound := (reads (c.asksOnly_addVersion _) hversion).1
    rw [c.finds_addVersion] at hfound
    cases hfound
  obtain ⟨hfound, -, habout₁⟩ := reads (c.asksOnly_addVersion _) hversion
  rw [c.finds_addVersion] at hfound
  obtain rfl := Except.ok.inj hfound
  obtain ⟨e, hpods, rfl⟩ | ⟨pods, es₂, t₂, rest₂, hpods, h₂, rfl⟩ := h₁.bind_cases
  · exact .inl ⟨e, rfl, .controllerPods (reads (asksOnly_listPods _) hpods).1.symm⟩
  obtain ⟨hpods, -, habout₂⟩ := reads (asksOnly_listPods _) hpods
  obtain ⟨e, hlogs, rfl⟩ | ⟨i, es₃, t₃, rest₃, hlogs, h₃, rfl⟩ := h₂.bind_cases
  · obtain ⟨f, ref, text, g, -, href, hmem⟩ | ⟨heq, -⟩ := addAllLogs_cases hlogs
    · obtain ⟨pod, hpod, rfl⟩ := List.mem_map.mp href
      exact .inl ⟨e, rfl, .log hpods.symm hpod
        (List.mem_append_right _ (List.mem_append_right _ hmem))⟩
    · cases heq
  obtain ⟨f, ref, text, g, heq, -⟩ | ⟨heq, habout₃⟩ := addAllLogs_cases hlogs
  · cases heq
  obtain rfl := Except.ok.inj heq
  obtain ⟨e, hmeshed, rfl⟩ | ⟨meshed, es₄, t₄, rest₄, hmeshed, h₄, rfl⟩ := h₃.bind_cases
  · have hfound := (reads (asksOnly_meshedPods c.mesh) hmeshed).1
    exact .inl ⟨e, rfl, obstacle_of_finds_meshedPods hfound.symm⟩
  obtain ⟨hmeshed, -, habout₄⟩ := reads (asksOnly_meshedPods c.mesh) hmeshed
  obtain ⟨e, hreport, rfl⟩ | ⟨_, es₅, t₅, rest₅, hreport, h₅, rfl⟩ := h₄.bind_cases
  · cases (of_report hreport).1
  obtain ⟨-, -, habout₅⟩ := of_report hreport
  obtain ⟨rfl, rfl, -⟩ := h₅.of_pure
  refine .inr ⟨pods, meshed, hpods.symm, hmeshed.symm, ?_, ?_⟩
  · rw [c.index_withLogs]
  · simp only [aboutFiles_append, habout₁, habout₂, habout₃, habout₄, habout₅, List.nil_append]
    exact List.append_nil _

/-- **What comes before the dumps** stops for a reason or lists the pods of the mesh. -/
theorem prepare_cases {moment : Moment} {result : Except Failure (Index × List PodRef)}
    (h : m.host.Runs (c.prepare moment directory) t es result t') :
    (∃ f, result = .error f ∧ Obstacle m.world c.mesh directory es) ∨
      ∃ pods meshed, m.world.finds c.mesh.controllerPods = .ok pods ∧
        m.world.finds (meshedPods c.mesh) = .ok meshed ∧
        result = .ok (c.index m.world moment (pods.map (·.ref)) [], meshed) ∧
        aboutFiles es = ⟨.makeDirectories (logDirectory directory), .ok ()⟩ ::
          ⟨.makeDirectories (dumpDirectory directory), .ok ()⟩ ::
            logWrites m.world directory (pods.map (·.ref)) := by
  rw [prepare] at h
  obtain ⟨e, hmade, rfl⟩ | ⟨_, es₁, t₁, rest₁, hmade, h₁, rfl⟩ := h.bind_cases
  · obtain ⟨f, g, -, rfl⟩ | ⟨heq, -⟩ := makeDirectory_cases hmade
    · exact .inl ⟨e, rfl, .directory List.mem_cons_self⟩
    · cases heq
  obtain ⟨f, g, heq, -⟩ | ⟨-, rfl⟩ := makeDirectory_cases hmade
  · cases heq
  obtain ⟨e, hmade₂, rfl⟩ | ⟨_, es₂, t₂, rest₂, hmade₂, h₂, rfl⟩ := h₁.bind_cases
  · obtain ⟨f, g, -, rfl⟩ | ⟨heq, -⟩ := makeDirectory_cases hmade₂
    · exact .inl ⟨e, rfl, .directory (List.mem_append_right _ List.mem_cons_self)⟩
    · cases heq
  obtain ⟨f, g, heq, -⟩ | ⟨-, rfl⟩ := makeDirectory_cases hmade₂
  · cases heq
  obtain ⟨f, rfl, hobstacle⟩ | ⟨pods, meshed, hpods, hmeshed, rfl, habout⟩ := survey_cases h₂
  · exact .inl ⟨f, rfl, (hobstacle.append_left _).append_left _⟩
  · refine .inr ⟨pods, meshed, hpods, hmeshed, rfl, ?_⟩
    rw [aboutFiles_append, aboutFiles_append, habout]
    rfl

theorem run_dump (c : Collector) (directory : String) (pod : PodRef) :
    (c.dump directory pod).run =
      match c.getter pod with
      | .error f => .done (.error f)
      | .ok getter => getter.raw.run.bind fun
        | .error f => .done (.error f)
        | .ok text => .ask (.writePath (dumpPath directory pod) text) fun answer =>
          .done (addContext ("Failed to write config dump for " ++ pod.text) answer) := by
  rw [dump, Lookup.ofResult]
  cases c.getter pod with
  | error f => rfl
  | ok getter =>
    refine congrArg (Inquiry.bind getter.raw.run) (funext fun found => ?_)
    cases found with
    | error f => rfl
    | ok text => rfl

section Follows

variable {w : World}

theorem dump_follows {result : Except Failure Unit}
    (h : (c.dump directory pod).run.Follows es result)
    (hw : ∀ e ∈ es, e.1.concernsFiles = false → e.2 = w e.1) :
    (∃ f, c.document w pod = .error f ∧ result = .error f ∧ aboutFiles es = []) ∨
      ∃ text answer, c.document w pod = .ok text ∧
        result = addContext ("Failed to write config dump for " ++ pod.text) answer ∧
        aboutFiles es = [⟨.writePath (dumpPath directory pod) text, answer⟩] := by
  rw [run_dump] at h
  rw [document]
  cases hgetter : c.getter pod with
  | error f =>
    rw [hgetter] at h
    cases h
    exact .inl ⟨f, rfl, rfl, rfl⟩
  | ok getter =>
    rw [hgetter] at h
    obtain ⟨found, es₁, es₂, hraw, hwrite, rfl⟩ := h.of_bind
    have hasked := hraw.asked (asksOnly_raw getter)
    have habout : aboutFiles es₁ = [] := by
      rw [aboutFiles, List.filter_eq_nil_iff]
      intro e he
      rw [hasked e he]
      exact Bool.false_ne_true
    obtain ⟨rfl, -⟩ := hraw.of_answers fun e he => hw e (List.mem_append_left _ he) (hasked e he)
    rw [ok_bind, aboutFiles_append, habout, List.nil_append, World.finds]
    cases hfound : getter.raw.run.run w with
    | error f =>
      rw [hfound] at hwrite
      cases hwrite
      exact .inl ⟨f, rfl, rfl, rfl⟩
    | ok text =>
      rw [hfound] at hwrite
      cases hwrite with
      | ask answer hdone =>
        cases hdone
        exact .inr ⟨text, answer, rfl, rfl, rfl⟩

/-- **The dumps** have a result each. -/
theorem dumped_of_followAll {results : List (PodRef × Except Failure Unit)}
    (h : FollowAll (c.dumpTasks directory pods) es results)
    (hw : ∀ e ∈ es, e.1.concernsFiles = false → e.2 = w e.1) :
    c.Dumped w directory pods results (aboutFiles es) := by
  induction pods generalizing es results with
  | nil =>
    cases h
    exact .nil
  | cons pod rest ih =>
    cases h with
    | cons hdump hrest =>
      have hdumped := ih hrest fun e he => hw e (List.mem_append_right _ he)
      rw [aboutFiles_append]
      obtain ⟨f, hdocument, rfl, habout⟩ | ⟨text, answer, hdocument, rfl, habout⟩ :=
        dump_follows hdump fun e he => hw e (List.mem_append_left _ he)
      · rw [habout, List.nil_append]
        exact .unread hdocument hdumped
      · rw [habout]
        exact .tried answer hdocument hdumped

end Follows

/-- **What comes after the dumps** ends with the attempt to write the index. -/
theorem finish_cases {results : List (PodRef × Except Failure Unit)} {result : Except Failure String}
    (moment : Moment)
    (h : m.host.Runs (finish directory (c.index m.world moment pods []) results) t es result t') :
    (∃ g, result = .error (g.within "Failed to write summary.json") ∧
        es.getLast? = some ⟨.writePath (summaryPath directory)
          (c.index m.world moment pods results).text, .error g⟩ ∧
        m.host (.writePath (summaryPath directory)
          (c.index m.world moment pods results).text) t = (.error g, t')) ∨
      result = .ok directory ∧
        aboutFiles es = [⟨.writePath (summaryPath directory)
          (c.index m.world moment pods results).text, .ok ()⟩] ∧
        m.host (.writePath (summaryPath directory)
          (c.index m.world moment pods results).text) t = (.ok (), t') := by
  rw [finish] at h
  obtain ⟨e, hnote, rfl⟩ | ⟨i, es₁, t₁, rest₁, hnote, h₁, rfl⟩ := h.bind_cases
  · have hfound := (reads (asksOnly_noteDumps _ _) hnote).1
    rw [finds_noteDumps] at hfound
    cases hfound
  obtain ⟨hfound, rfl, habout⟩ := reads (asksOnly_noteDumps _ _) hnote
  rw [finds_noteDumps] at hfound
  obtain rfl := Except.ok.inj hfound
  rw [finds_sorted] at h₁
  obtain ⟨e, hwrite, rfl⟩ | ⟨u, es₂, t₂, rest₂, hwrite, h₂, rfl⟩ := h₁.bind_cases
  · obtain ⟨f, heq, rfl, hhost⟩ | ⟨heq, -⟩ := write_cases hwrite
    · obtain rfl := Except.error.inj heq
      exact .inl ⟨f, rfl, List.getLast?_concat, hhost⟩
    · cases heq
  obtain ⟨f, heq, -⟩ | ⟨-, rfl, hhost⟩ := write_cases hwrite
  · cases heq
  obtain ⟨e, hreport, rfl⟩ | ⟨u, es₃, t₃, rest₃, hreport, h₃, rfl⟩ := h₂.bind_cases
  · cases (of_report hreport).1
  obtain ⟨-, rfl, hsilent⟩ := of_report hreport
  obtain ⟨rfl, rfl, rfl⟩ := h₃.of_pure
  refine .inr ⟨rfl, ?_, hhost⟩
  simp only [aboutFiles_append, habout, hsilent]
  rfl

end Collector

end Cases

end MeshDoctor.Bundle
