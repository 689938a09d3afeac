import MeshDoctor.Cluster.Snapshot
import MeshDoctor.Kubectl.Serve
import MeshDoctor.Proofs.Inquiry.Surroundings
import MeshDoctor.Proofs.Text.Words

/-!
# Kubectl — what a request finds through the tool

A request on the cluster makes one run of the tool. Once the run has come to an end, what it printed
decides what is found.

* `finds_perform`, `finds_get`, `finds_exec`, `finds_logs`: what a run printed and what is found.
* `ToolOutput.ShowsResource`, `ToolOutput.ShowsItems`, `ToolOutput.ShowsText`: what the tool prints
  for a resource, for a list of resources, and for the output of a command.
* `Kubectl.words`: the words that ask the tool for what a request is about; `getArguments_eq_words`
  and its siblings: these are the words of the runs.
* `Kubectl.Answers`: asked with them, the tool answers a request as a snapshot does.
* `finds_get_of_runs`, `finds_list_of_runs`, `finds_logs_of_runs`: such answers are understood.
-/

namespace MeshDoctor

open Json

/-! ## Runs of the tool -/

namespace Kubectl

variable (k : Kubectl) {w : World} {o : ToolOutput}

theorem finds_perform {arguments : List String} (h : w (.run (k.invocation arguments)) = .ok o)
    (context : Option String) :
    w.finds (k.perform arguments context) =
      addContext (context.getD (defaultContext (k.invocation arguments))) (outcome o) := by
  have hrun : w.finds (request (.run (k.invocation arguments))) = .ok o := h
  rw [perform, World.finds_bind, World.finds_within, hrun]
  rfl

theorem finds_get {kind name : String} {ns : Option String}
    (h : w (.run (k.invocation (getArguments kind ns name))) = .ok o) :
    w.finds (k.get kind ns name) = resource kind name o := by
  have hrun : w.finds (request (.run (k.invocation (getArguments kind ns name)))) = .ok o := h
  rw [get, World.finds_bind, World.finds_within, hrun]
  rfl

theorem finds_exec {pod : PodRef} {container : Option String} {command : List String}
    (h : w (.run (k.invocation (execArguments pod container command))) = .ok o) :
    w.finds (k.exec pod container command) =
      addContext ("Failed to exec in pod " ++ pod.text) (outcome o) :=
  k.finds_perform h _

theorem finds_logs {pod : PodRef} {container : Option String}
    (h : w (.run (k.invocation (logsArguments pod container))) = .ok o) :
    w.finds (k.logs pod container) =
      addContext ("Failed to get logs for pod " ++ pod.text) (outcome o) :=
  k.finds_perform h _

end Kubectl

/-! ## A tool that answers as a snapshot does -/

namespace ToolOutput

variable (o : ToolOutput)

/-- The tool prints the resource, or it says that the server found none. -/
def ShowsResource : Except Failure Value → Prop
  | .ok v => o.success ∧ Value.read? (Kubectl.outputText o) = some v
  | .error _ =>
    ¬ o.success ∧ "NotFound".toList <:+: (Kubectl.complaint o).toList

/-- The tool prints an object with these items, which are stated once. -/
def ShowsItems (vs : List Value) : Prop :=
  o.success ∧ ∃ members, Document.read? ["items"] (Kubectl.outputText o) = some (.object members) ∧
    members.filter (·.1 = "items") = [("items", .array vs)]

/-- The tool prints the text, or it fails with the message, blanks around it aside. -/
def ShowsText : Except Failure String → Prop
  | .ok text => o.success ∧ Kubectl.outputText o = text
  | .error f => ¬ o.success ∧ Text.trim (Kubectl.complaint o) = Text.trim f.text

end ToolOutput

namespace Kubectl

/-- The words that ask the tool for what a request is about. -/
def words : Request → List String
  | .get kind ns name => ["get", kind, name, "-o", "json"] ++ ns.elim [] fun ns => ["-n", ns]
  | .list kind q =>
    ["get", kind, "-o", "json"] ++ (q.namespace.elim ["--all-namespaces"] fun ns => ["-n", ns]) ++
      (q.labels.elim [] fun selector => ["-l", selector]) ++
        q.fields.elim [] fun selector => ["--field-selector", selector]
  | .exec pod container command =>
    ["exec", "-n", pod.namespace, pod.name] ++ (container.elim [] fun name => ["-c", name]) ++
      "--" :: command
  | .logs pod container =>
    ["logs", "-n", pod.namespace, pod.name] ++ container.elim [] fun name => ["-c", name]
  | _ => []

/-- In the world, a run of the tool with these words comes to an end, and its output has the
property. The tool is told its cluster by a file and by the words before. -/
def Runs (k : Kubectl) (w : World) (words : List String) (P : ToolOutput → Prop) : Prop :=
  ∃ o, w (.run ⟨k.program, (k.context.elim [] fun name => ["--context", name]) ++ words,
    k.kubeconfig⟩) = .ok o ∧ P o

/-- The tool answers the request as the snapshot does. -/
def Answers (k : Kubectl) (c : Snapshot) (w : World) : Request → Prop
  | .get kind ns name =>
    k.Runs w (words (.get kind ns name)) (·.ShowsResource (c.get kind ns name))
  | .list kind q => k.Runs w (words (.list kind q)) (·.ShowsItems (c.list kind q))
  | .exec pod container command =>
    k.Runs w (words (.exec pod container command)) (·.ShowsText (c.exec pod))
  | .logs pod container =>
    k.Runs w (words (.logs pod container)) (·.ShowsText (.ok (c.logsOf pod)))
  | _ => True

/-! ## The words of runs -/

theorem flag_eq_elim (name : String) (value : Option String) :
    flag name value = value.elim [] fun value => [name, value] := by
  cases value <;> rfl

theorem runs_iff {k : Kubectl} {w : World} {arguments : List String} {P : ToolOutput → Prop} :
    k.Runs w arguments P ↔ ∃ o, w (.run (k.invocation arguments)) = .ok o ∧ P o := by
  rw [Runs, invocation, flag_eq_elim]

theorem getArguments_eq_words (kind : String) (ns : Option String) (name : String) :
    getArguments kind ns name = words (.get kind ns name) := by
  rw [getArguments, words, flag_eq_elim]

theorem listArguments_eq_words (kind : String) (q : ListQuery) :
    listArguments kind q = words (.list kind q) := by
  rw [listArguments, words, flag_eq_elim, flag_eq_elim]
  cases q.namespace <;> rfl

theorem execArguments_eq_words (pod : PodRef) (container : Option String) (command : List String) :
    execArguments pod container command = words (.exec pod container command) := by
  rw [execArguments, words, flag_eq_elim]

theorem logsArguments_eq_words (pod : PodRef) (container : Option String) :
    logsArguments pod container = words (.logs pod container) := by
  rw [logsArguments, words, flag_eq_elim]

end Kubectl

/-! ## Answers that are understood -/

theorem Snapshot.get_eq_error {c : Snapshot} {kind name : String} {ns : Option String}
    {f : Failure} (h : c.get kind ns name = .error f) : f = .of (.notFound kind name) := by
  rw [get] at h
  split at h
  · cases h
  · exact (Except.error.inj h).symm

namespace Kubectl

variable (k : Kubectl) {c : Snapshot} {w : World} {o : ToolOutput}

theorem resource_of_showsResource {kind name : String} {ns : Option String}
    (h : o.ShowsResource (c.get kind ns name)) : resource kind name o = c.get kind ns name := by
  cases hget : c.get kind ns name with
  | ok v =>
    rw [hget] at h
    obtain ⟨hsuccess, hread⟩ := h
    rw [resource, if_pos hsuccess, hread]
  | error f =>
    rw [hget] at h
    obtain ⟨hfailure, hword⟩ := h
    have hmissing : saysNotFound (complaint o) := by
      rw [saysNotFound, Text.contains_iff.mpr hword, Bool.true_or]
    rw [resource, if_neg hfailure, if_pos hmissing, Snapshot.get_eq_error hget]

theorem items?_of_showsItems {vs : List Value} (h : o.ShowsItems vs) :
    o.success ∧ items? (outputText o) = some vs := by
  obtain ⟨hsuccess, members, hread, hitems⟩ := h
  refine ⟨hsuccess, ?_⟩
  rw [items?, hread]
  simp only [Option.bind_eq_bind, Option.bind_some, hitems]
  exact (List.mapM_pure (m := Option) (f := id)).trans (congrArg some (List.map_id vs))

theorem outcome_of_showsText {result : Except Failure String} (h : o.ShowsText result) :
    outcome o = result.mapError fun f => .say (Text.trim f.text) := by
  cases result with
  | ok text =>
    obtain ⟨hsuccess, rfl⟩ := h
    exact if_pos hsuccess
  | error f =>
    obtain ⟨hfailure, htrim⟩ := h
    rw [outcome, if_neg hfailure, htrim]
    rfl

theorem finds_get_of_runs {kind name : String} {ns : Option String}
    (h : k.Runs w (words (.get kind ns name)) (·.ShowsResource (c.get kind ns name))) :
    w.finds (k.get kind ns name) = c.get kind ns name := by
  rw [← getArguments_eq_words, runs_iff] at h
  obtain ⟨o, hrun, hshows⟩ := h
  rw [k.finds_get hrun, resource_of_showsResource hshows]

theorem finds_list_of_runs {kind : String} {q : ListQuery}
    (h : k.Runs w (words (.list kind q)) (·.ShowsItems (c.list kind q))) :
    w.finds (k.list kind q) = .ok (c.list kind q) := by
  rw [← listArguments_eq_words, runs_iff] at h
  obtain ⟨o, hrun, hshows⟩ := h
  obtain ⟨hsuccess, hitems⟩ := items?_of_showsItems hshows
  have houtcome : outcome o = .ok (outputText o) := if_pos hsuccess
  rw [list, World.finds_bind, k.finds_perform hrun, houtcome, addContext_ok, ok_bind, hitems]
  rfl

theorem finds_exec_of_runs {pod : PodRef} {container : Option String} {command : List String}
    (h : k.Runs w (words (.exec pod container command)) (·.ShowsText (c.exec pod))) :
    w.finds (k.exec pod container command) =
      addContext ("Failed to exec in pod " ++ pod.text)
        ((c.exec pod).mapError fun f => .say (Text.trim f.text)) := by
  rw [← execArguments_eq_words, runs_iff] at h
  obtain ⟨o, hrun, hshows⟩ := h
  rw [k.finds_exec hrun, outcome_of_showsText hshows]

theorem finds_logs_of_runs {pod : PodRef} {container : Option String}
    (h : k.Runs w (words (.logs pod container)) (·.ShowsText (.ok (c.logsOf pod)))) :
    w.finds (k.logs pod container) = .ok (c.logsOf pod) := by
  rw [← logsArguments_eq_words, runs_iff] at h
  obtain ⟨o, hrun, hshows⟩ := h
  rw [k.finds_logs hrun, outcome_of_showsText hshows]
  rfl

end Kubectl

end MeshDoctor
