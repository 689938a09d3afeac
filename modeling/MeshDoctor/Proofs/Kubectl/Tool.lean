import MeshDoctor.Kubectl.Tool
import MeshDoctor.Proofs.Cluster.Snapshot
import MeshDoctor.Proofs.Json.ReadBack
import MeshDoctor.Proofs.Kubectl.Client
import MeshDoctor.Proofs.Text.Utf8

/-!
# Kubectl — a tool that knows a snapshot answers as the snapshot does

* `Errand.read?_invocation` and the lemmas after it: each request on a cluster is read back from its
  command line.
* `ToolOutput.outputText_prints`, `ToolOutput.complaint_complains`: what a tool prints is what is
  read.
* `Snapshot.IsReadable`: the objects of a snapshot survive being printed.
* **`Kubectl.answers_of_answerLine`**: such a tool answers every request as the snapshot does.
-/

namespace MeshDoctor

open Json

/-! ## Command lines -/

namespace Errand

/-- The context only says of which cluster. -/
theorem read?_invocation (k : Kubectl) {word : String} {rest : List String}
    (h : word ≠ "--context") :
    read? (k.invocation (word :: rest)).arguments = readPlain? (word :: rest) := by
  cases hcontext : k.context with
  | some name => simp [Kubectl.invocation, hcontext, Kubectl.flag, read?]
  | none =>
    simp only [Kubectl.invocation, hcontext, Kubectl.flag, List.nil_append]
    rw [read?]
    intro name more hmore
    exact h (List.cons.inj hmore).1

variable (kind : String)

theorem readPlain?_getArguments (ns : Option String) (name : String) :
    readPlain? (Kubectl.getArguments kind ns name) = some (.get kind ns name) := by
  cases ns with
  | none =>
    simp only [Kubectl.getArguments, Kubectl.flag, List.append_nil]
    rw [readPlain?]
  | some ns =>
    simp only [Kubectl.getArguments, Kubectl.flag, List.cons_append, List.nil_append]
    rw [readPlain?]

theorem readPlain?_listArguments (q : ListQuery) :
    readPlain? (Kubectl.listArguments kind q) = some (.list kind q) := by
  have hlist (flags : List String) : readPlain? ("get" :: kind :: "-o" :: "json" :: flags) =
      (readQuery {} flags).map (.list kind) := by rw [readPlain?]
  obtain ⟨ns, labels, fields⟩ := q
  cases ns <;> cases labels <;> cases fields <;>
    simp [Kubectl.listArguments, Kubectl.flag, hlist, readQuery]

end Errand

/-! ## Output -/

namespace ToolOutput

@[simp] theorem outputText_prints (text : String) : Kubectl.outputText (prints text) = text := by
  rw [Kubectl.outputText, prints, Text.decodeLossy_encode, String.ofList_toList]

@[simp] theorem complaint_complains (text : String) :
    Kubectl.complaint (complains text) = text := by
  rw [Kubectl.complaint, complains, Text.decodeLossy_encode, String.ofList_toList]

theorem success_prints (text : String) : (prints text).success := rfl

theorem not_success_complains (text : String) : ¬ (complains text).success := Bool.false_ne_true

theorem showsText_ofResult (result : Except Failure String) :
    (ofResult id result).ShowsText result := by
  cases result with
  | ok text => exact ⟨success_prints text, outputText_prints text⟩
  | error f => exact ⟨not_success_complains f.text, congrArg _ (complaint_complains f.text)⟩

end ToolOutput

/-! ## Snapshots -/

namespace Snapshot

variable {c : Snapshot}

/-- The objects of the snapshot can be printed in a list and read back. -/
def IsReadable (c : Snapshot) : Prop := ∀ o ∈ c.objects, Readable (nestingLimit - 2) o.2

theorem readable_of_mem_ofKind (h : c.IsReadable) {kind : String} {v : Value}
    (hv : v ∈ c.ofKind kind) : Readable (nestingLimit - 2) v := by
  obtain ⟨o, ho, rfl⟩ := List.mem_map.mp hv
  exact h o (List.mem_of_mem_filter ho)

theorem mem_ofKind_of_get {kind name : String} {ns : Option String} {v : Value}
    (h : c.get kind ns name = .ok v) : v ∈ c.ofKind kind := by
  rw [get] at h
  split at h
  next object hfound =>
    obtain rfl : object = v := Except.ok.inj h
    exact List.mem_of_find?_eq_some hfound
  next => cases h

theorem infix_notFoundComplaint (kind name : String) :
    "NotFound".toList <:+: (notFoundComplaint kind name).toList := by
  have hword : "NotFound".toList <:+: "Error from server (NotFound): ".toList :=
    ⟨"Error from server (".toList, "): ".toList, rfl⟩
  unfold notFoundComplaint
  rw [String.append_assoc, String.append_assoc, String.append_assoc, String.toList_append]
  exact hword.trans (List.prefix_append _ _).isInfix

/-- The tool prints a resource or says that there is none. -/
theorem showsResource_printResource (h : c.IsReadable) (kind name : String) (ns : Option String) :
    (printResource (c.get kind ns name)).ShowsResource (c.get kind ns name) := by
  cases hget : c.get kind ns name with
  | ok v =>
    have hreadable : Readable nestingLimit v :=
      (readable_of_mem_ofKind h (mem_ofKind_of_get hget)).mono (by decide)
    refine ⟨ToolOutput.success_prints _, ?_⟩
    rw [printResource, ToolOutput.outputText_prints, Value.read?_compact hreadable]
  | error f =>
    obtain rfl := get_eq_error hget
    have hprints : printResource (.error (.of (.notFound kind name))) =
        .complains (notFoundComplaint kind name) := rfl
    rw [hprints]
    refine ⟨ToolOutput.not_success_complains _, ?_⟩
    rw [ToolOutput.complaint_complains]
    exact infix_notFoundComplaint kind name

/-- The tool prints the objects that a query asks for. -/
theorem showsItems_printItems (h : c.IsReadable) (kind : String) (q : ListQuery) :
    (ToolOutput.prints (printItems (c.list kind q))).ShowsItems (c.list kind q) := by
  have hitems : Readable (nestingLimit - 1) (.array (c.list kind q)) :=
    .array fun v hv => readable_of_mem_ofKind h (List.mem_of_mem_filter hv)
  refine ⟨ToolOutput.success_prints _, [("items", .array (c.list kind q))], ?_, rfl⟩
  rw [ToolOutput.outputText_prints]
  refine Document.read?_compact _ fun m hm => ?_
  rw [List.mem_singleton.mp hm]
  exact hitems

end Snapshot

/-- **A tool that knows a snapshot answers every request as the snapshot does.** -/
theorem Kubectl.answers_of_answerLine (k : Kubectl) {c : Snapshot} {w : World}
    (hc : c.failures = []) (hreadable : c.IsReadable)
    (htool : ∀ i, w (.run i) = .ok (c.answerLine i.arguments)) (r : Request) :
    k.Answers c w r := by
  have hruns (word : String) (rest : List String) (hword : word ≠ "--context") (e : Errand)
      (he : Errand.readPlain? (word :: rest) = some e) :
      w (.run (k.invocation (word :: rest))) = .ok (c.perform e) := by
    rw [htool, Snapshot.answerLine, Errand.read?_invocation k hword, he]
  cases r with
  | get kind ns name =>
    rw [Answers, ← getArguments_eq_words, runs_iff]
    refine ⟨_, hruns _ _ (by decide) _ (Errand.readPlain?_getArguments kind ns name), ?_⟩
    rw [Snapshot.perform, c.world_of_failures hc]
    exact c.showsResource_printResource hreadable kind name ns
  | list kind q =>
    rw [Answers, ← listArguments_eq_words, runs_iff]
    refine ⟨_, hruns _ _ (by decide) _ (Errand.readPlain?_listArguments kind q), ?_⟩
    rw [Snapshot.perform, c.world_of_failures hc]
    exact c.showsItems_printItems hreadable kind q
  | exec pod container command =>
    rw [Answers, ← execArguments_eq_words, runs_iff]
    refine ⟨_, hruns _ _ (by decide) (.exec pod) rfl, ?_⟩
    rw [Snapshot.perform, c.world_of_failures hc]
    exact ToolOutput.showsText_ofResult (c.exec pod)
  | logs pod container =>
    rw [Answers, ← logsArguments_eq_words, runs_iff]
    refine ⟨_, hruns _ _ (by decide) (.logs pod) rfl, ?_⟩
    rw [Snapshot.perform, c.world_of_failures hc]
    exact ToolOutput.showsText_ofResult (.ok (c.logsOf pod))
  | _ => trivial

end MeshDoctor
