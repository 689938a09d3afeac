import MeshDoctor.Cluster.Typed
import MeshDoctor.Proofs.Kubectl.Serve
import MeshDoctor.Proofs.PodRef

/-!
# Kubectl — names among options

A pod is named to the tool by a word between options, and the tool takes a word that starts with a
dash for an option wherever it stands, up to the word that ends the options.

* `ToolReading`: what the words of a run are taken for.
* `ReadsWords`: words are taken for options and operands as tools do by convention.
* `ReadsWords.not_isOption_of_mem_operands`: no option is taken for an operand.
* `PodRequest`: the requests that are made for one pod.
* `Kubectl.Access.filterMap_invocation?_serve`: each of them makes one run of the tool.
* `PodRequest.startsWithDash_nameWord_iff`: which references give a word that starts with a dash.
* **`Kubectl.Access.reads_podRequest_iff`**: a request is read as it is meant unless the word for the
  name is an option.
-/

namespace MeshDoctor

/-! ## Words of a run -/

/-- The word starts with a dash. -/
def StartsWithDash (word : String) : Prop := word.toList.head? = some '-'

/-- The word is taken for an option; a dash alone is an operand. -/
def IsOption (word : String) : Prop := StartsWithDash word ∧ word ≠ "-"

theorem startsWithDash_append {word : String} (hword : word ≠ "") (rest : String) :
    StartsWithDash (word ++ rest) ↔ StartsWithDash word := by
  have hfirst : word.toList ≠ [] := by simpa using hword
  rw [StartsWithDash, String.toList_append, List.head?_append, StartsWithDash]
  cases hchars : word.toList with
  | nil => exact absurd hchars hfirst
  | cons c chars => rfl

theorem not_isOption_of_not_startsWithDash {word : String} (h : ¬ StartsWithDash word) :
    ¬ IsOption word := fun hoption => h hoption.1

instance : DecidablePred StartsWithDash := fun _ => inferInstanceAs (Decidable (_ = _))

instance : DecidablePred IsOption := fun _ => inferInstanceAs (Decidable (_ ∧ _))

/-- What the words of a run are taken for. -/
structure ToolReading where
  /-- The options in order, with the values of those that take one. -/
  options : List (String × Option String) := []
  operands : List String := []
  /-- The words behind the end of the options. -/
  behind : List String := []
  deriving DecidableEq, Repr

namespace ToolReading

def withOptions (options : List (String × Option String)) (r : ToolReading) : ToolReading :=
  { r with options := options ++ r.options }

def withOperand (word : String) (r : ToolReading) : ToolReading :=
  { r with operands := word :: r.operands }

end ToolReading

/-- The option that a flag gives, if it has a value. -/
def flagOptions (name : String) (value : Option String) : List (String × Option String) :=
  value.toList.map fun v => (name, some v)

/-- Words are taken for options and operands as tools do by convention. The table `takesValue` tells
whether an option takes the next word as its value, and none if the tool does not know the option. -/
structure ReadsWords (takesValue : String → Option Bool) (read : List String → Option ToolReading) :
    Prop where
  nil : read [] = some {}
  ended : ∀ rest, read ("--" :: rest) = some { behind := rest }
  operand : ∀ {word} rest, ¬ IsOption word →
    read (word :: rest) = (read rest).map (ToolReading.withOperand word)
  option : ∀ {word} rest, IsOption word → word ≠ "--" →
    read (word :: rest) =
      match takesValue word, rest with
      | some false, rest => (read rest).map (ToolReading.withOptions [(word, none)])
      | some true, value :: rest => (read rest).map (ToolReading.withOptions [(word, some value)])
      | _, _ => none

/-- The reader of words by convention. -/
def readWords (takesValue : String → Option Bool) : List String → Option ToolReading
  | [] => some {}
  | word :: rest =>
    if word = "--" then some { behind := rest }
    else if IsOption word then
      match takesValue word, rest with
      | some false, rest => (readWords takesValue rest).map (ToolReading.withOptions [(word, none)])
      | some true, value :: rest =>
        (readWords takesValue rest).map (ToolReading.withOptions [(word, some value)])
      | _, _ => none
    else (readWords takesValue rest).map (ToolReading.withOperand word)

theorem readsWords_readWords (takesValue : String → Option Bool) :
    ReadsWords takesValue (readWords takesValue) where
  nil := by unfold readWords; rfl
  ended rest := by unfold readWords; rfl
  operand {word} rest hword := by
    have hend : word ≠ "--" := by
      rintro rfl
      exact hword (by decide)
    rw [readWords.eq_def]
    simp only [if_neg hend, if_neg hword]
  option {word} rest hword hend := by
    rw [readWords.eq_def]
    simp only [if_neg hend, if_pos hword]

namespace ReadsWords

variable {takesValue : String → Option Bool} {read : List String → Option ToolReading}
  (h : ReadsWords takesValue read)
include h

/-- What a word adds to the operands of the words that are read after it. -/
theorem operands_cons {word : String} {rest : List String} {reading : ToolReading}
    (hread : read (word :: rest) = some reading) :
    reading.operands = [] ∨
      ∃ tail reading', tail <:+ rest ∧ read tail = some reading' ∧
        (reading.operands = reading'.operands ∨
          ¬ IsOption word ∧ reading.operands = word :: reading'.operands) := by
  by_cases hend : word = "--"
  · rw [hend, h.ended] at hread
    obtain rfl := Option.some.inj hread
    exact .inl rfl
  by_cases hword : IsOption word
  · rw [h.option rest hword hend] at hread
    split at hread
    next =>
      obtain ⟨reading', hrest, rfl⟩ := Option.map_eq_some_iff.mp hread
      exact .inr ⟨_, reading', List.suffix_rfl, hrest, .inl rfl⟩
    next =>
      obtain ⟨reading', htail, rfl⟩ := Option.map_eq_some_iff.mp hread
      exact .inr ⟨_, reading', List.suffix_cons _ _, htail, .inl rfl⟩
    next => cases hread
  · rw [h.operand rest hword] at hread
    obtain ⟨reading', hrest, rfl⟩ := Option.map_eq_some_iff.mp hread
    exact .inr ⟨rest, reading', List.suffix_rfl, hrest, .inr ⟨hword, rfl⟩⟩

/-- **No option is taken for an operand.** -/
theorem not_isOption_of_mem_operands {words : List String} {reading : ToolReading} {operand : String}
    (hread : read words = some reading) (hoperand : operand ∈ reading.operands) :
    ¬ IsOption operand := by
  -- an option may take the next word with it, so what is read next is just some shorter end
  induction hn : words.length using Nat.strongRecOn generalizing words reading with
  | _ n ih =>
    cases words with
    | nil =>
      rw [h.nil] at hread
      obtain rfl := Option.some.inj hread
      cases hoperand
    | cons word rest =>
      obtain hnone | ⟨tail, reading', htail, hread', hsame | ⟨hword, hadded⟩⟩ :=
        h.operands_cons hread
      · rw [hnone] at hoperand
        cases hoperand
      · rw [hsame] at hoperand
        exact ih tail.length (hn ▸ Nat.lt_succ_of_le htail.length_le) hread' hoperand rfl
      · rw [hadded, List.mem_cons] at hoperand
        obtain rfl | hoperand := hoperand
        · exact hword
        · exact ih tail.length (hn ▸ Nat.lt_succ_of_le htail.length_le) hread' hoperand rfl

/-- An option takes the next word as its value, even if that starts with a dash. -/
theorem valued {name : String} (hname : IsOption name) (hend : name ≠ "--")
    (htakes : takesValue name = some true) (value : String) (rest : List String) :
    read (name :: value :: rest) = (read rest).map (ToolReading.withOptions [(name, some value)]) := by
  rw [h.option _ hname hend, htakes]

/-- A flag is read as an option with its value. -/
theorem flag {name : String} (hname : IsOption name) (hend : name ≠ "--") {value : Option String}
    (htakes : ∀ option ∈ flagOptions name value, takesValue option.1 = some true)
    (rest : List String) :
    read (Kubectl.flag name value ++ rest) =
      (read rest).map (ToolReading.withOptions (flagOptions name value)) := by
  cases value with
  | none => exact (Option.map_id' (x := read rest)).symm
  | some value => exact h.valued hname hend (htakes _ List.mem_cons_self) value rest

end ReadsWords

/-! ## Requests for a pod -/

/-- A request that is made for one pod. -/
inductive PodRequest where
  | object
  | exec (container : Option String) (command : List String)
  | logs (container : Option String)
  | sidecar
  deriving DecidableEq, Repr

/-- The run that a request makes of a tool. -/
def Request.invocation? : Request → Option Invocation
  | .run i | .start i => some i
  | _ => none

namespace PodRequest

/-- The request on the cluster. -/
def on (pod : PodRef) : PodRequest → Request
  | object => .get Kind.pods.name (some pod.namespace) pod.name
  | exec container command => .exec pod container command
  | logs container => .logs pod container
  | sidecar => .sidecar pod

/-- The word that names the pod to the tool. -/
def nameWord (pod : PodRef) : PodRequest → String
  | sidecar => "pod/" ++ pod.name
  | _ => pod.name

/-- The word for the name starts with a dash if there is one behind the slash of the reference,
unless a port is forwarded. -/
theorem startsWithDash_nameWord_iff {text : String} {pod : PodRef}
    (htext : PodRef.read text = .ok pod) (request : PodRequest) :
    StartsWithDash (request.nameWord pod) ↔
      request ≠ .sidecar ∧ ['/', '-'] <:+: text.toList := by
  obtain ⟨hpod, rfl⟩ := PodRef.read_eq_ok_iff.mp htext
  have hslash : ['/', '-'] <:+: pod.text.toList ↔ StartsWithDash pod.name := hpod.infix_text_iff
  have hkind : ¬ StartsWithDash ("pod/" ++ pod.name) :=
    mt (startsWithDash_append (by decide) _).mp (by decide)
  rw [hslash]
  cases request with
  | sidecar => exact iff_of_false hkind fun h => h.1 rfl
  | object | exec container command | logs container =>
    exact (and_iff_right PodRequest.noConfusion).symm

end PodRequest

namespace Kubectl.Access

open Inquiry

variable (a : Access) (pod : PodRef)

/-- The arguments of the run that a request makes. -/
def podArguments : PodRequest → List String
  | .object => getArguments Kind.pods.name (some pod.namespace) pod.name
  | .exec container command => execArguments pod container command
  | .logs container => logsArguments pod container
  | .sidecar => forwardArguments pod a.adminPort

/-- **Each request for a pod makes one run of the tool.** -/
theorem filterMap_invocation?_serve {σ : Type} (host : Inquiry.Host σ) (s : σ)
    (request : PodRequest) :
    ((a.serve (request.on pod)).requests host s).filterMap Request.invocation? =
      [a.kubectl.invocation (a.podArguments pod request)] := by
  cases request with
  | object => exact congrArg (List.filterMap _) (a.kubectl.asks_get host s _ _ _)
  | exec container command => exact congrArg (List.filterMap _) (a.kubectl.asks_perform host s _ _)
  | logs container => exact congrArg (List.filterMap _) (a.kubectl.asks_perform host s _ _)
  | sidecar =>
    change (host.asks (a.sidecar pod) s).filterMap Request.invocation? = _
    rw [sidecar, Host.asks_bind, asks_forward]
    cases host.finds (a.kubectl.forward pod a.adminPort) s with
    | ok port =>
      -- what is asked over the forwarded port is no run
      dsimp only
      rw [List.filterMap_append, Host.asks_bind_of_silent _ _ _ _ fun _ _ => rfl]
      rfl
    | error f => rfl

theorem nameWord_mem_invocation (request : PodRequest) :
    request.nameWord pod ∈ (a.kubectl.invocation (a.podArguments pod request)).arguments := by
  refine List.mem_append_right _ ?_
  cases request <;>
    simp [PodRequest.nameWord, podArguments, getArguments, execArguments, logsArguments,
      forwardArguments]

/-- What the arguments are meant for: the name is an operand, and the flags are the options. -/
def podMeaning (request : PodRequest) : ToolReading :=
  match request with
  | .object =>
    { options := [("-o", some "json"), ("-n", some pod.namespace)]
      operands := ["get", Kind.pods.name, request.nameWord pod] }
  | .exec container command =>
    { options := ("-n", some pod.namespace) :: flagOptions "-c" container
      operands := ["exec", request.nameWord pod]
      behind := command }
  | .logs container =>
    { options := ("-n", some pod.namespace) :: flagOptions "-c" container
      operands := ["logs", request.nameWord pod] }
  | .sidecar =>
    { options := [("-n", some pod.namespace)]
      operands := ["port-forward", request.nameWord pod, ":" ++ toString a.adminPort] }

/-- What the words of the run are meant for. -/
def meaning (request : PodRequest) : ToolReading :=
  (a.podMeaning pod request).withOptions (flagOptions "--context" a.kubectl.context)

variable {a pod} {takesValue : String → Option Bool} {read : List String → Option ToolReading}

/-- Arguments are read as they are meant if the word for the name is no option. -/
theorem read_podArguments (hread : ReadsWords takesValue read) {request : PodRequest}
    (htakes : ∀ option ∈ (a.podMeaning pod request).options, takesValue option.1 = some true)
    (hname : ¬ IsOption (request.nameWord pod)) :
    read (a.podArguments pod request) = some (a.podMeaning pod request) := by
  cases request with
  | object =>
    simp only [podMeaning, List.forall_mem_cons] at htakes
    obtain ⟨hformat, hnamespace, -⟩ := htakes
    have hpod : ¬ IsOption pod.name := hname
    simp only [podArguments, getArguments, Kubectl.flag, List.cons_append, List.nil_append]
    rw [hread.operand _ (by decide), hread.operand _ (by decide), hread.operand _ hpod,
      hread.valued (by decide) (by decide) hformat, hread.valued (by decide) (by decide) hnamespace,
      hread.nil]
    rfl
  | exec container command =>
    simp only [podMeaning, List.forall_mem_cons] at htakes
    obtain ⟨hnamespace, hcontainer⟩ := htakes
    have hpod : ¬ IsOption pod.name := hname
    simp only [podArguments, execArguments, List.cons_append, List.nil_append]
    rw [hread.operand _ (by decide), hread.valued (by decide) (by decide) hnamespace,
      hread.operand _ hpod, hread.flag (by decide) (by decide) hcontainer, hread.ended]
    simp [podMeaning, ToolReading.withOptions, ToolReading.withOperand, PodRequest.nameWord]
  | logs container =>
    simp only [podMeaning, List.forall_mem_cons] at htakes
    obtain ⟨hnamespace, hcontainer⟩ := htakes
    have hpod : ¬ IsOption pod.name := hname
    simp only [podArguments, logsArguments, List.cons_append, List.nil_append]
    rw [hread.operand _ (by decide), hread.valued (by decide) (by decide) hnamespace,
      hread.operand _ hpod, ← List.append_nil (flag "-c" container),
      hread.flag (by decide) (by decide) hcontainer, hread.nil]
    simp [podMeaning, ToolReading.withOptions, ToolReading.withOperand, PodRequest.nameWord]
  | sidecar =>
    simp only [podMeaning, List.forall_mem_cons] at htakes
    obtain ⟨hnamespace, -⟩ := htakes
    have hpod : ¬ IsOption ("pod/" ++ pod.name) := hname
    have hport : ¬ IsOption (":" ++ toString a.adminPort) :=
      not_isOption_of_not_startsWithDash
        (mt (startsWithDash_append (by decide) _).mp (by decide))
    simp only [podArguments, forwardArguments]
    rw [hread.operand _ (by decide), hread.valued (by decide) (by decide) hnamespace,
      hread.operand _ hpod, hread.operand _ hport, hread.nil]
    rfl

/-- A run is read as it is meant exactly if the word for the name is no option. -/
theorem read_invocation_iff (hread : ReadsWords takesValue read) {request : PodRequest}
    (htakes : ∀ option ∈ (a.meaning pod request).options, takesValue option.1 = some true) :
    read (a.kubectl.invocation (a.podArguments pod request)).arguments =
        some (a.meaning pod request) ↔
      ¬ IsOption (request.nameWord pod) := by
  constructor
  · intro hmeant
    refine hread.not_isOption_of_mem_operands hmeant ?_
    cases request <;> simp [meaning, podMeaning, ToolReading.withOptions]
  · intro hname
    obtain ⟨hcontext, hpod⟩ := List.forall_mem_append.mp htakes
    rw [invocation, hread.flag (by decide) (by decide) hcontext, read_podArguments hread hpod hname]
    rfl

/-- **A request for a pod is read as it is meant unless the word for its name is an option.** Each
request makes one run. The word for the name starts with a dash exactly if a dash is behind the slash
of the reference and no port is forwarded, since only there the name comes with its kind. If the word
is taken for an option, then the run does not name the pod at all. -/
theorem reads_podRequest_iff (a : Access) (hread : ReadsWords takesValue read) {text : String}
    (htext : PodRef.read text = .ok pod) (request : PodRequest)
    (htakes : ∀ option ∈ (a.meaning pod request).options, takesValue option.1 = some true)
    {σ : Type} (host : Inquiry.Host σ) (s : σ) :
    ∃ i : Invocation,
      ((a.serve (request.on pod)).requests host s).filterMap Request.invocation? = [i] ∧
      request.nameWord pod ∈ i.arguments ∧
      (StartsWithDash (request.nameWord pod) ↔
        request ≠ .sidecar ∧ ['/', '-'] <:+: text.toList) ∧
      (read i.arguments = some (a.meaning pod request) ↔ ¬ IsOption (request.nameWord pod)) ∧
      (IsOption (request.nameWord pod) →
        ∀ reading, read i.arguments = some reading → request.nameWord pod ∉ reading.operands) := by
  refine ⟨_, a.filterMap_invocation?_serve pod host s request,
    a.nameWord_mem_invocation pod request, request.startsWithDash_nameWord_iff htext,
    read_invocation_iff hread htakes, ?_⟩
  intro hoption reading hreading hoperand
  exact hread.not_isOption_of_mem_operands hreading hoperand hoption

/-- The tool on its own cluster, with the usual port of the admin interface. -/
def usual : Access where
  kubectl := {}
  adminPort := 15000
  timeout := 30000

/-- Options of the tool: those that requests for a pod use, and the one for all namespaces, which
takes no value. -/
def someOptions (word : String) : Option Bool :=
  if word ∈ ["--context", "-n", "-o", "-c"] then some true
  else if word = "-A" then some false
  else none

/-- A command in a pod may have any options. -/
theorem reads_podRequest_iff_listing :
    PodRef.read "shop/store" = .ok ⟨"shop", "store"⟩ ∧
      ((usual.serve (.exec ⟨"shop", "store"⟩ (some "-app") ["ls", "-A"])).requests
        World.silent.host ()).filterMap Request.invocation? =
        [{ program := "kubectl"
           arguments := ["exec", "-n", "shop", "store", "-c", "-app", "--", "ls", "-A"] }] ∧
      readWords someOptions ["exec", "-n", "shop", "store", "-c", "-app", "--", "ls", "-A"] =
        some { options := [("-n", some "shop"), ("-c", some "-app")]
               operands := ["exec", "store"]
               behind := ["ls", "-A"] } := by
  have htext : PodRef.read "shop/store" = .ok ⟨"shop", "store"⟩ := rfl
  obtain ⟨i, hrun, -, -, hread, -⟩ := reads_podRequest_iff usual (readsWords_readWords someOptions)
    htext (.exec (some "-app") ["ls", "-A"]) (by decide) World.silent.host ()
  obtain rfl : i = usual.kubectl.invocation _ := (List.cons.inj hrun.symm).1
  exact ⟨htext, hrun, hread.mpr (by decide)⟩

/-- **A name that is read as an option.** The dash gets into the name, and the tool is asked for the
pods of all namespaces. -/
theorem name_read_as_option :
    PodRef.read "shop/-A" = .ok ⟨"shop", "-A"⟩ ∧
      ((usual.serve (.get Kind.pods.name (some "shop") "-A")).requests
        World.silent.host ()).filterMap Request.invocation? =
        [{ program := "kubectl", arguments := ["get", "pods", "-A", "-o", "json", "-n", "shop"] }] ∧
      StartsWithDash (PodRequest.object.nameWord ⟨"shop", "-A"⟩) ∧
      readWords someOptions ["get", "pods", "-A", "-o", "json", "-n", "shop"] =
        some { options := [("-A", none), ("-o", some "json"), ("-n", some "shop")]
               operands := ["get", "pods"] } :=
  ⟨rfl, rfl, by decide, by decide⟩

end Kubectl.Access

end MeshDoctor
