import MeshDoctor.Cluster.Snapshot
import MeshDoctor.Proofs.Catalogue.Outcomes
import MeshDoctor.Proofs.Cluster.Typed
import MeshDoctor.Proofs.Text.Blanks
import MeshDoctor.Proofs.Text.Numeral

/-!
# Catalogue — probes

What a probe prints is read as a status, and a status as a verdict.

* `Pod.IsAppContainer`, `Pod.appContainer?_eq_some_iff`: the container from which a probe is made.
* `probeVerdict_of_denotes`, `exists_probeVerdict_of_no_status`: what a status means, and what is said
  of another text.
* `ofResult_probeVerdict`: the three classes of texts, by what they denote.
* `ofResult_probeVerdict_info_iff`, `ofResult_probeVerdict_probeStatus_iff`,
  `ofResult_probeVerdict_quoted_iff`: an outcome tells the class.
* `verdict_httpProbe_of_ok`, `verdict_httpProbe_of_error`: the verdict on what the probe printed, and
  on a failure.
* **`Diagnostic.httpProbe_verdict`**: which request a probe makes, and what it says about the answer.
-/

namespace MeshDoctor

open Catalogue Json Text

/-! ## The container -/

namespace Pod

variable {pod : Pod} {name : String}

/-- The name is that of the first container of the pod that is not the sidecar. -/
def IsAppContainer (pod : Pod) (name : String) : Prop :=
  ∃ before container after, pod.containers = before ++ container :: after ∧
    (∀ c ∈ before, c.name = "envoy") ∧ container.name ≠ "envoy" ∧ container.name = name

theorem appContainer?_eq (pod : Pod) :
    pod.appContainer? = (pod.containers.find? (·.name ≠ "envoy")).map (·.name) := by
  rw [appContainer?, List.find?_map]
  rfl

theorem appContainer?_eq_some_iff : pod.appContainer? = some name ↔ pod.IsAppContainer name := by
  rw [appContainer?_eq, Option.map_eq_some_iff]
  constructor
  · rintro ⟨container, hfind, hname⟩
    obtain ⟨happ, before, after, hsplit, hbefore⟩ := List.find?_eq_some_iff_append.mp hfind
    refine ⟨before, container, after, hsplit, fun c hc => ?_, by simpa using happ, hname⟩
    simpa using hbefore c hc
  · rintro ⟨before, container, after, hsplit, hbefore, happ, hname⟩
    refine ⟨container, List.find?_eq_some_iff_append.mpr
      ⟨by simpa using happ, before, after, hsplit, fun c hc => ?_⟩, hname⟩
    simpa using hbefore c hc

theorem appContainer?_eq_none_iff :
    pod.appContainer? = none ↔ ∀ c ∈ pod.containers, c.name = "envoy" := by
  rw [appContainer?_eq, Option.map_eq_none_iff, List.find?_eq_none]
  simp

end Pod

/-! ## What is printed -/

namespace Catalogue

variable {printed : String} {body : List Char} {n : Nat}

theorem toList_trim (text : String) : (trim text).toList = trimBlanks text.toList :=
  String.toList_ofList

/-- A status from 1 to 399 says that the URL was reached. -/
theorem probeVerdict_of_denotes (htrim : IsTrimmed printed.toList body) (hbody : Denotes body n)
    (hn : n ≤ 65535) :
    probeVerdict printed =
      if n = 0 ∨ 400 ≤ n then .error (.probeStatus n) else .ok (.info ("HTTP " ++ toString n)) := by
  have hread : readNumeral UInt16.size body = .ok n :=
    (readNumeral_eq_ok_iff (by decide)).mpr ⟨hbody, Nat.lt_succ_of_le hn⟩
  simp only [probeVerdict, toList_trim, trimBlanks_eq_iff.mpr htrim, hread]

/-- A text that denotes no status is quoted. -/
theorem exists_probeVerdict_of_no_status (htrim : IsTrimmed printed.toList body)
    (hbody : ∀ n, Denotes body n → 65535 < n) :
    ∃ e, probeVerdict printed = .error
      (.failedRequest ⟨["Unexpected curl output '" ++ String.ofList body ++ "'"], .numeral e⟩) := by
  have htext : trim printed = String.ofList body := by rw [trim, trimBlanks_eq_iff.mpr htrim]
  simp only [probeVerdict, htext, String.toList_ofList]
  cases hread : readNumeral UInt16.size body with
  | ok n =>
    obtain ⟨hnumeral, hlt⟩ := (readNumeral_eq_ok_iff (by decide)).mp hread
    exact absurd hlt (Nat.not_lt.mpr (hbody n hnumeral))
  | error e => exact ⟨e, rfl⟩

/-- The outcome on a text, by what the text denotes. -/
theorem ofResult_probeVerdict (htrim : IsTrimmed printed.toList body) :
    (∃ n, Denotes body n ∧ (1 ≤ n ∧ n ≤ 399) ∧
      Outcome.ofResult (probeVerdict printed) = .info ("HTTP " ++ toString n)) ∨
    (∃ n, Denotes body n ∧ (n = 0 ∨ 400 ≤ n ∧ n ≤ 65535) ∧
      Outcome.ofResult (probeVerdict printed) = .fail (.probeStatus n)) ∨
    (∀ n, Denotes body n → 65535 < n) ∧
      ∃ e, Outcome.ofResult (probeVerdict printed) = .fail (.failedRequest
        ⟨["Unexpected curl output '" ++ String.ofList body ++ "'"], .numeral e⟩) := by
  by_cases hstatus : ∃ n, Denotes body n ∧ n ≤ 65535
  · obtain ⟨n, hbody, hn⟩ := hstatus
    rw [probeVerdict_of_denotes htrim hbody hn]
    by_cases hbad : n = 0 ∨ 400 ≤ n
    · exact .inr (.inl ⟨n, hbody, by omega, by rw [if_pos hbad]; rfl⟩)
    · exact .inl ⟨n, hbody, by omega, by rw [if_neg hbad]; rfl⟩
  · have hlarge : ∀ n, Denotes body n → 65535 < n := fun n hbody =>
      Nat.lt_of_not_le fun hn => hstatus ⟨n, hbody, hn⟩
    obtain ⟨e, hverdict⟩ := exists_probeVerdict_of_no_status htrim hlarge
    exact .inr (.inr ⟨hlarge, e, by rw [hverdict]; rfl⟩)

section Classes

variable (htrim : IsTrimmed printed.toList body)
include htrim

theorem ofResult_probeVerdict_info_iff :
    Outcome.ofResult (probeVerdict printed) = .info ("HTTP " ++ toString n) ↔
      Denotes body n ∧ 1 ≤ n ∧ n ≤ 399 := by
  constructor
  · intro hinfo
    rcases ofResult_probeVerdict htrim with ⟨m, hbody, hm, h⟩ | ⟨m, -, -, h⟩ | ⟨-, e, h⟩
    · rw [h] at hinfo
      have htext : toString m = toString n :=
        (String.append_right_inj "HTTP ").mp (Outcome.info.inj hinfo)
      obtain rfl : m = n := toString_nat_injective htext
      exact ⟨hbody, hm⟩
    · exact nomatch h.symm.trans hinfo
    · exact nomatch h.symm.trans hinfo
  · rintro ⟨hbody, hn⟩
    rw [probeVerdict_of_denotes htrim hbody (by omega), if_neg (by omega)]
    rfl

theorem ofResult_probeVerdict_probeStatus_iff :
    Outcome.ofResult (probeVerdict printed) = .fail (.probeStatus n) ↔
      Denotes body n ∧ (n = 0 ∨ 400 ≤ n ∧ n ≤ 65535) := by
  constructor
  · intro hfail
    rcases ofResult_probeVerdict htrim with ⟨m, -, -, h⟩ | ⟨m, hbody, hm, h⟩ | ⟨-, e, h⟩
    · exact nomatch h.symm.trans hfail
    · rw [h] at hfail
      obtain rfl : m = n := Problem.probeStatus.inj (Outcome.fail.inj hfail)
      exact ⟨hbody, hm⟩
    · exact nomatch h.symm.trans hfail
  · rintro ⟨hbody, hn⟩
    rw [probeVerdict_of_denotes htrim hbody (by omega), if_pos (by omega)]
    rfl

theorem ofResult_probeVerdict_quoted_iff :
    (∃ e, Outcome.ofResult (probeVerdict printed) = .fail (.failedRequest
      ⟨["Unexpected curl output '" ++ String.ofList body ++ "'"], .numeral e⟩)) ↔
      ∀ n, Denotes body n → 65535 < n := by
  constructor
  · rintro ⟨e, hquoted⟩
    rcases ofResult_probeVerdict htrim with ⟨m, -, -, h⟩ | ⟨m, -, -, h⟩ | ⟨hlarge, -⟩
    · exact nomatch h.symm.trans hquoted
    · exact nomatch h.symm.trans hquoted
    · exact hlarge
  · intro hlarge
    obtain ⟨e, hverdict⟩ := exists_probeVerdict_of_no_status htrim hlarge
    exact ⟨e, congrArg Outcome.ofResult hverdict⟩

end Classes

/-! ## The check -/

variable {w : World} {source : PodRef} {url : String} {pod : Pod}

theorem verdict_httpProbe_of_ok (hpod : w.finds (getPod source) = .ok pod)
    (hprinted : w (.exec source pod.appContainer? (probeCommand url)) = .ok printed) :
    w.verdict (httpProbe source url) = .ofResult (probeVerdict printed) := by
  have hasked : w.finds (request (.exec source pod.appContainer? (probeCommand url))) =
      .ok printed := hprinted
  rw [httpProbe, World.verdict_lookup_of_ok hpod, World.verdict_lookup_of_ok hasked]
  rfl

theorem verdict_httpProbe_of_error {f : Failure} (hpod : w.finds (getPod source) = .ok pod)
    (hfails : w (.exec source pod.appContainer? (probeCommand url)) = .error f) :
    w.verdict (httpProbe source url) = .fail (.failedRequest f) := by
  have hasked : w.finds (request (.exec source pod.appContainer? (probeCommand url))) =
      .error f := hfails
  rw [httpProbe, World.verdict_lookup_of_ok hpod, World.verdict_lookup_of_error hasked]

theorem asks_httpProbe (hpod : w.finds (getPod source) = .ok pod) :
    w.asks (httpProbe source url) = [.get Kind.pods.name (some source.namespace) source.name,
      .exec source pod.appContainer? (probeCommand url)] := by
  rw [httpProbe, World.asks_bind, World.asks_liftM, asks_getPod, World.finds_liftM_eq_ok.mpr hpod]
  simp only [World.asks_bind, World.asks_liftM, World.asks_request]
  split <;> rfl

end Catalogue

/-- **What a probe does and what is said about every answer.** The command runs in the first
container that is not the sidecar, and without one no container is named. A failure to run it is the
outcome. What it prints is trimmed: a status from 1 to 399 is told, any other that fits 16 bits is a
failure, and a text that denotes no such number is quoted. -/
theorem Diagnostic.httpProbe_verdict (w : World) (source : PodRef) (url : String) {pod : Pod}
    (hpod : w.finds (getPod source) = .ok pod) :
    let container := pod.appContainer?
    let asked : Request := .exec source container (Catalogue.probeCommand url)
    let probe := Diagnostic.httpProbe source url
    ((∀ name, container = some name ↔ pod.IsAppContainer name) ∧
      (container = none ↔ ∀ c ∈ pod.containers, c.name = "envoy")) ∧
    probe.check.run.trace w =
      [.get Kind.pods.name (some source.namespace) source.name, asked] ∧
    (∀ f, w asked = .error f → probe.outcome? w = some (.fail (.failedRequest f))) ∧
    (∀ printed : String, w asked = .ok printed → ∃ body, IsTrimmed printed.toList body ∧
      (∀ n, probe.outcome? w = some (.info ("HTTP " ++ toString n)) ↔
        Denotes body n ∧ 1 ≤ n ∧ n ≤ 399) ∧
      (∀ n, probe.outcome? w = some (.fail (.probeStatus n)) ↔
        Denotes body n ∧ (n = 0 ∨ 400 ≤ n ∧ n ≤ 65535)) ∧
      ((∃ e, probe.outcome? w = some (.fail (.failedRequest
          ⟨["Unexpected curl output '" ++ String.ofList body ++ "'"], .numeral e⟩))) ↔
        ∀ n, Denotes body n → 65535 < n)) := by
  intro container asked probe
  have houtcome : probe.outcome? w = some (w.verdict (Catalogue.httpProbe source url)) :=
    Diagnostic.outcome?_eq _ _
  simp only [houtcome, Option.some.injEq]
  refine ⟨⟨fun _ => Pod.appContainer?_eq_some_iff, Pod.appContainer?_eq_none_iff⟩, ?_,
    fun f hfails => verdict_httpProbe_of_error hpod hfails, fun printed hprinted => ?_⟩
  · rw [Diagnostic.trace_check]
    exact asks_httpProbe hpod
  · have htrim : IsTrimmed printed.toList (trimBlanks printed.toList) := trimBlanks_eq_iff.mp rfl
    rw [verdict_httpProbe_of_ok hpod hprinted]
    exact ⟨_, htrim, fun _ => ofResult_probeVerdict_info_iff htrim,
      fun _ => ofResult_probeVerdict_probeStatus_iff htrim, ofResult_probeVerdict_quoted_iff htrim⟩

/-- A pod with the sidecar in front, in which a command prints the text. -/
def probedShop (printed : String) : Snapshot where
  objects :=
    [(Kind.pods.name, .object
      [("metadata", .object [("name", .string "buyer"), ("namespace", .string "shop")]),
        ("spec", .object [("containers", .array
          [.object [("name", .string "envoy")], .object [("name", .string "buyer")]])])])]
  execs := [("shop/buyer", .ok printed)]

/-- A padded status is told, and one of 17 bits is quoted. -/
theorem Diagnostic.httpProbe_verdict_padded :
    let outcome? (printed : String) :=
      (httpProbe ⟨"shop", "buyer"⟩ "http://store/").outcome? (probedShop printed).world
    (∀ printed, ∃ pod, (probedShop printed).world.finds (getPod ⟨"shop", "buyer"⟩) = .ok pod ∧
      pod.appContainer? = some "buyer") ∧
    outcome? " +0200\n" = some (.info ("HTTP " ++ toString 200)) ∧
    ∃ e, outcome? "65736" = some (.fail (.failedRequest
      ⟨["Unexpected curl output '65736'"], .numeral e⟩)) := by
  intro outcome?
  let pod : Pod := ⟨{ name := "buyer", «namespace» := "shop" },
    some ⟨[⟨"envoy", none⟩, ⟨"buyer", none⟩], none⟩, none⟩
  have hpod : ∀ printed, (probedShop printed).world.finds (getPod ⟨"shop", "buyer"⟩) = .ok pod :=
    fun _ => rfl
  have hverdict := fun printed =>
    httpProbe_verdict (probedShop printed).world ⟨"shop", "buyer"⟩ "http://store/" (hpod printed)
  refine ⟨fun printed => ⟨pod, hpod printed, rfl⟩, ?_, ?_⟩
  · obtain ⟨-, -, -, htext⟩ := hverdict " +0200\n"
    obtain ⟨body, htrim, hinfo, -⟩ := htext _ rfl
    obtain rfl := trimBlanks_eq_iff.mpr htrim
    have hdenotes : Denotes (trimBlanks " +0200\n".toList) 200 :=
      .inr ⟨"0200".toList, by decide +kernel, by decide, List.all_eq_true.mp rfl, rfl⟩
    exact (hinfo 200).mpr ⟨hdenotes, by decide⟩
  · obtain ⟨-, -, -, htext⟩ := hverdict "65736"
    obtain ⟨body, htrim, -, -, hquoted⟩ := htext _ rfl
    obtain rfl := trimBlanks_eq_iff.mpr htrim
    refine hquoted.mpr fun n hn => ?_
    have hdenotes : Denotes (trimBlanks "65736".toList) 65736 :=
      .inl ⟨by decide +kernel, List.all_eq_true.mp (by decide +kernel), by decide +kernel⟩
    rw [hn.unique hdenotes]
    decide

end MeshDoctor
