import MeshDoctor.CommandLine.Run
import MeshDoctor.Proofs.Inquiry.Exchanges
import MeshDoctor.Proofs.Session.Connect
import MeshDoctor.Proofs.Suite.Records

/-!
# Command lines — reports

* `Session.view`: the surroundings that a session sees, with the cluster behind the tool.
* `Session.finds_diagnose`, `Session.filterMap_printed?_diagnose`: diagnosing prints one report, that
  of the records of the checks, and counts them.
* `Session.listChecks`: what a command does before its checks are run.
* `Session.Examines`: the checks of a command, with the getters that a session finds.
* **`CommandLine.exists_report`**: after connecting, a diagnostic command lists its checks, runs them
  from where listing them has left off, prints one report, that of their records, and counts them.
* `CommandLine.filter_asks_perform`: if a prerequisite is missing, it asks nothing more.
-/

namespace MeshDoctor

open Envoy Inquiry

variable {σ : Type} (host : Inquiry.Host σ)

namespace Session

variable (s : Session)

/-! ## Serving -/

/-- The surroundings that a session sees, with the cluster behind the tool. -/
def view : Inquiry.Host σ := host.through s.access.serve

section Serve

variable {α : Type} (x : Lookup α) (st : σ)

theorem finds_serve : host.finds (s.serve x) st = (s.view host).finds x st := by
  rw [Host.finds, serve, ExceptT.run_mk, runState_substitute]
  rfl

theorem filterMap_printed?_serve :
    (host.asks (s.serve x) st).filterMap Request.printed? =
      ((s.view host).asks x st).filterMap Request.printed? :=
  s.access.filterMap_printed?_serve host x.run st

theorem asksOnly_serve {x : Lookup α} (hx : x.run.AsksOnly (·.isOutward = false)) :
    (s.serve x).run.AsksOnly (·.isOutward = false) :=
  s.access.asksOnly_substitute_serve hx

end Serve

/-! ## Getters -/

section Getter

variable (pod : PodRef)

theorem exists_finds_getter (st : σ) : ∃ getter, host.finds (s.getter pod) st = .ok getter := by
  rw [getter]
  split
  · exact ⟨none, rfl⟩
  · rw [Host.finds_bind, Host.finds_attempt, ok_bind]
    split
    · exact ⟨_, rfl⟩
    · exact ⟨none, rfl⟩

theorem printed?_getter : (s.getter pod).run.AsksOnly (·.printed? = none) := by
  have hpod : (getPod pod).run.AsksOnly (·.isOnCluster) :=
    Catalogue.closed_getPod closed_asksOnly pod
  rw [getter]
  split
  · trivial
  · refine .bind (.attempt (hpod.mono fun r hr => ?_)) fun found => ?_
    · exact Request.printed?_of_isOutward (Request.isOutward_of_isOnCluster hr)
    · split <;> trivial

theorem getter_of_not_isReady (h : s.isReady = false) : s.getter pod = pure none := by
  rw [getter, h]
  rfl

end Getter

/-! ## Reports -/

section Diagnose

variable (ds : List Diagnostic) (st : σ)

theorem finds_diagnose :
    host.finds (s.diagnose ds) st =
      .ok (Summary.ofRecords ((s.suite.records ds).runState host st).1) := by
  rw [diagnose, Host.finds_bind, Host.finds_lift]
  rfl

theorem filterMap_printed?_diagnose :
    (host.asks (s.diagnose ds) st).filterMap Request.printed? =
      [reportText ((s.suite.records ds).runState host st).1 false] := by
  have hquiet : (s.suite.records ds).AsksOnly (·.printed? = none) :=
    (s.suite.asksOnly_records ds).mono fun r hr =>
      Request.printed?_of_isOutward (Request.isOutward_of_isOnCluster hr)
  rw [diagnose, Host.asks_bind, Host.finds_lift, Host.asks_lift, List.filterMap_append,
    hquiet.filterMap_requests_eq_nil]
  rfl

theorem asksOnly_diagnose_of_not_isReady (hready : s.isReady = false) :
    (s.diagnose ds).run.AsksOnly (·.isOutward = false) :=
  .bind (.lift (Suite.asksOnly_records_of_unmet (s.firstMissing?_of_not_isReady hready) _)) fun _ =>
    .bind (.requestOr (by rfl)) fun _ => trivial

end Diagnose

end Session

/-! ## Commands -/

/-- Does the command run checks? -/
def Command.isDiagnostic : Command → Bool
  | collect _ | init => false
  | _ => true

namespace Session

variable (s : Session)

/-- The checks of a command are listed: it tells what it does and finds their getters. -/
def listChecks : Command → Lookup (List Diagnostic)
  | .podToPod source destination => do
    tell .info ("Diagnosing connectivity from " ++ source.text ++ " to " ++ destination.text)
    let sourceGetter ← s.getter source
    let destinationGetter ← s.getter destination
    pure (s.suite.podToPod source destination sourceGetter destinationGetter)
  | .podToUrl source url => do
    tell .info ("Diagnosing connectivity from " ++ source.text ++ " to " ++ url.text)
    let getter ← s.getter source
    pure (s.suite.podToUrl source url.text getter)
  | .controlPlaneStatus => do
    tell .info ("Checking control plane in " ++ s.config.meshNamespace)
    pure s.suite.controlPlane
  | .ingressToPod destination => do
    tell .info ("Diagnosing ingress to " ++ destination.text)
    let getter ← s.getter destination
    pure (s.suite.ingressToPod destination getter)
  | .validate => pure s.suite.validate
  | .collect _ | .init => pure []

/-- The checks of a command, with the getters that the session finds. -/
inductive Examines : Command → List Diagnostic → Prop
  | podToPod {source destination : PodRef} {sourceGetter destinationGetter : Option Getter}
      {st st' : σ} (hsource : host.finds (s.getter source) st = .ok sourceGetter)
      (hdestination : host.finds (s.getter destination) st' = .ok destinationGetter) :
      Examines (.podToPod source destination)
        (s.suite.podToPod source destination sourceGetter destinationGetter)
  | podToUrl {source : PodRef} {url : Url} {getter : Option Getter} {st : σ}
      (hsource : host.finds (s.getter source) st = .ok getter) :
      Examines (.podToUrl source url) (s.suite.podToUrl source url.text getter)
  | controlPlaneStatus : Examines .controlPlaneStatus s.suite.controlPlane
  | ingressToPod {destination : PodRef} {getter : Option Getter} {st : σ}
      (hdestination : host.finds (s.getter destination) st = .ok getter) :
      Examines (.ingressToPod destination) (s.suite.ingressToPod destination getter)
  | validate : Examines .validate s.suite.validate

variable {c : Command}

/-- The checks are always listed, whatever the cluster answers. -/
theorem exists_finds_listChecks (h : c.isDiagnostic) (st : σ) :
    ∃ ds, host.finds (s.listChecks c) st = .ok ds ∧ s.Examines host c ds := by
  cases c with
  | podToPod source destination =>
    obtain ⟨sourceGetter, hsource⟩ := s.exists_finds_getter host source _
    obtain ⟨destinationGetter, hdestination⟩ := s.exists_finds_getter host destination _
    exact ⟨_, (host.finds_bind_of_ok _ rfl).trans ((host.finds_bind_of_ok _ hsource).trans
      (host.finds_bind_of_ok _ hdestination)), .podToPod hsource hdestination⟩
  | podToUrl source url =>
    obtain ⟨getter, hsource⟩ := s.exists_finds_getter host source _
    exact ⟨_, (host.finds_bind_of_ok _ rfl).trans (host.finds_bind_of_ok _ hsource),
      .podToUrl hsource⟩
  | controlPlaneStatus => exact ⟨_, rfl, .controlPlaneStatus⟩
  | ingressToPod destination =>
    obtain ⟨getter, hdestination⟩ := s.exists_finds_getter host destination _
    exact ⟨_, (host.finds_bind_of_ok _ rfl).trans (host.finds_bind_of_ok _ hdestination),
      .ingressToPod hdestination⟩
  | validate => exact ⟨_, rfl, .validate⟩
  | collect output | init => cases h

/-- Listing checks asks what telling and looking for getters asks. -/
theorem asksOnly_listChecks {P : Request → Prop}
    (htell : ∀ level text, (tell level text).run.AsksOnly P)
    (hgetter : ∀ pod, (s.getter pod).run.AsksOnly P) : (s.listChecks c).run.AsksOnly P := by
  cases c with
  | podToPod source destination =>
    exact .bind (htell _ _) fun _ => .bind (hgetter source) fun _ =>
      .bind (hgetter destination) fun _ => trivial
  | podToUrl source url =>
    exact .bind (htell _ _) fun _ => .bind (hgetter source) fun _ => trivial
  | controlPlaneStatus => exact .bind (htell _ _) fun _ => trivial
  | ingressToPod destination =>
    exact .bind (htell _ _) fun _ => .bind (hgetter destination) fun _ => trivial
  | validate | collect output | init => trivial

theorem printed?_listChecks : (s.listChecks c).run.AsksOnly (·.printed? = none) :=
  s.asksOnly_listChecks (fun level text => (asksOnly_tell level text).printed?_eq_none)
    s.printed?_getter

/-- Without the prerequisites, no getter is looked for. -/
theorem asksOnly_listChecks_of_not_isReady (hready : s.isReady = false) :
    (s.listChecks c).run.AsksOnly (·.isOutward = false) := by
  refine s.asksOnly_listChecks (fun level text => (asksOnly_tell level text).not_isOutward)
    fun pod => ?_
  rw [s.getter_of_not_isReady pod hready]
  trivial

end Session

/-! ## Sessions of a command line -/

namespace CommandLine

open Session

/-- **A diagnostic command lists its checks and diagnoses them.** -/
theorem perform_of_isDiagnostic {line : CommandLine} (h : line.command.isDiagnostic) :
    line.perform = line.inSession fun s => s.listChecks line.command >>= s.diagnose := by
  have := Inquiry.lawfulMonad
  obtain ⟨command, config, verbose, kubeconfig, context, failOnError⟩ := line
  cases command with
  | podToPod source destination =>
    refine congrArg (inSession _) (funext fun s => ?_)
    simp only [podToPod, listChecks, LawfulMonad.bind_assoc, pure_bind]
  | podToUrl source url =>
    refine congrArg (inSession _) (funext fun s => ?_)
    simp only [podToUrl, listChecks, LawfulMonad.bind_assoc, pure_bind]
  | controlPlaneStatus =>
    refine congrArg (inSession _) (funext fun s => ?_)
    simp only [controlPlaneStatus, listChecks, LawfulMonad.bind_assoc, pure_bind]
  | ingressToPod destination =>
    refine congrArg (inSession _) (funext fun s => ?_)
    simp only [ingressToPod, listChecks, LawfulMonad.bind_assoc, pure_bind]
  | validate =>
    refine congrArg (inSession _) (funext fun s => ?_)
    simp only [listChecks, pure_bind]
  | collect output | init => cases h

section Connected

variable {line : CommandLine} {s : Session} {st : σ}
  (hconnect : host.finds (connect line) st = .ok s)
include hconnect

theorem finds_inSession (x : Session → Lookup Summary) :
    host.finds (line.inSession x) st =
      (s.view host).finds (x s) (host.after (connect line) st) := by
  rw [inSession, Host.finds_bind, hconnect, ok_bind, finds_serve]

theorem asks_inSession (x : Session → Lookup Summary) :
    host.asks (line.inSession x) st =
      host.asks (connect line) st ++ host.asks (s.serve (x s)) (host.after (connect line) st) := by
  rw [inSession, Host.asks_bind, hconnect]

variable (hcommand : line.command.isDiagnostic)
include hcommand

/-- **After connecting, a diagnostic command prints one report**, that of the records of its checks,
which are run from where listing them has left off, and counts them. -/
theorem exists_report :
    let listing := s.listChecks line.command
    let connected := host.after (connect line) st
    ∃ ds, (s.view host).finds listing connected = .ok ds ∧
      s.Examines (s.view host) line.command ds ∧
      let records :=
        ((s.suite.records ds).runState (s.view host) ((s.view host).after listing connected)).1
      host.finds line.perform st = .ok (Summary.ofRecords records) ∧
      (host.asks line.perform st).filterMap Request.printed? = [reportText records false] := by
  intro listing connected
  obtain ⟨ds, hlisted, hexamines⟩ := s.exists_finds_listChecks (s.view host) hcommand connected
  refine ⟨ds, hlisted, hexamines, ?_, ?_⟩
  · rw [perform_of_isDiagnostic hcommand, finds_inSession host hconnect, Host.finds_bind, hlisted,
      ok_bind, finds_diagnose]
  · have hconnecting := (asksOnly_connect line).filterMap_requests_eq_nil host st
    have hlisting := (s.printed?_listChecks (c := line.command)).filterMap_requests_eq_nil
      (s.view host) connected
    rw [perform_of_isDiagnostic hcommand, asks_inSession host hconnect, List.filterMap_append,
      filterMap_printed?_serve, Host.asks_bind, hlisted, List.filterMap_append]
    exact congrArg₂ (· ++ ·) hconnecting (congrArg₂ (· ++ ·) hlisting
      (s.filterMap_printed?_diagnose (s.view host) ds _))

/-- **Without the prerequisites, a diagnostic command asks nothing more of the cluster.** -/
theorem filter_asks_perform (hready : s.isReady = false) :
    (host.asks line.perform st).filter (·.isOutward) =
      (host.asks (connect line) st).filter (·.isOutward) := by
  have hasked : (s.listChecks line.command >>= s.diagnose).run.AsksOnly (·.isOutward = false) :=
    .bind (s.asksOnly_listChecks_of_not_isReady hready) fun ds =>
      s.asksOnly_diagnose_of_not_isReady ds hready
  -- Serving goes to the tool only for what the command asks of the cluster, which is nothing.
  have hidle := (s.asksOnly_serve hasked).filter_requests_eq_nil
    host (host.after (connect line) st)
  rw [perform_of_isDiagnostic hcommand, asks_inSession host hconnect, List.filter_append]
  exact (congrArg (_ ++ ·) hidle).trans (List.append_nil _)

end Connected

end CommandLine

end MeshDoctor
