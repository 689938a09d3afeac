import MeshDoctor.Proofs.Catalogue.Outcomes
import MeshDoctor.Proofs.Cluster.Snapshot
import MeshDoctor.Proofs.Text.Pieces

/-!
# Catalogue — the verdict on traffic policies

* `Pod.RunsAs`, `IdentityRef.Names`, `TrafficTarget.Matches`: the account of a pod, the accounts
  that a reference names and those that a traffic target is for.
* `PolicyReading`: what is read from a snapshot for the verdict on the traffic between two pods.
* `PolicyReading.pass_iff`: when the traffic is allowed.
* **`trafficPolicy_verdict`**: the verdict in every case, and what further or fewer targets do to it.
-/

namespace MeshDoctor

open Catalogue Json

/-! ## Accounts -/

/-- The reference names the service account; without a namespace of its own it means that of its
target, `own`. -/
def IdentityRef.Names (r : IdentityRef) (account : Account) (own : String) : Prop :=
  r.kind = "ServiceAccount" ∧ r.name = account.name ∧
    (r.namespace = some account.namespace ∨ r.namespace = none ∧ own = account.namespace)

/-- The target is for the destination, and the source is among its sources. -/
def TrafficTarget.Matches (t : TrafficTarget) (source destination : Account) : Prop :=
  ∃ own, t.metadata.namespace = some own ∧ t.spec.destination.Names destination own ∧
    ∃ r ∈ t.spec.sources, r.Names source own

/-- The pod runs as this account of its namespace: the one it asks for, else the default one. -/
def Pod.RunsAs (pod : Pod) (account : String) : Prop :=
  pod.spec.bind (·.serviceAccount) = some account ∨
    pod.spec.bind (·.serviceAccount) = none ∧ account = "default"

theorem Pod.RunsAs.serviceAccount_eq {pod : Pod} {account : String} (h : pod.RunsAs account) :
    pod.serviceAccount = account := by
  rcases h with h | ⟨h, rfl⟩
  · rw [serviceAccount, h, Option.getD_some]
  · rw [serviceAccount, h, Option.getD_none]

theorem IdentityRef.isServiceAccount_iff {r : IdentityRef} {account : Account} {own : String} :
    r.isServiceAccount account.namespace account.name own = true ↔ r.Names account own := by
  rw [isServiceAccount, Names]
  cases r.namespace <;> simp [and_assoc]

theorem allows_iff {t : TrafficTarget} {source destination : Account}
    (h : t.metadata.namespace = some destination.namespace) :
    allows t source destination = true ↔ t.Matches source destination := by
  rw [allows, h, Option.getD_some, Bool.and_eq_true, IdentityRef.isServiceAccount_iff,
    List.any_eq_true, TrafficTarget.Matches]
  simp only [IdentityRef.isServiceAccount_iff, h, Option.some.injEq, exists_eq_left']

/-! ## Verdicts on matching targets -/

section Verdict

variable {matching : List TrafficTarget} {expected : String} {source destination : Account}

theorem targetVerdict_pass (h : ∃ t ∈ matching, IsLastComponent expected t.apiVersion) :
    ∃ message, targetVerdict matching expected source destination = .ok (.pass message) := by
  obtain ⟨t, ht, hversion⟩ := h
  unfold targetVerdict
  cases hfind : matching.find? fun t => versionOf t.apiVersion = expected with
  | some found => exact ⟨_, rfl⟩
  | none =>
    have hnone := List.find?_eq_none.mp hfind t ht
    exact absurd (versionOf_eq_iff.mpr hversion) (by simpa using hnone)

theorem find_version_eq_none (h : ∀ t ∈ matching, ¬ IsLastComponent expected t.apiVersion) :
    matching.find? (fun t => versionOf t.apiVersion = expected) = none := by
  refine List.find?_eq_none.mpr fun t ht => ?_
  rw [decide_eq_true_iff, versionOf_eq_iff]
  exact h t ht

theorem targetVerdict_version {t : TrafficTarget} {rest : List TrafficTarget} {found : String}
    (h : ∀ t' ∈ t :: rest, ¬ IsLastComponent expected t'.apiVersion)
    (hfound : IsLastComponent found t.apiVersion) :
    targetVerdict (t :: rest) expected source destination =
      .error (.trafficTargetVersion (t.metadata.name.getD "") found expected) := by
  rw [targetVerdict, find_version_eq_none h, versionOf_eq_iff.mpr hfound]

theorem targetVerdict_refused (h : ∀ t ∈ matching, ¬ IsLastComponent expected t.apiVersion) :
    ∃ problem, targetVerdict matching expected source destination = .error problem := by
  cases matching with
  | nil => exact ⟨_, rfl⟩
  | cons t rest =>
    obtain ⟨found, hfound⟩ := exists_isLastComponent t.apiVersion
    exact ⟨_, targetVerdict_version h hfound⟩

theorem targetVerdict_nil : targetVerdict [] expected source destination =
    .error (.noTrafficTarget source.text destination.text) := rfl

end Verdict

/-! ## Readings -/

/-- What the check of the traffic from one pod to another says about a snapshot. -/
def Snapshot.trafficVerdict? (c : Snapshot) (mesh : Mesh) (source destination : PodRef) :
    Option Outcome :=
  (Diagnostic.trafficPolicy mesh source destination).outcome? c.world

theorem Snapshot.trafficVerdict?_eq (c : Snapshot) (mesh : Mesh) (source destination : PodRef) :
    c.trafficVerdict? mesh source destination =
      some (.ofResult (c.world.finds (trafficPolicy mesh source destination))) :=
  Diagnostic.outcome?_eq _ _

/-- What is read from a snapshot for the verdict on the traffic from one pod to another. -/
structure PolicyReading (c : Snapshot) (mesh : Mesh) (source destination : PodRef) where
  config : MeshConfig
  sourcePod : Pod
  sourceName : String
  destinationPod : Pod
  destinationName : String
  release : ReleaseLine
  /-- The traffic targets in the namespace of the destination. -/
  targets : List TrafficTarget
  finds_config : c.world.finds mesh.config = .ok config
  finds_sourcePod : c.world.finds (getPod source) = .ok sourcePod
  source_runsAs : sourcePod.RunsAs sourceName
  finds_destinationPod : c.world.finds (getPod destination) = .ok destinationPod
  destination_runsAs : destinationPod.RunsAs destinationName
  finds_release : c.world.finds mesh.controllerVersion = .ok release
  finds_targets : c.world.finds (listTrafficTargets destination.namespace) = .ok targets

namespace PolicyReading

variable {c : Snapshot} {mesh : Mesh} {source destination : PodRef}

/-- The account that the source runs as. -/
def sourceAccount (r : PolicyReading c mesh source destination) : Account :=
  ⟨source.namespace, r.sourceName⟩

/-- The account that the destination runs as. -/
def destinationAccount (r : PolicyReading c mesh source destination) : Account :=
  ⟨destination.namespace, r.destinationName⟩

/-- The target is for the traffic between the accounts of the pods. -/
def Admits (r : PolicyReading c mesh source destination) (t : TrafficTarget) : Prop :=
  t.Matches r.sourceAccount r.destinationAccount

/-- The targets that the code takes to match. -/
def matching (r : PolicyReading c mesh source destination) : List TrafficTarget :=
  r.targets.filter (allows · r.sourceAccount r.destinationAccount)

variable (r : PolicyReading c mesh source destination)

/-- The targets are read from the objects of their kind in the namespace of the destination. -/
theorem targets_eq :
    (c.objects.filter fun o => o.1 = Kind.trafficTargets.name ∧
        objectNamespace? o.2 = some destination.namespace).mapM
      (fun o => TrafficTarget.decode o.2) = some r.targets := by
  have hlisted : (c.list Kind.trafficTargets.name (.inNamespace destination.namespace)).mapM
      TrafficTarget.decode = some r.targets :=
    (mapM_decodeAs_eq_ok _).mp (Snapshot.finds_listAs_eq_ok_iff.mp r.finds_targets).2
  have hobjects : c.list Kind.trafficTargets.name (.inNamespace destination.namespace) =
      (c.objects.filter fun o => o.1 = Kind.trafficTargets.name ∧
        objectNamespace? o.2 = some destination.namespace).map (·.2) := by
    simp only [Snapshot.list, Snapshot.ofKind, List.filter_map, List.filter_filter, inNamespace,
      ListQuery.inNamespace, matchesLabels, matchesFields, Bool.true_and, Function.comp_def,
      Bool.decide_and, Bool.and_comm]
  rw [hobjects, List.mapM_map] at hlisted
  exact hlisted

theorem namespace_of_mem {t : TrafficTarget} (ht : t ∈ r.targets) :
    t.metadata.namespace = some destination.namespace := by
  obtain ⟨vs, hvs, htargets⟩ := finds_listAs_eq_ok r.finds_targets
  obtain ⟨v, hv, hdecode⟩ := exists_of_mem_mapM htargets ht
  rw [decodeAs_eq_ok] at hdecode
  exact TrafficTarget.namespace_of_decode hdecode (Snapshot.namespace_of_list hvs v hv)

theorem mem_matching {t : TrafficTarget} : t ∈ r.matching ↔ t ∈ r.targets ∧ r.Admits t := by
  rw [matching, List.mem_filter]
  refine and_congr_right fun ht => ?_
  exact allows_iff (r.namespace_of_mem ht)

/-- The first target for the accounts comes first among those that match. -/
theorem matching_eq_cons {before after : List TrafficTarget} {t : TrafficTarget}
    (htargets : r.targets = before ++ t :: after) (hbefore : ∀ t' ∈ before, ¬ r.Admits t')
    (hadmits : r.Admits t) : ∃ rest, r.matching = t :: rest := by
  have hmem : ∀ t' ∈ before ++ [t], t' ∈ r.targets := by
    intro t' ht'
    rw [htargets, List.append_cons]
    exact List.mem_append_left after ht'
  have hallows : ∀ t' ∈ before ++ [t],
      allows t' r.sourceAccount r.destinationAccount = true ↔ r.Admits t' :=
    fun t' ht' => allows_iff (r.namespace_of_mem (hmem t' ht'))
  have hskipped : before.filter (allows · r.sourceAccount r.destinationAccount) = [] := by
    refine List.filter_eq_nil_iff.mpr fun t' ht' => ?_
    rw [hallows t' (List.mem_append_left _ ht')]
    exact hbefore t' ht'
  have hkept : allows t r.sourceAccount r.destinationAccount = true :=
    (hallows t (by simp)).mpr hadmits
  refine ⟨after.filter (allows · r.sourceAccount r.destinationAccount), ?_⟩
  rw [matching, htargets, List.filter_append, hskipped, List.nil_append,
    List.filter_cons, if_pos hkept]

theorem finds_trafficPolicy :
    c.world.finds (trafficPolicy mesh source destination) =
      if r.config.spec.traffic.permissive then
        .ok (.passWith "permissive traffic policy mode is enabled")
      else
        (trafficTargetVersion r.release.text).bind fun expected =>
          targetVerdict r.matching expected r.sourceAccount r.destinationAccount := by
  rw [trafficPolicy, World.finds_bind, World.finds_liftM, r.finds_config, ofFailed_ok, ok_bind]
  split
  · rfl
  · simp only [World.finds_bind, World.finds_liftM, r.finds_sourcePod, r.finds_destinationPod,
      r.source_runsAs.serviceAccount_eq, r.destination_runsAs.serviceAccount_eq, r.finds_release,
      r.finds_targets, World.finds_diagnosis, ofFailed_ok, ok_bind]
    rfl

/-! ## Outcomes -/

theorem verdict_of_permissive (h : r.config.spec.traffic.permissive = true) :
    c.trafficVerdict? mesh source destination =
      some (.pass (some "permissive traffic policy mode is enabled")) := by
  rw [Snapshot.trafficVerdict?_eq, r.finds_trafficPolicy, if_pos h]
  rfl

section Strict

variable (hstrict : r.config.spec.traffic.permissive = false)
include hstrict

theorem verdict_of_unrecognized (h : trafficTargetVersions.lookup r.release.text = none) :
    c.trafficVerdict? mesh source destination =
      some (.fail (.unrecognizedVersion r.release.text)) := by
  have hversion : trafficTargetVersion r.release.text =
      .error (.unrecognizedVersion r.release.text) := by rw [trafficTargetVersion, lookUp, h]
  rw [Snapshot.trafficVerdict?_eq, r.finds_trafficPolicy, hstrict, hversion]
  rfl

variable {expected : String}
  (hexpected : trafficTargetVersions.lookup r.release.text = some expected)
include hexpected

theorem verdict_of_expected :
    c.trafficVerdict? mesh source destination = some (.ofResult
      (targetVerdict r.matching expected r.sourceAccount r.destinationAccount)) := by
  have hversion : trafficTargetVersion r.release.text = .ok expected := by
    rw [trafficTargetVersion, lookUp, hexpected]
  rw [Snapshot.trafficVerdict?_eq, r.finds_trafficPolicy, hstrict, hversion]
  rfl

theorem verdict_of_admitting
    (h : ∃ t ∈ r.targets, r.Admits t ∧ IsLastComponent expected t.apiVersion) :
    ∃ message, c.trafficVerdict? mesh source destination = some (.pass message) := by
  obtain ⟨t, ht, hadmits, hversion⟩ := h
  have hmatching : ∃ t ∈ r.matching, IsLastComponent expected t.apiVersion :=
    ⟨t, r.mem_matching.mpr ⟨ht, hadmits⟩, hversion⟩
  obtain ⟨message, hverdict⟩ := targetVerdict_pass hmatching
  refine ⟨message, ?_⟩
  rw [verdict_of_expected r hstrict hexpected, hverdict]
  rfl

section Refused

variable (hrefused : ∀ t ∈ r.targets, r.Admits t → ¬ IsLastComponent expected t.apiVersion)
include hrefused

omit hstrict hexpected in
theorem refused_of_mem_matching {t : TrafficTarget} (ht : t ∈ r.matching) :
    ¬ IsLastComponent expected t.apiVersion := by
  obtain ⟨hlisted, hadmitted⟩ := r.mem_matching.mp ht
  exact hrefused t hlisted hadmitted

theorem verdict_of_refused :
    ∃ problem, c.trafficVerdict? mesh source destination = some (.fail problem) := by
  have hmatching : ∀ t ∈ r.matching, ¬ IsLastComponent expected t.apiVersion :=
    fun t ht => r.refused_of_mem_matching hrefused ht
  obtain ⟨problem, hverdict⟩ := targetVerdict_refused hmatching
  refine ⟨problem, ?_⟩
  rw [verdict_of_expected r hstrict hexpected, hverdict]
  rfl

/-- The first target for the accounts is named if no such target has the expected version. -/
theorem verdict_of_version {before after : List TrafficTarget} {t : TrafficTarget}
    {found : String} (htargets : r.targets = before ++ t :: after)
    (hbefore : ∀ t' ∈ before, ¬ r.Admits t') (hadmits : r.Admits t)
    (hfound : IsLastComponent found t.apiVersion) :
    c.trafficVerdict? mesh source destination =
      some (.fail (.trafficTargetVersion (t.metadata.name.getD "") found expected)) := by
  obtain ⟨rest, hrest⟩ := r.matching_eq_cons htargets hbefore hadmits
  have hmatching : ∀ t' ∈ t :: rest, ¬ IsLastComponent expected t'.apiVersion := by
    rw [← hrest]
    exact fun t' ht' => r.refused_of_mem_matching hrefused ht'
  rw [verdict_of_expected r hstrict hexpected, hrest, targetVerdict_version hmatching hfound]
  rfl

end Refused

theorem verdict_of_no_target (h : ∀ t ∈ r.targets, ¬ r.Admits t) :
    c.trafficVerdict? mesh source destination =
      some (.fail (.noTrafficTarget (source.namespace ++ "/" ++ r.sourceName)
        (destination.namespace ++ "/" ++ r.destinationName))) := by
  have hmatching : r.matching = [] := by
    refine List.eq_nil_iff_forall_not_mem.mpr fun t ht => ?_
    obtain ⟨hlisted, hadmitted⟩ := r.mem_matching.mp ht
    exact h t hlisted hadmitted
  rw [verdict_of_expected r hstrict hexpected, hmatching, targetVerdict_nil]
  rfl

end Strict

/-- **When the traffic passes**: in permissive mode, or if a target is for the accounts of the pods
and has the version that the release expects. -/
theorem pass_iff :
    (∃ message, c.trafficVerdict? mesh source destination = some (.pass message)) ↔
      r.config.spec.traffic.permissive = true ∨
        ∃ expected, trafficTargetVersions.lookup r.release.text = some expected ∧
          ∃ t ∈ r.targets, r.Admits t ∧ IsLastComponent expected t.apiVersion := by
  cases hpermissive : r.config.spec.traffic.permissive with
  | true => simp [r.verdict_of_permissive hpermissive]
  | false =>
    cases hlookup : trafficTargetVersions.lookup r.release.text with
    | none => simp [r.verdict_of_unrecognized hpermissive hlookup]
    | some expected =>
      simp only [Bool.false_eq_true, false_or, Option.some.injEq, exists_eq_left']
      by_cases hadmitting : ∃ t ∈ r.targets, r.Admits t ∧ IsLastComponent expected t.apiVersion
      · exact iff_of_true (r.verdict_of_admitting hpermissive hlookup hadmitting) hadmitting
      · have hrefused : ∀ t ∈ r.targets, r.Admits t → ¬ IsLastComponent expected t.apiVersion :=
          fun t ht hadmits hversion => hadmitting ⟨t, ht, hadmits, hversion⟩
        obtain ⟨problem, hproblem⟩ := r.verdict_of_refused hpermissive hlookup hrefused
        refine iff_of_false ?_ hadmitting
        rw [hproblem]
        rintro ⟨message, hpass⟩
        cases hpass

end PolicyReading

/-! ## Further targets and fewer targets -/

/-- The snapshots answer alike, save for requests for traffic targets. -/
def Snapshot.SameButTargets (c c' : Snapshot) : Prop :=
  ∀ request : Request, (∀ v, ¬ request.Reaches (Kind.trafficTargets.name, v)) →
    c'.world request = c.world request

section Change

variable {c c' : Snapshot} {mesh : Mesh} {source destination : PodRef}
  {extra objects : List (String × Value)}

theorem Snapshot.sameButTargets_withObjects (h : Inserts extra c.objects objects)
    (hextra : ∀ o ∈ extra, o.1 = Kind.trafficTargets.name) :
    c.SameButTargets (c.withObjects objects) := by
  intro request hrequest
  refine world_withObjects h fun o ho hreaches => ?_
  obtain ⟨kind, v⟩ := o
  obtain rfl : kind = Kind.trafficTargets.name := hextra _ ho
  exact hrequest v hreaches

theorem Snapshot.SameButTargets.symm (h : c.SameButTargets c') : c'.SameButTargets c :=
  fun request hrequest => (h request hrequest).symm

theorem Snapshot.SameButTargets.finds {α : Type} {x : Lookup α} (h : c.SameButTargets c')
    (hx : ∀ request ∈ c.world.asks x, ∀ v, ¬ request.Reaches (Kind.trafficTargets.name, v)) :
    c'.world.finds x = c.world.finds x :=
  World.finds_congr fun request hrequest => h request (hx request hrequest)

namespace PolicyReading

/-- The same is read from a snapshot that differs in its traffic targets only. -/
def withTargets (r : PolicyReading c mesh source destination) (h : c.SameButTargets c')
    {targets : List TrafficTarget}
    (htargets : c'.world.finds (listTrafficTargets destination.namespace) = .ok targets) :
    PolicyReading c' mesh source destination :=
  { config := r.config
    sourcePod := r.sourcePod
    sourceName := r.sourceName
    destinationPod := r.destinationPod
    destinationName := r.destinationName
    release := r.release
    targets := targets
    finds_config := (h.finds (by simp [Request.Reaches, Kind.name])).trans r.finds_config
    finds_sourcePod := (h.finds (by simp [Request.Reaches, Kind.name])).trans r.finds_sourcePod
    source_runsAs := r.source_runsAs
    finds_destinationPod :=
      (h.finds (by simp [Request.Reaches, Kind.name])).trans r.finds_destinationPod
    destination_runsAs := r.destination_runsAs
    finds_release := (h.finds (by simp [Request.Reaches, Kind.name])).trans r.finds_release
    finds_targets := htargets }

variable (r : PolicyReading c mesh source destination)
include r

/-- Further targets that decode let pass what passed. -/
theorem pass_of_inserts (h : Inserts extra c.objects objects)
    (hextra : ∀ o ∈ extra, o.1 = Kind.trafficTargets.name ∧ ∃ t, TrafficTarget.decode o.2 = some t)
    (hpass : ∃ message, c.trafficVerdict? mesh source destination = some (.pass message)) :
    ∃ message, (c.withObjects objects).trafficVerdict? mesh source destination =
      some (.pass message) := by
  have hsame := Snapshot.sameButTargets_withObjects h fun o ho => (hextra o ho).1
  obtain ⟨targets', htargets'⟩ := Snapshot.exists_finds_listAs_withObjects h r.finds_targets
    fun o ho _ => (hextra o ho).2
  obtain ⟨more, targets, htargets, hinserts, -⟩ := Snapshot.finds_listAs_of_withObjects h htargets'
  obtain rfl : r.targets = targets := Except.ok.inj (r.finds_targets.symm.trans htargets)
  let r' := r.withTargets hsame htargets'
  rw [r'.pass_iff]
  rw [r.pass_iff] at hpass
  rcases hpass with hpermissive | ⟨expected, hexpected, t, ht, hadmits⟩
  · exact .inl hpermissive
  · exact .inr ⟨expected, hexpected, t, hinserts.mem_iff.mpr (.inr ht), hadmits⟩

/-- Without targets that are not for the accounts, the verdict is the same. -/
theorem verdict_of_removed {removed kept : List (String × Value)}
    (h : Inserts removed kept c.objects)
    (hremoved : ∀ o ∈ removed, o.1 = Kind.trafficTargets.name ∧
      ∀ t, TrafficTarget.decode o.2 = some t →
        objectNamespace? o.2 = some destination.namespace → ¬ r.Admits t) :
    (c.withObjects kept).trafficVerdict? mesh source destination =
      c.trafficVerdict? mesh source destination := by
  have hsame : (c.withObjects kept).SameButTargets c :=
    Snapshot.sameButTargets_withObjects (c := c.withObjects kept) h fun o ho => (hremoved o ho).1
  obtain ⟨more, targets, htargets, hinserts, hfrom⟩ :=
    Snapshot.finds_listAs_of_withObjects (c := c.withObjects kept) h r.finds_targets
  let r' := r.withTargets hsame.symm htargets
  have hmatching : r'.matching = r.matching := by
    refine (hinserts.filter_eq fun t ht => ?_).symm
    obtain ⟨o, ho, hreaches, hdecode⟩ := hfrom t ht
    have hns : objectNamespace? o.2 = some destination.namespace :=
      of_decide_eq_true hreaches.2
    rw [Bool.eq_false_iff, Ne, allows_iff (TrafficTarget.namespace_of_decode hdecode hns)]
    exact (hremoved o ho).2 t hdecode hns
  rw [Snapshot.trafficVerdict?_eq, Snapshot.trafficVerdict?_eq, r'.finds_trafficPolicy,
    r.finds_trafficPolicy, hmatching]
  rfl

end PolicyReading

/-- **The verdict on traffic policies.** Permissive mode lets all traffic pass. Otherwise the
release has to be a known one, and the traffic passes exactly if a target in the namespace of the
destination is for the accounts of the pods and has the version that the release expects; if not,
the first target for the accounts is named, if there is one. Further targets let pass what passed,
and targets that are not for the accounts do not count. -/
theorem trafficPolicy_verdict (r : PolicyReading c mesh source destination) :
    ((c.objects.filter fun o => o.1 = Kind.trafficTargets.name ∧
        objectNamespace? o.2 = some destination.namespace).mapM
      fun o => TrafficTarget.decode o.2) = some r.targets ∧
    (r.config.spec.traffic.permissive = true →
      c.trafficVerdict? mesh source destination =
        some (.pass (some "permissive traffic policy mode is enabled"))) ∧
    (r.config.spec.traffic.permissive = false →
      trafficTargetVersions.lookup r.release.text = none →
      c.trafficVerdict? mesh source destination =
        some (.fail (.unrecognizedVersion r.release.text))) ∧
    (∀ expected, r.config.spec.traffic.permissive = false →
      trafficTargetVersions.lookup r.release.text = some expected →
      ((∃ message, c.trafficVerdict? mesh source destination = some (.pass message)) ↔
        ∃ t ∈ r.targets, r.Admits t ∧ IsLastComponent expected t.apiVersion) ∧
      ((∀ t ∈ r.targets, r.Admits t → ¬ IsLastComponent expected t.apiVersion) →
        (∀ before t after found, r.targets = before ++ t :: after →
          (∀ t' ∈ before, ¬ r.Admits t') → r.Admits t → IsLastComponent found t.apiVersion →
          c.trafficVerdict? mesh source destination =
            some (.fail (.trafficTargetVersion (t.metadata.name.getD "") found expected))) ∧
        ((∀ t ∈ r.targets, ¬ r.Admits t) →
          c.trafficVerdict? mesh source destination =
            some (.fail (.noTrafficTarget (source.namespace ++ "/" ++ r.sourceName)
              (destination.namespace ++ "/" ++ r.destinationName)))))) ∧
    (∀ extra objects, Inserts extra c.objects objects →
      (∀ o ∈ extra, o.1 = Kind.trafficTargets.name ∧ ∃ t, TrafficTarget.decode o.2 = some t) →
      (∃ message, c.trafficVerdict? mesh source destination = some (.pass message)) →
      ∃ message, (c.withObjects objects).trafficVerdict? mesh source destination =
        some (.pass message)) ∧
    ∀ removed kept, Inserts removed kept c.objects →
      (∀ o ∈ removed, o.1 = Kind.trafficTargets.name ∧ ∀ t, TrafficTarget.decode o.2 = some t →
        objectNamespace? o.2 = some destination.namespace → ¬ r.Admits t) →
      (c.withObjects kept).trafficVerdict? mesh source destination =
        c.trafficVerdict? mesh source destination := by
  refine ⟨r.targets_eq, r.verdict_of_permissive, r.verdict_of_unrecognized,
    fun expected hstrict hexpected => ⟨?_, fun hrefused => ⟨?_, ?_⟩⟩, ?_, ?_⟩
  · rw [r.pass_iff, hstrict, hexpected]
    simp
  · intro before t after found htargets hbefore hadmits hfound
    exact r.verdict_of_version hstrict hexpected hrefused htargets hbefore hadmits hfound
  · exact r.verdict_of_no_target hstrict hexpected
  · intro extra objects h hextra
    exact r.pass_of_inserts h hextra
  · intro removed kept h hremoved
    exact r.verdict_of_removed h hremoved

end Change

/-! ## A small mesh -/

section Bookstore

/-- The metadata of an object of this name and namespace. -/
def named (name ns : String) : Value :=
  .object [("name", .string name), ("namespace", .string ns)]

/-- The mesh of the bookstore. -/
def bookstoreMesh : Mesh := ⟨"osm-system", "osm", "osm-controller", "osm-mesh-config"⟩

/-- The target that lets the buyer reach the store, which runs as the default account. -/
def bookstoreTarget : Value :=
  .object
    [("apiVersion", .string "access.smi-spec.io/v1alpha3"), ("metadata", named "buy" "stock"),
      ("spec", .object
        [("destination",
            .object [("kind", .string "ServiceAccount"), ("name", .string "default")]),
          ("sources", .array
            [.object [("kind", .string "ServiceAccount"), ("name", .string "buyer"),
              ("namespace", .string "shop")]])])]

/-- A buyer and a store in two namespaces of a mesh of release `v0.11`. -/
def bookstore : Snapshot where
  objects :=
    [(Kind.meshConfigs.name, .object [("metadata", named "osm-mesh-config" "osm-system")]),
      (Kind.pods.name, .object
        [("metadata", named "buyer" "shop"),
          ("spec", .object [("serviceAccountName", .string "buyer")])]),
      (Kind.pods.name, .object [("metadata", named "store" "stock")]),
      (Kind.pods.name, .object
        [("metadata", .object
          [("labels", .object
              [("app", .string "osm-controller"),
                ("app.kubernetes.io/version", .string "v0.11.1")]),
            ("namespace", .string "osm-system")])]),
      (Kind.trafficTargets.name, bookstoreTarget)]

/-- What is read for the traffic from the buyer to the store. -/
def bookstoreReading :
    PolicyReading bookstore bookstoreMesh ⟨"shop", "buyer"⟩ ⟨"stock", "store"⟩ where
  config := { metadata := { name := "osm-mesh-config", «namespace» := "osm-system" } }
  sourcePod := ⟨{ name := "buyer", «namespace» := "shop" }, some ⟨[], "buyer"⟩, none⟩
  sourceName := "buyer"
  destinationPod := ⟨{ name := "store", «namespace» := "stock" }, none, none⟩
  destinationName := "default"
  release := ⟨0, 11⟩
  targets :=
    [{ apiVersion := "access.smi-spec.io/v1alpha3"
       metadata := { name := "buy", «namespace» := "stock" }
       spec :=
        { destination := ⟨"ServiceAccount", "default", none⟩
          sources := [⟨"ServiceAccount", "buyer", "shop"⟩] } }]
  finds_config := rfl
  finds_sourcePod := rfl
  source_runsAs := .inl rfl
  finds_destinationPod := rfl
  destination_runsAs := .inr ⟨rfl, rfl⟩
  finds_release := rfl
  finds_targets := rfl

/-- The buyer reaches the store. -/
theorem trafficPolicy_verdict_bookstore :
    ∃ message, bookstore.trafficVerdict? bookstoreMesh ⟨"shop", "buyer"⟩ ⟨"stock", "store"⟩ =
      some (.pass message) := by
  obtain ⟨-, -, -, hverdict, -⟩ := trafficPolicy_verdict bookstoreReading
  refine (hverdict "v1alpha3" rfl rfl).1.mpr ⟨_, List.mem_singleton_self _, ?_, ?_⟩
  · exact ⟨"stock", rfl, ⟨rfl, rfl, .inr ⟨rfl, rfl⟩⟩, _, List.mem_singleton_self _, rfl, rfl,
      .inl rfl⟩
  · exact ⟨by decide, .inr ⟨"access.smi-spec.io", rfl⟩⟩

end Bookstore

end MeshDoctor
