import MeshDoctor.Proofs.Catalogue.Outcomes
import MeshDoctor.Proofs.Cluster.Warnings
import MeshDoctor.Proofs.Text.Numeral

/-!
# Catalogue — warnings

* `Event.line`: an event without its count.
* `describeEvent_eq_counted_iff`, `describeEvent_eq_line_iff`: when the count of an event is told.
* `verdict_warningEvents`: what the check says about the warnings that it finds.
* **`Diagnostic.warningEvents_verdict`**: what it says about a cluster.
-/

namespace MeshDoctor

open Catalogue Json

/-! ## Lines -/

/-- A warning on one line, without its count. -/
def Event.line (e : Event) : String :=
  e.involved.getD "<unknown>" ++ " " ++ e.reason.getD "" ++ ": " ++ Text.trim (e.message.getD "")

namespace Catalogue

variable {e : Event} {n : Int}

theorem describeEvent_of_le (h : ∀ n ∈ e.count, n ≤ 1) : describeEvent e = e.line := by
  unfold describeEvent
  cases hcount : e.count with
  | none => rfl
  | some n => exact if_neg (Int.not_lt.mpr (h n hcount))

theorem describeEvent_of_lt (hcount : e.count = some n) (hn : 1 < n) :
    describeEvent e = e.line ++ " (x" ++ toString n ++ ")" := by
  simp only [describeEvent, hcount]
  exact if_pos hn

theorem counted_ne_line (line : String) (n : Int) : line ++ " (x" ++ toString n ++ ")" ≠ line := by
  intro h
  have hlength := congrArg String.length h
  simp only [String.length_append] at hlength
  have hmark : " (x".length = 3 := by decide
  omega

/-- The count of an event is told exactly if it is above one. -/
theorem describeEvent_eq_counted_iff :
    describeEvent e = e.line ++ " (x" ++ toString n ++ ")" ↔ e.count = some n ∧ 1 < n := by
  constructor
  · intro h
    by_cases hcount : ∀ n ∈ e.count, n ≤ 1
    · rw [describeEvent_of_le hcount] at h
      exact absurd h.symm (counted_ne_line e.line n)
    · obtain ⟨m, hcounted⟩ := Classical.not_forall.mp hcount
      obtain ⟨hm, hn⟩ := Classical.not_imp.mp hcounted
      have hlt : 1 < m := Int.not_le.mp hn
      rw [describeEvent_of_lt hm hlt, String.append_left_inj, String.append_right_inj] at h
      obtain rfl : m = n := Text.toString_int_injective h
      exact ⟨hm, hlt⟩
  · rintro ⟨hcount, hn⟩
    exact describeEvent_of_lt hcount hn

theorem describeEvent_eq_line_iff : describeEvent e = e.line ↔ ∀ n ∈ e.count, n ≤ 1 := by
  refine ⟨fun h n hcount => ?_, describeEvent_of_le⟩
  by_contra hn
  rw [describeEvent_of_lt hcount (Int.not_le.mp hn)] at h
  exact counted_ne_line e.line n h

/-! ## The check -/

theorem verdict_warningEvents {w : World} {ns : String} {involved : Option String}
    {events : List Event} (h : w.finds (listEvents ((ListQuery.inNamespace ns).withFields
      (warningSelector involved))) = .ok events) :
    w.verdict (warningEvents ns involved) =
      if events = [] then .pass none else .info (String.intercalate "\n" (warningLines events)) := by
  rw [warningEvents, World.verdict_lookup_of_ok h]
  simp only [List.isEmpty_iff]
  split_ifs <;> rfl

end Catalogue

/-- **What is said about the warnings in a namespace, or on the objects of one name there.** None
pass. Otherwise the first ten of them are described in order, and the number of the others is told if
there are any. Described and announced warnings are all warnings. The count of an event is told
exactly if it is above one. -/
theorem Diagnostic.warningEvents_verdict (c : Snapshot) (ns : String) (involved : Option String)
    (hname : ∀ name ∈ involved, ',' ∉ name.toList) (hc : c.HasReadableWarnings ns involved) :
    let outcome? := (Diagnostic.warningEvents ns involved).outcome? c.world
    let warnings := (c.ofKind Kind.events.name).filter (IsWarning ns involved)
    ∃ described others : List Event,
      warnings.map Event.decode = (described ++ others).map some ∧
      (∀ e ∈ described ++ others, ∀ name ∈ involved, e.involved = some name) ∧
      described.length = min warnings.length 10 ∧ others.length = warnings.length - 10 ∧
      (outcome? = some (.pass none) ↔ warnings = []) ∧
      (warnings ≠ [] → outcome? = some (.info (String.intercalate "\n"
        (described.map describeEvent ++ if 10 < warnings.length then
          ["... and " ++ toString others.length ++ " more"] else [])))) ∧
      ∀ e : Event, (∀ n, describeEvent e = e.line ++ " (x" ++ toString n ++ ")" ↔
          e.count = some n ∧ 1 < n) ∧
        (describeEvent e = e.line ↔ ∀ n ∈ e.count, n ≤ 1) := by
  intro outcome? warnings
  obtain ⟨events, hevents, hfinds⟩ := hc.exists_finds hname
  have hdecode : warnings.map Event.decode = events.map some := hevents
  have hlength : warnings.length = events.length := by
    simpa using congrArg List.length hdecode
  have hnil : events = [] ↔ warnings = [] := by
    rw [← List.length_eq_zero_iff, ← List.length_eq_zero_iff, hlength]
  have houtcome : outcome? = some (c.world.verdict (Catalogue.warningEvents ns involved)) :=
    Diagnostic.outcome?_eq _ _
  rw [verdict_warningEvents hfinds] at houtcome
  refine ⟨events.take 10, events.drop 10, ?_, ?_, ?_, ?_, ?_, ?_,
    fun e => ⟨fun n => describeEvent_eq_counted_iff, describeEvent_eq_line_iff⟩⟩
  · rw [List.take_append_drop]
    exact hdecode
  · rw [List.take_append_drop]
    exact Snapshot.involved_of_map_warnings hevents
  · rw [List.length_take, hlength, Nat.min_comm]
  · rw [List.length_drop, hlength]
  · rw [houtcome, ← hnil]
    by_cases h : events = []
    · simp [h]
    · simp [h]
  · intro h
    rw [houtcome, if_neg (hnil.not.mpr h), List.length_drop, hlength]
    rfl

/-- An event in the shop that happened so often to an object of the name. -/
def shopEvent (type name : String) (count : Int) : String × Value :=
  (Kind.events.name, .object
    [("metadata", .object [("namespace", .string "shop")]),
      ("involvedObject", .object [("name", .string name)]), ("type", .string type),
      ("reason", .string "Unhealthy"), ("message", .string "no answer "), ("count", .int count)])

/-- A shop with eleven warnings on the buyer, the first of them repeated, and other events. -/
def stormyShop : Snapshot where
  objects := [shopEvent "Warning" "seller" 7, shopEvent "Warning" "buyer" 3,
      shopEvent "Normal" "buyer" 5] ++
    List.replicate 10 (shopEvent "Warning" "buyer" 1)

/-- Ten warnings on the buyer are described, and one is announced. -/
theorem Diagnostic.warningEvents_verdict_stormyShop :
    (∀ name ∈ some "buyer", ',' ∉ name.toList) ∧
      stormyShop.HasReadableWarnings "shop" (some "buyer") ∧
      (Diagnostic.warningEvents "shop" (some "buyer")).outcome? stormyShop.world =
        some (.info (String.intercalate "\n" ("buyer Unhealthy: no answer (x3)" ::
          List.replicate 9 "buyer Unhealthy: no answer" ++ ["... and 1 more"]))) := by
  have hname : ∀ name ∈ some "buyer", ',' ∉ name.toList := by decide
  have hreadable : stormyShop.HasReadableWarnings "shop" (some "buyer") :=
    ⟨rfl, by decide +kernel⟩
  obtain ⟨described, others, hdecode, -, hdescribed, hothers, -, hinfo, -⟩ :=
    warningEvents_verdict stormyShop "shop" (some "buyer") hname hreadable
  have hcount : ((stormyShop.ofKind Kind.events.name).filter
      (IsWarning "shop" (some "buyer"))).length = 11 := by decide +kernel
  rw [hcount] at hdescribed hothers hinfo
  have hevents : described ++ others = ((stormyShop.ofKind Kind.events.name).filter
      (IsWarning "shop" (some "buyer"))).filterMap Event.decode := by
    simpa [List.filterMap_map] using (congrArg (List.filterMap id) hdecode).symm
  have hfirst : described.map describeEvent = "buyer Unhealthy: no answer (x3)" ::
      List.replicate 9 "buyer Unhealthy: no answer" := by
    rw [← List.take_left' hdescribed, hevents]
    decide +kernel
  refine ⟨hname, hreadable, (hinfo fun h => ?_).trans ?_⟩
  · simp [h] at hcount
  · rw [hfirst, hothers]
    rfl

end MeshDoctor
