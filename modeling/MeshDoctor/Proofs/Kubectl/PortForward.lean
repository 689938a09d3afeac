import MeshDoctor.Proofs.Inquiry.Finds
import MeshDoctor.Proofs.Kubectl.Announcement
import MeshDoctor.Proofs.Text.Utf8

/-!
# Kubectl — waiting for a port

* `announcement`: what a line of the output announces, if it is a text.
* `firstPort_append`, `firstPort_eq_ok_iff`: lines that announce nothing are passed over.
* `ToolStream.lines_written`: the lines of an output are what it was written of.
* `ToolStream.IsAwaited`: what waiting for a port on an output comes to.
* **`forward_firstAnnounced`**: forwarding gives the port that the first announcing line announces.
-/

namespace MeshDoctor

open Text

variable {before rest lines : List (List UInt8)} {line last : List UInt8} {silence : Failure}
  {port : Nat} {text : String}

/-! ## Lines in turn -/

/-- What a line announces, if it is a text. -/
def announcement (line : List UInt8) : Except Utf8Error (Option Nat) :=
  (decodeStrict line).map announcedPort?

theorem firstPort_cons (silence : Failure) (line : List UInt8) (rest : List (List UInt8)) :
    firstPort silence (line :: rest) =
      match announcement line with
      | .error fault => .error (.say fault.message)
      | .ok (some port) => .ok port
      | .ok none => firstPort silence rest := by
  rw [firstPort, announcement]
  cases decodeStrict line with
  | error fault => rfl
  | ok text => cases h : announcedPort? text <;> simp [Except.map, h]

/-- Lines that announce nothing are passed over. -/
theorem firstPort_append (hbefore : ∀ line ∈ before, announcement line = .ok none) :
    firstPort silence (before ++ rest) = firstPort silence rest := by
  induction before with
  | nil => rfl
  | cons line before ih =>
    rw [List.forall_mem_cons] at hbefore
    rw [List.cons_append, firstPort_cons, hbefore.1]
    exact ih hbefore.2

theorem firstPort_of_silent (hlines : ∀ line ∈ lines, announcement line = .ok none) :
    firstPort silence lines = .error silence := by
  have hpassed : firstPort silence (lines ++ []) = .error silence := firstPort_append hlines
  rwa [List.append_nil] at hpassed

/-- The port is that of a line before which no line announces one. -/
theorem firstPort_eq_ok_iff :
    firstPort silence lines = .ok port ↔
      ∃ before line after, lines = before ++ line :: after ∧
        (∀ line' ∈ before, announcement line' = .ok none) ∧ announcement line = .ok (some port) := by
  constructor
  · intro h
    induction lines with
    | nil => cases h
    | cons line rest ih =>
      rw [firstPort_cons] at h
      cases hline : announcement line with
      | error fault => simp [hline] at h
      | ok announced =>
        cases announced with
        | some announced =>
          simp only [hline, Except.ok.injEq] at h
          exact ⟨[], line, rest, rfl, List.forall_mem_nil _, h ▸ hline⟩
        | none =>
          obtain ⟨before, line', after, rfl, hbefore, hport⟩ := ih (by simpa [hline] using h)
          exact ⟨line :: before, line', after, rfl, List.forall_mem_cons.mpr ⟨hline, hbefore⟩, hport⟩
  · rintro ⟨before, line, after, rfl, hbefore, hport⟩
    rw [firstPort_append hbefore, firstPort_cons, hport]

/-- When every line is a text, the first that announces a port gives it. -/
theorem firstPort_of_texts {texts : List String}
    (h : lines.map announcement = texts.map fun text => .ok (announcedPort? text)) :
    firstPort silence lines =
      match texts.findSome? announcedPort? with
      | some port => .ok port
      | none => .error silence := by
  induction texts generalizing lines with
  | nil =>
    obtain rfl := List.map_eq_nil_iff.mp h
    rfl
  | cons text texts ih =>
    obtain ⟨line, rest, rfl, hline, hrest⟩ := List.map_eq_cons_iff.mp h
    rw [firstPort_cons, List.findSome?_cons]
    cases hport : announcedPort? text with
    | some port => simp only [hline, hport]
    | none => simpa only [hline, hport] using ih hrest

/-! ## Lines of an output -/

theorem cutLine_append (rest : List UInt8) (hline : 0x0A ∉ line) :
    cutLine (line ++ 0x0A :: rest) = some (line, rest) := by
  induction line with
  | nil => rfl
  | cons b line ih =>
    rw [List.mem_cons, not_or] at hline
    have hb : ¬ b = 0x0A := fun h => hline.1 h.symm
    rw [List.cons_append, cutLine, if_neg hb, ih hline.2]
    rfl

theorem cutLine_eq_none (hline : 0x0A ∉ line) : cutLine line = none := by
  induction line with
  | nil => rfl
  | cons b line ih =>
    rw [List.mem_cons, not_or] at hline
    have hb : ¬ b = 0x0A := fun h => hline.1 h.symm
    rw [cutLine, if_neg hb, ih hline.2]
    rfl

theorem endedLines_written {fuel : Nat} (hfuel : lines.length ≤ fuel)
    (hlines : ∀ line ∈ lines, 0x0A ∉ line) (hlast : 0x0A ∉ last) :
    endedLines fuel (lines.flatMap (· ++ [0x0A]) ++ last) = (lines.map dropReturn, last) := by
  induction lines generalizing fuel with
  | nil =>
    cases fuel with
    | zero => rfl
    | succ fuel => simp [endedLines, cutLine_eq_none hlast]
  | cons line lines ih =>
    cases fuel with
    | zero => simp at hfuel
    | succ fuel =>
      rw [List.forall_mem_cons] at hlines
      have hcut : cutLine ((line :: lines).flatMap (· ++ [0x0A]) ++ last) =
          some (line, lines.flatMap (· ++ [0x0A]) ++ last) := by
        simpa using cutLine_append (lines.flatMap (· ++ [0x0A]) ++ last) hlines.1
      rw [endedLines, hcut]
      simp only [ih (Nat.le_of_succ_le_succ hfuel) hlines.2, List.map_cons]

theorem length_le_length_flatMap (lines : List (List UInt8)) :
    lines.length ≤ (lines.flatMap (· ++ [0x0A])).length := by
  induction lines with
  | nil => simp
  | cons line lines ih =>
    simp only [List.flatMap_cons, List.length_append, List.length_cons, List.length_nil]
    omega

/-- **The lines of an output are what it was written of.** A last one that is not ended counts when
the tool ends. -/
theorem ToolStream.lines_written {s : ToolStream} (hlines : ∀ line ∈ lines, 0x0A ∉ line)
    (hlast : 0x0A ∉ last) (hstdout : s.stdout = lines.flatMap (· ++ [0x0A]) ++ last) :
    s.lines = lines.map dropReturn ++ if s.ends && !last.isEmpty then [last] else [] := by
  have hfuel : lines.length ≤ s.stdout.length := by
    rw [hstdout, List.length_append]
    exact Nat.le_trans (length_le_length_flatMap lines) (Nat.le_add_right _ _)
  have hended : endedLines s.stdout.length s.stdout = (lines.map dropReturn, last) := by
    rw [hstdout] at hfuel ⊢
    exact endedLines_written hfuel hlines hlast
  simp only [ToolStream.lines, hended]
  cases s.ends && !last.isEmpty <;> simp

/-! ## Texts as lines -/

theorem lineEnd_notMem_encode (h : '\n' ∉ text.toList) : 0x0A ∉ encode text := by
  intro hmem
  obtain ⟨c, hc, hvalue⟩ := mem_of_mem_encode hmem (by decide)
  obtain rfl : c = '\n' := Char.toNat_inj.mp hvalue
  exact h hc

/-- Bytes of a text that end with a carriage return are those of a text that ends with one. -/
theorem exists_eq_append_return (h : (encode text).getLast? = some 0x0D) :
    ∃ front : String, text = front ++ "\r" := by
  rw [encode_eq_flatMap] at h
  rcases List.eq_nil_or_concat text.toList with hnil | ⟨front, c, hchars⟩
  · simp [hnil] at h
  · obtain ⟨b, more, hchar, -⟩ := decodeStep_utf8EncodeChar c
    have hne : String.utf8EncodeChar c ≠ [] := by simp [hchar]
    rw [hchars, List.concat_eq_append, List.flatMap_append, List.flatMap_singleton,
      List.getLast?_append_of_ne_nil _ hne] at h
    have hvalue := (utf8EncodeChar_of_mem (List.mem_of_getLast? h) (by decide)).2
    obtain rfl : c = '\r' := Char.toNat_inj.mp hvalue
    exact ⟨String.ofList front, String.toList_injective (by simp [hchars])⟩

theorem announcement_encode (text : String) :
    announcement (encode text) = .ok (announcedPort? text) := by
  rw [announcement, decodeStrict_encode]
  rfl

/-- A carriage return before the end of a line does not count. -/
theorem announcement_dropReturn_encode (text : String) :
    announcement (dropReturn (encode text)) = .ok (announcedPort? text) := by
  rw [dropReturn]
  split_ifs with hreturn
  · obtain ⟨front, rfl⟩ := exists_eq_append_return hreturn
    have hbyte : encode "\r" = [0x0D] := by decide +kernel
    have htrim : trimBlanks (front ++ "\r").toList = trimBlanks front.toList := by
      rw [String.toList_append]
      exact trimBlanks_append (List.all_eq_true.mp rfl)
    rw [encode_append, hbyte, List.dropLast_concat, announcement_encode, announcedPort?, ← htrim,
      ← announcedPort?]
  · exact announcement_encode text

/-! ## Waiting -/

/-- What waiting for the port of a pod on an output comes to. -/
structure ToolStream.IsAwaited (s : ToolStream) (pod : PodRef) (found : Except Failure Nat) :
    Prop where
  /-- The port is that of the first line that announces one, whatever texts are before it. -/
  ok_iff : ∀ port, found = .ok port ↔ ∃ before line after, s.lines = before ++ line :: after ∧
    (∀ line' ∈ before, announcement line' = .ok none) ∧ announcement line = .ok (some port)
  /-- Texts none of which announces a port are followed by the end of the tool. -/
  exited : s.ends → (∀ line ∈ s.lines, announcement line = .ok none) →
    found = .error (.say ("port-forward to " ++ pod.text ++ " exited before it was ready"))
  /-- A line that is no text ends the search, if no line before it announces a port. -/
  unreadable : ∀ before line after fault, s.lines = before ++ line :: after →
    (∀ line' ∈ before, announcement line' = .ok none) → announcement line = .error fault →
      found = .error (.say fault.message)
  /-- So it is for the texts of which the output was written. -/
  written : ∀ (texts : List String) (last : String), (∀ text ∈ texts, '\n' ∉ text.toList) →
    '\n' ∉ last.toList → s.stdout = texts.flatMap (fun text => encode (text ++ "\n")) ++ encode last →
      let lines := texts ++ if s.ends then [last] else []
      (∀ port, lines.findSome? announcedPort? = some port → found = .ok port) ∧
        (lines.findSome? announcedPort? = none → s.ends → found =
          .error (.say ("port-forward to " ++ pod.text ++ " exited before it was ready")))

/-- Each line of an output that was written of texts announces what its text does. -/
theorem ToolStream.map_announcement_lines {s : ToolStream} {texts : List String} {last : String}
    (htexts : ∀ text ∈ texts, '\n' ∉ text.toList) (hlast : '\n' ∉ last.toList)
    (hstdout : s.stdout = texts.flatMap (fun text => encode (text ++ "\n")) ++ encode last) :
    s.lines.map announcement =
      (texts ++ if s.ends && !(encode last).isEmpty then [last] else []).map
        fun text => .ok (announcedPort? text) := by
  have hbyte : encode "\n" = [0x0A] := by decide +kernel
  have hlines : s.lines = (texts.map encode).map dropReturn ++
      if s.ends && !(encode last).isEmpty then [encode last] else [] := by
    refine ToolStream.lines_written ?_ (lineEnd_notMem_encode hlast) ?_
    · exact List.forall_mem_map.mpr fun text htext => lineEnd_notMem_encode (htexts text htext)
    · simp only [hstdout, encode_append, hbyte, List.flatMap_map]
  rw [hlines, List.map_append, List.map_append, List.map_map, List.map_map]
  congr 1
  · exact List.map_congr_left fun text _ => announcement_dropReturn_encode text
  · split_ifs
    · exact congrArg (fun announced => [announced]) (announcement_encode last)
    · rfl

theorem eq_empty_of_encode (h : encode text = []) : text = "" := by
  refine String.toList_injective ?_
  rw [← decodeLossy_encode, h, decodeLossy]
  rfl

/-- On an output that was written of texts, the first of them that announces a port gives it. -/
theorem ToolStream.awaitPort_written {s : ToolStream} {texts : List String} {last : String}
    (htexts : ∀ text ∈ texts, '\n' ∉ text.toList) (hlast : '\n' ∉ last.toList)
    (hstdout : s.stdout = texts.flatMap (fun text => encode (text ++ "\n")) ++ encode last)
    (pod : PodRef) :
    s.awaitPort pod =
      match (texts ++ if s.ends then [last] else []).findSome? announcedPort? with
      | some port => .ok port
      | none => .error (s.silence pod) := by
  have hannounced := map_announcement_lines htexts hlast hstdout
  -- An empty last line is none, but it would not announce a port either.
  have hnone : announcedPort? "" = none := by decide +kernel
  rw [awaitPort, firstPort_of_texts hannounced]
  cases hends : s.ends with
  | false => rfl
  | true =>
    cases hbytes : encode last with
    | nil =>
      rw [eq_empty_of_encode hbytes]
      simp [List.findSome?_append, hnone]
    | cons b bytes => rfl

theorem ToolStream.silence_of_ends {s : ToolStream} (h : s.ends) (pod : PodRef) :
    s.silence pod =
      .say ("port-forward to " ++ pod.text ++ " exited before it was ready") := if_pos h

theorem ToolStream.isAwaited (s : ToolStream) (pod : PodRef) : s.IsAwaited pod (s.awaitPort pod) where
  ok_iff port := firstPort_eq_ok_iff
  exited hends hlines := by
    rw [awaitPort, firstPort_of_silent hlines, silence_of_ends hends]
  unreadable before line after fault hlines hbefore hline := by
    rw [awaitPort, hlines, firstPort_append hbefore, firstPort_cons, hline]
  written texts last htexts hlast hstdout := by
    have hawait := awaitPort_written htexts hlast hstdout pod
    refine ⟨fun port hport => ?_, fun hnone hends => ?_⟩
    · rw [hawait, hport]
    · rw [hawait, hnone, silence_of_ends hends]

theorem Kubectl.finds_forward {k : Kubectl} {w : World} {pod : PodRef} {s : ToolStream}
    (h : w (.start (k.invocation (forwardArguments pod port))) = .ok s) :
    w.finds (k.forward pod port) = s.awaitPort pod := by
  have hstart : w.finds (request (.start (k.invocation (forwardArguments pod port)))) = .ok s := h
  rw [forward, World.finds_bind, World.finds_within, hstart]
  rfl

/-- **Forwarding gives the port that the first announcing line announces.** The announcement of a
port is read from whatever address, with blanks around it; a line announces a port only if it has that
form, and by a numeral of the port; a number that is no port is refused. On the output of the tool,
lines before it do not count as long as they are texts; if there is none, the tool exited before it was
ready. A line that is no text ends the search. -/
theorem forward_firstAnnounced :
    (∀ (before host digits target after : String) (n : Nat),
      (∀ c ∈ before.toList, isBlank c) → (∀ c ∈ after.toList, isBlank c) →
      ¬ " -> ".toList <:+: host.toList → IsNumeral digits.toList n →
      target ≠ "" → (∀ c ∈ target.toList, c.isDigit) →
        announcedPort?
            (before ++ "Forwarding from " ++ host ++ ":" ++ digits ++ " -> " ++ target ++ after) =
          if n ≤ 65535 then some n else none) ∧
    (∀ line port, announcedPort? line = some port ↔
      ∃ address numeral target, Announces line address numeral target ∧
        Denotes numeral port ∧ port ≤ 65535) ∧
    (∀ line address numeral target n, Announces line address numeral target →
      Denotes numeral n → 65535 < n → announcedPort? line = none) ∧
    ∀ (w : World) (k : Kubectl) (pod : PodRef) (remote : Nat) (s : ToolStream),
      w (.start (k.invocation (Kubectl.forwardArguments pod remote))) = .ok s →
        s.IsAwaited pod (w.finds (k.forward pod remote)) := by
  refine ⟨fun before host digits target after n hbefore hafter hhost hdigits htarget hchars =>
    announcedPort?_written hbefore hafter hhost hdigits htarget hchars,
    fun line port => announcedPort?_eq_some_iff,
    fun line address numeral target n h => h.announcedPort?_eq_none, ?_⟩
  intro w k pod remote s hstart
  rw [Kubectl.finds_forward hstart]
  exact s.isAwaited pod

/-- A machine on which a tool prints this output while it runs. -/
def printingMachine (s : ToolStream) : World
  | .start _ => .ok s
  | r => World.silent r

/-- The first line that announces a port does not give it if a line before it is no text. -/
theorem no_port_after_unreadable :
    let bytes := encode "Forwarding from 127.0.0.1:54321 -> 15000"
    let s : ToolStream := ⟨[0xFF, 0x0A] ++ bytes ++ [0x0A], true⟩
    let found := (printingMachine s).finds (Kubectl.forward {} ⟨"ns", "p"⟩ 15000)
    s.lines = [[0xFF], bytes] ∧ (∀ port, announcement [0xFF] ≠ .ok (some port)) ∧
      announcement bytes = .ok (some 54321) ∧ found ≠ .ok 54321 ∧
      found = .error (.say "invalid utf-8 sequence of 1 bytes from index 0") := by
  intro bytes s found
  have hfaulty : announcement [0xFF] = .error ⟨0, some 1⟩ := by decide +kernel
  have hlines : s.lines = [[0xFF], bytes] := by decide +kernel
  have hport : announcement bytes = .ok (some 54321) := by
    rw [announcement_encode]
    exact congrArg _ (by decide +kernel)
  have hfound : found = .error (.say "invalid utf-8 sequence of 1 bytes from index 0") := by
    decide +kernel
  refine ⟨hlines, fun port h => ?_, hport, ?_, hfound⟩
  · cases hfaulty.symm.trans h
  · rw [hfound]
    nofun

end MeshDoctor
