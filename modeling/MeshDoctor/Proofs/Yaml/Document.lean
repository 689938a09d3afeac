import MeshDoctor.Proofs.Yaml.Lexer
import MeshDoctor.Yaml.Document

/-!
# YAML — the document of a mapping

* `Entry.key`, `Entry.value`: the nodes of an entry.
* `readEntries_tokens`: the tokens of entries are read as their nodes.
* **`read?_lines`**: the lines of a mapping are read as a document of its entries.
-/

namespace MeshDoctor.Yaml

namespace Entry

/-- The node of the name. -/
def key (e : Entry) : Node := .scalar none none .plain e.name

/-- The node of the text. -/
def value (e : Entry) : Node := .scalar none none e.style (String.ofList e.text)

end Entry

variable {e : Entry} {es : List Entry} {handles : List (List Char × Tag)}

/-- A scalar is read by itself. -/
theorem readOptional_scalar (style : Style) (text : List Char) (rest : List Token) (fuel : Nat) :
    readOptional handles true true [.key, .value, .blockEnd] (fuel + 2)
        (.scalar style text :: rest) =
      some (.scalar none none style (String.ofList text), rest) := by
  rfl

theorem readEntries_cons (e : Entry) (rest : List Token) (fuel : Nat) :
    readEntries handles (fuel + 3) (e.tokens ++ rest) =
      (readEntries handles (fuel + 2) rest).map fun (entries, rest) =>
        ((e.key, e.value) :: entries, rest) := by
  change readEntries handles (fuel + 3) (.key :: .scalar .plain e.name.toList :: .value ::
    .scalar e.style e.text :: rest) = _
  rw [readEntries]
  simp [readOptional_scalar, Entry.key, Entry.value]
  cases readEntries handles (fuel + 2) rest <;> rfl

/-- The entries of a mapping up to its end. -/
theorem readEntries_tokens (handles : List (List Char × Tag)) (es : List Entry) {fuel : Nat}
    (hfuel : es.length + 2 < fuel) :
    readEntries handles fuel (es.flatMap Entry.tokens ++ [.blockEnd]) =
      some (es.map fun e => (e.key, e.value), []) := by
  induction es generalizing fuel with
  | nil =>
    obtain ⟨fuel, rfl⟩ := Nat.exists_eq_add_of_lt hfuel
    rfl
  | cons e es ih =>
    rw [List.length_cons] at hfuel
    obtain ⟨fuel, rfl⟩ : ∃ n, fuel = n + 3 := ⟨fuel - 3, by omega⟩
    rw [List.flatMap_cons, List.append_assoc, readEntries_cons, ih (by omega)]
    rfl

theorem readNode_mapping (handles : List (List Char × Tag)) (es : List Entry) {fuel : Nat}
    (hfuel : es.length + 3 < fuel) :
    readNode handles true false fuel
        (.blockMapping :: (es.flatMap Entry.tokens ++ [.blockEnd])) =
      some (.mapping none (es.map fun e => (e.key, e.value)), []) := by
  obtain ⟨fuel, rfl⟩ : ∃ n, fuel = n + 1 := ⟨fuel - 1, by omega⟩
  change (readEntries handles fuel _).bind _ = _
  rw [readEntries_tokens handles es (by omega)]
  rfl

theorem readDocument_mapping (es : List Entry) :
    readDocument (.blockMapping :: (es.flatMap Entry.tokens ++ [.blockEnd])) =
      some (⟨.mapping none (es.map fun e => (e.key, e.value))⟩, []) := by
  have hdirectives : readDirectives (.blockMapping :: (es.flatMap Entry.tokens ++ [.blockEnd])) =
      ([], .blockMapping :: (es.flatMap Entry.tokens ++ [.blockEnd])) := rfl
  have hhandles : handlesOf? [] = some usualHandles := rfl
  have hlength : (es.flatMap Entry.tokens).length = 4 * es.length := by
    simp [List.length_flatMap, Entry.tokens, Nat.mul_comm]
  rw [readDocument, hdirectives]
  simp only [hhandles, Option.bind_eq_bind, Option.bind_some, List.isEmpty_nil, if_true]
  rw [readNode_mapping]
  · rfl
  · simp only [List.length_cons, List.length_append, hlength]
    omega

/-- **The lines of a mapping are read as a document of its entries.** -/
theorem read?_lines (h : ∀ e ∈ es, e.IsReadable) (hne : es ≠ []) :
    Document.read? (String.ofList (lines es)) =
      some (some ⟨.mapping none (es.map fun e => (e.key, e.value))⟩) := by
  rw [Document.read?, String.toList_ofList, tokens?_lines h hne]
  simp [readDocument_mapping]

end MeshDoctor.Yaml
