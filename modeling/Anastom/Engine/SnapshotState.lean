import Anastom.Core.KeyOrder
import Anastom.Engine.NodeInvariants

/-! The state that `JSON.parse` builds from a snapshot's canonical text. It loses the sign
of zero and the order in which object keys were inserted, and nothing that canonical text
shows. -/
namespace Anastom

namespace Js
variable {α : Type} (key : α → String)

/-- Entries of an object in its property order, from their order of insertion. -/
def objectOrder (entries : List α) : List α :=
  ((entries.filter fun entry => (arrayIndex? (key entry)).isSome).insertionSort fun a b =>
    (arrayIndex? (key a)).getD 0 ≤ (arrayIndex? (key b)).getD 0) ++
    entries.filter fun entry => (arrayIndex? (key entry)).isNone

/-- Entries of the object that `JSON.parse` builds from canonical text, which sorts them. -/
def parsedOrder (entries : List α) : List α :=
  objectOrder key (entries.insertionSort (Json.entryLe key))

theorem objectOrder_perm (entries : List α) : (objectOrder key entries).Perm entries := by
  unfold objectOrder
  refine (List.Perm.append (List.perm_insertionSort _ _) (List.Perm.refl _)).trans ?_
  have split := List.filter_append_perm (fun entry => (arrayIndex? (key entry)).isSome) entries
  simpa using split

theorem parsedOrder_perm (entries : List α) : (parsedOrder key entries).Perm entries :=
  (objectOrder_perm key _).trans (List.perm_insertionSort _ _)

/-- Entries with one key keep their order. -/
theorem objectOrder_filter (entries : List α) (k : String) :
    (objectOrder key entries).filter (fun entry => decide (key entry = k)) =
      entries.filter fun entry => decide (key entry = k) := by
  unfold objectOrder
  rw [List.filter_append, StableSort.filter_insertionSort, List.filter_filter, List.filter_filter]
  · cases index : arrayIndex? k with
    | none =>
      have none_left : entries.filter (fun entry => decide (key entry = k) &&
          (arrayIndex? (key entry)).isSome) = [] := by
        rw [List.filter_eq_nil_iff]
        rintro entry _ both
        simp only [Bool.and_eq_true, decide_eq_true_eq] at both
        rw [both.1, index] at both
        cases both.2
      rw [none_left, List.nil_append]
      refine List.filter_congr fun entry _ => ?_
      by_cases same : key entry = k
      · simp [same, index]
      · simp [same]
    | some n =>
      have none_right : entries.filter (fun entry => decide (key entry = k) &&
          (arrayIndex? (key entry)).isNone) = [] := by
        rw [List.filter_eq_nil_iff]
        rintro entry _ both
        simp only [Bool.and_eq_true, decide_eq_true_eq] at both
        rw [both.1, index] at both
        cases both.2
      rw [none_right, List.append_nil]
      refine List.filter_congr fun entry _ => ?_
      by_cases same : key entry = k
      · simp [same, index]
      · simp [same]
  · intro a b first second
    rw [of_decide_eq_true first, of_decide_eq_true second]

theorem parsedOrder_filter (entries : List α) (k : String) :
    (parsedOrder key entries).filter (fun entry => decide (key entry = k)) =
      entries.filter fun entry => decide (key entry = k) := by
  unfold parsedOrder
  rw [objectOrder_filter, StableSort.filter_insertionSort]
  intro a b first second
  exact Json.entryLe_of_key key ((of_decide_eq_true first).trans (of_decide_eq_true second).symm)

end Js

namespace JsonValue

mutual
/-- The value that `JSON.parse` reads back from canonical text, with its key order. -/
def reread : JsonValue → JsonValue
  | .null => .null
  | .bool value => .bool value
  | .number value => .number value.parsed
  | .string value => .string value
  | .array items => .array (rereadItems items)
  | .object fields => .object (Js.parsedOrder Prod.fst (rereadFields fields))
def rereadItems : List JsonValue → List JsonValue
  | [] => []
  | item :: rest => reread item :: rereadItems rest
def rereadFields : List (String × JsonValue) → List (String × JsonValue)
  | [] => []
  | (key, value) :: rest => (key, reread value) :: rereadFields rest
end

end JsonValue

namespace Json

theorem numberChars_parsed (value : JsonNumber) : numberChars value.parsed = numberChars value := by
  by_cases zero : value.digits = 0
  · simp [numberChars, JsonNumber.parsed, zero]
  · simp [numberChars, JsonNumber.parsed, zero]

theorem parsedOrder_texts (fields : List (String × JsonValue)) (k : String) :
    (fieldTexts (Js.parsedOrder Prod.fst fields)).filter (fun entry => decide (entry.1 = k)) =
      (fieldTexts fields).filter fun entry => decide (entry.1 = k) := by
  rw [fieldTexts_map, fieldTexts_map, List.filter_map, List.filter_map]
  exact congrArg _ (Js.parsedOrder_filter Prod.fst fields k)

mutual
/-- Reading a value back from its canonical text keeps the text. -/
theorem canonicalChars_reread : (value : JsonValue) →
    canonicalChars value.reread = canonicalChars value
  | .null => rfl
  | .bool _ => by rw [JsonValue.reread]
  | .number value => by
    rw [JsonValue.reread, canonicalChars, canonicalChars, numberChars_parsed]
  | .string _ => by rw [JsonValue.reread]
  | .array items => by
    rw [JsonValue.reread, canonicalChars, canonicalChars, itemTexts_reread items]
  | .object fields => by
    rw [JsonValue.reread]
    refine canonicalChars_object_congr fun k => ?_
    rw [parsedOrder_texts, fieldTexts_reread fields]
theorem itemTexts_reread : (items : List JsonValue) →
    itemTexts (JsonValue.rereadItems items) = itemTexts items
  | [] => rfl
  | item :: rest => by
    rw [JsonValue.rereadItems, itemTexts, itemTexts, canonicalChars_reread item,
      itemTexts_reread rest]
theorem fieldTexts_reread : (fields : List (String × JsonValue)) →
    fieldTexts (JsonValue.rereadFields fields) = fieldTexts fields
  | [] => rfl
  | (key, value) :: rest => by
    rw [JsonValue.rereadFields, fieldTexts, fieldTexts, canonicalChars_reread value,
      fieldTexts_reread rest]
end

end Json

def RuntimeDescriptor.reread (descriptor : RuntimeDescriptor) : RuntimeDescriptor :=
  { descriptor with
    configuration := Js.parsedOrder Prod.fst (JsonValue.rereadFields descriptor.configuration) }

def CommandReport.reread (report : CommandReport) : CommandReport :=
  { report with durationMs := report.durationMs.parsed }

def NodeRunState.reread (node : NodeRunState) : NodeRunState :=
  { node with
    output := node.output.map JsonValue.reread
    command := node.command.map CommandReport.reread }

/-- The state that `JSON.parse` builds from the canonical text a snapshot stores. -/
def RunState.reread (state : RunState) : RunState :=
  { state with
    inputs := Js.parsedOrder Prod.fst (JsonValue.rereadFields state.inputs)
    nodes := Js.parsedOrder NodeRunState.id (state.nodes.map NodeRunState.reread)
    runtimeDescriptor := state.runtimeDescriptor.map RuntimeDescriptor.reread }

end Anastom
