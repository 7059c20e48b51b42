import Anastom.Persistence.DefinitionRecord
import Anastom.Persistence.HeldHistory

/-! The definition that a store keeps for a run: the snapshots of the run are checked against it,
and no call changes it once the run is there. -/
namespace Anastom

mutual
theorem Json.canonicalChars_parsed : (value : JsonValue) →
    canonicalChars value.parsed = canonicalChars value
  | .null => rfl
  | .bool _ => by rw [JsonValue.parsed]
  | .number value => by
    rw [JsonValue.parsed, canonicalChars, canonicalChars, numberChars_parsed]
  | .string _ => by rw [JsonValue.parsed]
  | .array items => by
    rw [JsonValue.parsed, canonicalChars, canonicalChars, Json.itemTexts_parsed items]
  | .object fields => by
    rw [JsonValue.parsed, canonicalChars, canonicalChars, Json.fieldTexts_parsed fields]
theorem Json.itemTexts_parsed : (items : List JsonValue) →
    itemTexts (JsonValue.parsedItems items) = itemTexts items
  | [] => rfl
  | item :: rest => by
    rw [JsonValue.parsedItems, itemTexts, itemTexts, Json.canonicalChars_parsed item,
      Json.itemTexts_parsed rest]
theorem Json.fieldTexts_parsed : (fields : List (String × JsonValue)) →
    fieldTexts (JsonValue.parsedFields fields) = fieldTexts fields
  | [] => rfl
  | (key, value) :: rest => by
    rw [JsonValue.parsedFields, fieldTexts, fieldTexts, Json.canonicalChars_parsed value,
      Json.fieldTexts_parsed rest]
end

theorem Json.fieldTexts_map_congr {α : Type} {member : α → String × JsonValue} {f : α → α}
    {entries : List α}
    (same : ∀ entry, (member (f entry)).1 = (member entry).1 ∧
      canonicalChars (member (f entry)).2 = canonicalChars (member entry).2) :
    fieldTexts ((entries.map f).map member) = fieldTexts (entries.map member) := by
  simp only [fieldTexts_map, List.map_map]
  refine List.map_congr_left fun entry _ => ?_
  exact Prod.ext (same entry).1 (same entry).2

namespace WorkflowDefinition
variable {platform : Platform} {stored workflow : WorkflowDefinition}

/-- Definitions that no snapshot tells apart. -/
structure Alike (stored workflow : WorkflowDefinition) : Prop where
  metadata : stored.metadata = workflow.metadata
  nodeOrder : stored.nodeOrder = workflow.nodeOrder
  text : Json.canonicalJson stored.toJson = Json.canonicalJson workflow.toJson

theorem Alike.refl (workflow : WorkflowDefinition) : workflow.Alike workflow := ⟨rfl, rfl, rfl⟩

theorem alike_parsed (workflow : WorkflowDefinition) : workflow.parsed.Alike workflow := by
  refine ⟨rfl, rfl, ?_⟩
  have input (input : WorkflowInputDefinition) :
      Json.canonicalChars ({ input with
        toResolvedSchemaReference := parsedSchema input.toResolvedSchemaReference } :
          WorkflowInputDefinition).toJson = Json.canonicalChars input.toJson := by
    simp only [WorkflowInputDefinition.toJson, parsedSchema, Json.canonicalChars, Json.fieldTexts,
      Json.canonicalChars_parsed]
  have output (output : ResolvedSchemaReference) :
      Json.canonicalChars (parsedSchema output).toJson = Json.canonicalChars output.toJson := by
    simp only [ResolvedSchemaReference.toJson, parsedSchema, Json.canonicalChars, Json.fieldTexts,
      Json.canonicalChars_parsed]
  have node (node : WorkflowNode) :
      Json.canonicalChars ({ node with output := parsedSchema node.output } :
        WorkflowNode).toJson = Json.canonicalChars node.toJson := by
    simp only [WorkflowNode.toJson, Json.canonicalChars, fieldTexts_append, Json.fieldTexts, output]
  rw [Json.canonicalJson, Json.canonicalJson, toJson, toJson, Json.canonicalChars,
    Json.canonicalChars, fieldTexts_append, fieldTexts_append]
  simp only [parsed, Json.fieldTexts, Json.canonicalChars]
  rw [Json.fieldTexts_map_congr, Json.fieldTexts_map_congr]
  · intro entry
    exact ⟨rfl, node entry.2⟩
  · intro entry
    exact ⟨rfl, input entry.2⟩

/-- A snapshot of one definition is accepted for every definition like it. -/
theorem Alike.snapshot (alike : stored.Alike workflow)
    (accepted : assertWorkflowDefinition platform.ajv stored = true) {snapshot : RunSnapshot}
    {events : List RunEvent} (checked : assertRunSnapshot platform snapshot workflow events = .ok ()) :
    assertRunSnapshot platform snapshot stored events = .ok () := by
  obtain ⟨expected, made, same⟩ := assertRunSnapshot_ok.mp checked
  obtain ⟨_, state, folded, matching, fits, rfl⟩ := createRunSnapshot_ok.mp made
  refine assertRunSnapshot_ok.mpr ⟨_, createRunSnapshot_ok.mpr ⟨accepted, state, folded, ?_, fits, ?_⟩, same⟩
  · rw [stateMatchesWorkflow, alike.metadata, alike.nodeOrder]
    exact matching
  · rw [snapshotOf, Hash.digestJson, alike.text]
    rfl

end WorkflowDefinition

namespace MemoryStore
variable {platform : Platform} {store next : MemoryStore} {runId : String}

theorem definition_updateRun {run : MemoryRun} {f : MemoryRun → MemoryRun} {other : String}
    {stored : WorkflowDefinition} (known : store.definition other = some stored)
    (found : store.run? runId = some run)
    (keeps : ∀ run : MemoryRun, run.lease.runId = runId → (f run).lease.runId = runId)
    (same : (f run).workflow = run.workflow) :
    (store.updateRun runId f).definition other = some stored := by
  rw [← known, definition, definition, run?_updateRun keeps]
  split
  case isTrue equal =>
    subst equal
    rw [found, Option.map_some, Option.map_some, Option.map_some, same]
  case isFalse => rfl

/-- No call changes the definition of a run. -/
theorem perform_definition (call : StoreCall) (clock : Nat) {stored : WorkflowDefinition}
    (known : store.definition runId = some stored) :
    (perform platform call clock store).2.definition runId = some stored := by
  cases performed : perform platform call clock store with
  | mk result next =>
  have unchanged := perform_reads performed
  cases result with
  | error failure =>
    rcases perform_error_state performed with rfl | ⟨token, rfl⟩
    · exact known
    · simp only [perform, Action.tag_error] at performed
      rcases renew_error performed with rfl | ⟨run, found, _, _, rfl⟩
      · exact known
      · have key := run?_runId found
        exact definition_updateRun known found (by intro _ _; exact key) rfl
  | ok value =>
    cases call <;> simp only [perform, Action.tag_ok] at performed <;>
      obtain ⟨value, performed, rfl⟩ := performed
    case createOwned input =>
      obtain ⟨_, absent, _, _, rfl, rfl⟩ := createOwned_ok.mp performed
      obtain ⟨run, found, same⟩ := Option.map_eq_some_iff.mp known
      show Option.map _ (run? { runs := store.runs ++ [createdRun platform input clock] } runId) = _
      rw [run?_created, found, Option.some_or, Option.map_some, same]
    case acquireReleased input =>
      obtain ⟨run, found, _, _, rfl, rfl⟩ := acquireReleased_ok performed
      exact definition_updateRun known found (by intro _ _; exact rfl) rfl
    case takeoverExpired input =>
      obtain ⟨run, found, _, _, _, _, rfl, rfl⟩ := takeoverExpired_ok performed
      exact definition_updateRun known found (by intro _ _; exact rfl) rfl
    case renew token =>
      obtain ⟨run, found, _, _, _, rfl, rfl⟩ := renew_ok performed
      have key := run?_runId found
      exact definition_updateRun known found (by intro _ _; exact key) rfl
    case release token =>
      obtain ⟨run, found, _, rfl⟩ := release_ok performed
      exact definition_updateRun known found (by intro _ key; exact key) rfl
    case commit input =>
      obtain ⟨run, found, _, _, _, ⟨_, _, _, _, rfl⟩ | ⟨_, _, _, _, rfl⟩⟩ := commit_ok performed
      · exact known
      · exact definition_updateRun known found (by intro _ key; exact key) rfl
    case submitControl input =>
      obtain ⟨run, found, rfl | ⟨_, _, rfl⟩⟩ := submitControl_ok performed
      · exact known
      · exact definition_updateRun known found (by intro _ key; exact key) rfl
    case load | inspectLease | pendingControls => rw [unchanged rfl]; exact known

theorem created_definition {input : CreateOwnedRun} {clock : Nat} {result : StoreResult}
    (performed : perform platform (.createOwned input) clock store = (.ok result, next)) :
    next.definition input.runId = some input.workflow := by
  simp only [perform, Action.tag_ok] at performed
  obtain ⟨receipt, created, rfl⟩ := performed
  obtain ⟨_, absent, _, _, _, rfl⟩ := createOwned_ok.mp created
  show Option.map _ (run? { runs := store.runs ++ [createdRun platform input clock] } _) = _
  rw [run?_created, absent, Option.none_or, if_pos rfl]
  rfl

end MemoryStore

namespace SqliteStore
variable {platform : Platform} {db next : SqliteStore} {runId : String}

/-- No call changes the definition of a run. -/
theorem perform_definition (call : StoreCall) (clock : Nat) {stored : WorkflowDefinition}
    (known : db.definition runId = some stored) :
    (perform platform call clock db).2.definition runId = some stored := by
  cases performed : perform platform call clock db with
  | mk result next =>
  have unchanged := perform_reads performed
  cases result with
  | error failure =>
    rw [perform_error_state performed]
    exact known
  | ok value =>
    cases call <;> simp only [perform, Action.tag_ok] at performed <;>
      obtain ⟨value, performed, rfl⟩ := performed
    case createOwned input =>
      obtain ⟨_, _, _, _, _, _, rfl, rfl⟩ := createOwned_ok performed
      obtain ⟨row, found, same⟩ := Option.map_eq_some_iff.mp known
      show Option.map _ (Keyed.find (db.runs ++ [_]) runId) = _
      rw [Keyed.find_append, found, Option.some_or, Option.map_some, same]
    case acquireReleased input =>
      obtain ⟨_, _, _, _, rfl, rfl⟩ := acquireReleased_ok performed
      exact known
    case takeoverExpired input =>
      obtain ⟨_, _, _, _, _, _, rfl, rfl⟩ := takeoverExpired_ok performed
      exact known
    case renew token =>
      obtain ⟨_, _, _, _, _, _, rfl, rfl⟩ := renew_ok performed
      exact known
    case release token =>
      obtain ⟨_, _, _, ⟨_, rfl⟩ | ⟨_, rfl⟩⟩ := release_ok performed <;> exact known
    case commit input =>
      obtain ⟨_, _, _, _, _, _, ⟨_, _, _, _, rfl⟩ | ⟨_, digests, acknowledgement, _, _, rfl⟩⟩ :=
        commit_ok performed
      · exact known
      · obtain ⟨_, runs, _⟩ := appended_fields platform db input digests acknowledgement clock
        rw [definition, runs]
        exact known
    case submitControl input =>
      obtain ⟨_, rfl | ⟨_, _, rfl⟩⟩ := submitControl_ok performed <;> exact known
    case load | inspectLease | pendingControls => rw [unchanged rfl]; exact known

theorem created_definition {input : CreateOwnedRun} {clock : Nat} {result : StoreResult}
    (performed : perform platform (.createOwned input) clock db = (.ok result, next)) :
    next.definition input.runId = some input.workflow.parsed := by
  simp only [perform, Action.tag_ok] at performed
  obtain ⟨receipt, created, rfl⟩ := performed
  obtain ⟨_, absent, _, _, _, _, _, rfl⟩ := createOwned_ok created
  have fresh : Keyed.find db.runs input.runId = none := by
    simpa [runExists] using absent
  show Option.map _ (Keyed.find (db.runs ++ [_]) input.runId) = _
  rw [Keyed.find_append, fresh, Option.none_or, Keyed.find_cons]
  exact congrArg (Option.map fun row : RunRow => row.workflow.parsed) (if_pos rfl)

end SqliteStore

namespace StoreImplementation
variable (store : StoreImplementation)

/-- The store has the definition of a run, up to what no snapshot tells apart. -/
def Defines (state : store.State) (runId : String) (workflow : WorkflowDefinition) : Prop :=
  ∃ stored, store.definition state runId = some stored ∧ stored.Alike workflow

/-- A run keeps the definition that it was created with. -/
structure Definitions : Prop where
  created : ∀ input clock state result,
    (store.perform (.createOwned input) clock state).1 = .ok result →
    store.Defines (store.perform (.createOwned input) clock state).2 input.runId input.workflow
  kept : ∀ call clock state runId stored, store.definition state runId = some stored →
    store.definition (store.perform call clock state).2 runId = some stored

variable {store}

theorem Definitions.after (definitions : store.Definitions) {calls : List (StoreCall × Nat)}
    {runId : String} {workflow : WorkflowDefinition}
    (defines : store.Defines (store.after calls) runId workflow)
    (more : List (StoreCall × Nat)) :
    store.Defines (store.after (calls ++ more)) runId workflow := by
  obtain ⟨stored, known, alike⟩ := defines
  refine ⟨stored, ?_, alike⟩
  induction more using List.reverseRecOn with
  | nil => rwa [List.append_nil]
  | append_singleton more entry ih =>
    rw [← List.append_assoc, after_concat]
    exact definitions.kept _ _ _ _ _ ih

end StoreImplementation

theorem durableStore_definitions (platform : Platform) (kind : StoreKind) :
    (durableStore platform kind).Definitions := by
  cases kind with
  | memory =>
    refine ⟨fun input clock state result performed => ?_, fun call clock state runId stored =>
      MemoryStore.perform_definition call clock⟩
    exact ⟨_, MemoryStore.created_definition (Prod.ext performed rfl), .refl _⟩
  | sqlite =>
    refine ⟨fun input clock state result performed => ?_, fun call clock state runId stored =>
      SqliteStore.perform_definition call clock⟩
    exact ⟨_, SqliteStore.created_definition (Prod.ext performed rfl),
      WorkflowDefinition.alike_parsed _⟩

end Anastom
