import Anastom.Core.TaskDocument
import Anastom.Engine.JsonRoundTrip
import Anastom.ExecutionHost.Records

/-! A workflow definition as it is stored: the assertion that every stored definition passes,
and what is read back of one that was written as canonical text. -/
namespace Anastom
open JsonValue

namespace JsonValue

def asNat? (value : JsonValue) : Option Nat :=
  value.asInt?.bind fun n => if 0 ≤ n then some n.toNat else none

def asStrings? : JsonValue → Option (List String)
  | .array items => items.mapM asString?
  | _ => none

/-- One of the texts of an enumeration. -/
def asChoice? {α : Type} (values : List α) (text : α → String) (value : JsonValue) : Option α :=
  value.asString?.bind fun s => values.find? fun a => text a == s

/-- An object that maps names to values of one kind. -/
def asTable? {α : Type} (read : JsonValue → Option α) : JsonValue → Option (List (String × α))
  | .object fields => fields.mapM fun entry => (read entry.2).map fun a => (entry.1, a)
  | _ => none

/-- An object with exactly these properties. -/
def closedRecord (required allowed : List String) (value : JsonValue) : Option Unit :=
  if value.isRecord && value.hasOnlyKeys required allowed then some () else none

end JsonValue

def AttemptBudget.ofJson? (value : JsonValue) : Option AttemptBudget := do
  closedRecord ["maxAttempts"] ["maxDurationMs"] value
  let maxAttempts ← (value.get? "maxAttempts").bind asNat?
  let maxDurationMs ← readField asNat? (value.get? "maxDurationMs")
  some { maxAttempts, maxDurationMs }

def CommandDefinition.ofJson? (value : JsonValue) : Option CommandDefinition := do
  closedRecord ["argv", "cwd", "maxDurationMs", "maxOutputBytes"] [] value
  let argv ← (value.get? "argv").bind asStrings?
  let cwd ← (value.get? "cwd").bind asString?
  let maxDurationMs ← (value.get? "maxDurationMs").bind asNat?
  let maxOutputBytes ← (value.get? "maxOutputBytes").bind asNat?
  some { argv, cwd, maxDurationMs, maxOutputBytes }

def ResolvedSchemaReference.ofJson? (value : JsonValue) : Option ResolvedSchemaReference := do
  closedRecord ["ref", "schema"] [] value
  let ref ← (value.get? "ref").bind asString?
  let schema ← value.get? "schema"
  some { ref, schema }

def WorkflowInputDefinition.ofJson? (value : JsonValue) : Option WorkflowInputDefinition := do
  closedRecord ["id", "ref", "schema"] [] value
  let id ← (value.get? "id").bind asString?
  let ref ← (value.get? "ref").bind asString?
  let schema ← value.get? "schema"
  some { id, ref, schema }

def WorkflowNode.ofJson? (value : JsonValue) : Option WorkflowNode := do
  closedRecord ["id", "kind", "needs", "output", "attemptBudget"] ["role", "mutation", "command"]
    value
  let id ← (value.get? "id").bind asString?
  let kind ← (value.get? "kind").bind
    (asChoice? [NodeKind.agent, .command, .verifier, .gate] NodeKind.text)
  let needs ← (value.get? "needs").bind asStrings?
  let role ← readField asString? (value.get? "role")
  let output ← (value.get? "output").bind ResolvedSchemaReference.ofJson?
  let attemptBudget ← (value.get? "attemptBudget").bind AttemptBudget.ofJson?
  let mutation ← readField (asChoice? [MutationMode.readonly, .isolated] MutationMode.text)
    (value.get? "mutation")
  let command ← readField CommandDefinition.ofJson? (value.get? "command")
  some { id, kind, needs, role, output, attemptBudget, mutation, command }

def WorkflowMetadata.ofJson? (value : JsonValue) : Option WorkflowMetadata := do
  closedRecord ["id", "version"] [] value
  let id ← (value.get? "id").bind asString?
  let version ← (value.get? "version").bind asString?
  some { id, version }

def TaskObjective.ofJson? (value : JsonValue) : Option TaskObjective := do
  closedRecord ["objective", "acceptanceCriteria"] [] value
  let objective ← (value.get? "objective").bind asString?
  let acceptanceCriteria ← (value.get? "acceptanceCriteria").bind asStrings?
  some { objective, acceptanceCriteria }

def policiesOfJson? (value : JsonValue) : Option AttemptBudget := do
  closedRecord ["defaultAttemptBudget"] [] value
  (value.get? "defaultAttemptBudget").bind AttemptBudget.ofJson?

/-- The shape that the schema of persisted definitions demands. -/
def WorkflowDefinition.ofJson? (value : JsonValue) : Option WorkflowDefinition := do
  closedRecord ["apiVersion", "kind", "metadata", "sourcePath", "inputs", "policies", "nodeOrder",
    "nodes"] ["task"] value
  let _ ← (value.get? "apiVersion").filter (stringIn ["anastom.dev/v1alpha1"])
  let _ ← (value.get? "kind").filter (stringIn ["Workflow"])
  let metadata ← (value.get? "metadata").bind WorkflowMetadata.ofJson?
  let sourcePath ← (value.get? "sourcePath").bind asString?
  let inputs ← (value.get? "inputs").bind (asTable? WorkflowInputDefinition.ofJson?)
  let defaultAttemptBudget ← (value.get? "policies").bind policiesOfJson?
  let nodeOrder ← (value.get? "nodeOrder").bind asStrings?
  let nodes ← (value.get? "nodes").bind (asTable? WorkflowNode.ofJson?)
  let task ← readField TaskObjective.ofJson? (value.get? "task")
  some { metadata, sourcePath, inputs, defaultAttemptBudget, nodeOrder, nodes, task }

/-- An error thrown for a stored definition. -/
inductive DefinitionFailure where
  | error (message : String)
  | validation (issues : Issues)
  deriving DecidableEq, Repr

namespace WorkflowDefinition
open Definition

/-- What the schema of persisted definitions adds to the record types. -/
def validate (workflow : WorkflowDefinition) : Bool :=
  let reference (output : ResolvedSchemaReference) := !output.ref.isEmpty && isObject output.schema
  !workflow.sourcePath.isEmpty &&
    workflow.inputs.all (fun (_, input) => reference input.toResolvedSchemaReference) &&
    validBudget workflow.defaultAttemptBudget &&
    !workflow.nodeOrder.isEmpty && decide workflow.nodeOrder.Nodup && !workflow.nodes.isEmpty &&
    workflow.nodes.all (fun (_, node) => decide node.needs.Nodup && node.role.all (!·.isEmpty) &&
      reference node.output && validBudget node.attemptBudget && node.command.all validCommand) &&
    workflow.task.all (fun task => !task.objective.isEmpty &&
      !task.acceptanceCriteria.isEmpty && task.acceptanceCriteria.all (!·.isEmpty))

def authoredCommand (command : CommandDefinition) : CommandDocument :=
  { argv := command.argv, cwd := some command.cwd
    maxDuration := String.ofList (Nat.toDigits 10 command.maxDurationMs ++ ['m', 's'])
    maxOutputBytes := some command.maxOutputBytes }

/-- The authored node that stands for a stored one. -/
def authoredNode (node : WorkflowNode) : WorkflowNodeDocument :=
  { kind := node.kind, needs := some node.needs, role := node.role, output := node.output.ref
    attemptPolicy := none, mutation := node.mutation, command := node.command.map authoredCommand }

/-- The authored workflow that is checked again for a stored definition. -/
def authored (workflow : WorkflowDefinition) : WorkflowDocument :=
  { metadata := workflow.metadata, defaultAttemptBudget := none
    inputs := workflow.inputs.map fun (id, input) => (id, input.ref)
    nodes := workflow.nodes.map fun (id, node) => (id, authoredNode node) }

/-- `if (!condition) throw failure` -/
def check (condition : Bool) (failure : DefinitionFailure) : Except DefinitionFailure Unit :=
  if condition then .ok () else .error failure

end WorkflowDefinition

def ResolvedSchemaReference.reread (reference : ResolvedSchemaReference) :
    ResolvedSchemaReference := { reference with schema := reference.schema.reread }

def WorkflowInputDefinition.reread (input : WorkflowInputDefinition) : WorkflowInputDefinition :=
  { input with toResolvedSchemaReference := input.toResolvedSchemaReference.reread }

def WorkflowNode.reread (node : WorkflowNode) : WorkflowNode :=
  { node with output := node.output.reread }

/-- The definition read back from its canonical text, with the key order of what is read. -/
def WorkflowDefinition.reread (workflow : WorkflowDefinition) : WorkflowDefinition :=
  { workflow with
    inputs := Js.parsedOrder Prod.fst (workflow.inputs.map fun (id, input) => (id, input.reread))
    nodes := Js.parsedOrder Prod.fst (workflow.nodes.map fun (id, node) => (id, node.reread)) }

namespace JsonValue

@[simp] theorem asString?_reread (value : JsonValue) : value.reread.asString? = value.asString? := by
  cases value <;> rfl

@[simp] theorem asNat?_reread (value : JsonValue) : value.reread.asNat? = value.asNat? := by
  cases value with
  | number value => simp only [reread, asNat?, asInt?, asNumber?, Option.bind_some,
      JsonNumber.toInt?_parsed]
  | _ => rfl

@[simp] theorem asStrings?_reread (value : JsonValue) :
    value.reread.asStrings? = value.asStrings? := by
  cases value with
  | array items =>
    rw [reread, asStrings?, asStrings?]
    induction items with
    | nil => rfl
    | cons item rest ih => rw [rereadItems, List.mapM_cons, List.mapM_cons, asString?_reread, ih]
  | _ => rfl

@[simp] theorem asChoice?_reread {α : Type} (values : List α) (text : α → String)
    (value : JsonValue) : asChoice? values text value.reread = asChoice? values text value := by
  rw [asChoice?, asChoice?, asString?_reread]

@[simp] theorem closedRecord_reread (required allowed : List String) (value : JsonValue) :
    closedRecord required allowed value.reread = closedRecord required allowed value := by
  rw [closedRecord, closedRecord, isRecord_reread, hasOnlyKeys_reread]

theorem asNat?_nat (n : Nat) : (nat n).asNat? = some n := by
  simp [asNat?, asInt?, asNumber?, nat, JsonNumber.toInt?_ofNat]

theorem asStrings?_strings (texts : List String) : (strings texts).asStrings? = some texts := by
  rw [strings, asStrings?]
  induction texts with
  | nil => rfl
  | cons text rest ih =>
    rw [List.map_cons, List.mapM_cons, ih]
    rfl

theorem asChoice?_text {α : Type} {values : List α} {text : α → String} {a : α}
    (found : values.find? (fun b => text b == text a) = some a) :
    asChoice? values text (.string (text a)) = some a := found

/-- A reader that reads the same value before and after a round trip. -/
def Stable {α : Type} (read : JsonValue → Option α) : Prop := ∀ value, read value.reread = read value

theorem readField_reread {α : Type} {read : JsonValue → Option α} (stable : Stable read)
    (value : Option JsonValue) : readField read (value.map reread) = readField read value := by
  cases value with
  | none => rfl
  | some value => exact congrArg (Option.map some) (stable value)

theorem bind_reread {α : Type} {read : JsonValue → Option α} (stable : Stable read)
    (value : Option JsonValue) : (value.map reread).bind read = value.bind read := by
  cases value with
  | none => rfl
  | some value => exact stable value

theorem readField_map {α : Type} {read : JsonValue → Option α} (toJson : α → JsonValue)
    (each : ∀ a, read (toJson a) = some a) (value : Option α) :
    readField read (value.map toJson) = some value := by
  cases value with
  | none => rfl
  | some a => exact congrArg (Option.map some) (each a)

end JsonValue

theorem AttemptBudget.ofJson?_stable : Stable ofJson? := by
  intro value
  simp only [ofJson?, closedRecord_reread, get?_reread, bind_reread asNat?_reread,
    readField_reread asNat?_reread]

theorem CommandDefinition.ofJson?_stable : Stable ofJson? := by
  intro value
  simp only [ofJson?, closedRecord_reread, get?_reread, bind_reread asNat?_reread,
    bind_reread asStrings?_reread, bind_reread asString?_reread]

theorem WorkflowMetadata.ofJson?_stable : Stable ofJson? := by
  intro value
  simp only [ofJson?, closedRecord_reread, get?_reread, bind_reread asString?_reread]

theorem TaskObjective.ofJson?_stable : Stable ofJson? := by
  intro value
  simp only [ofJson?, closedRecord_reread, get?_reread, bind_reread asString?_reread,
    bind_reread asStrings?_reread]

theorem policiesOfJson?_stable : Stable policiesOfJson? := by
  intro value
  simp only [policiesOfJson?, closedRecord_reread, get?_reread,
    bind_reread AttemptBudget.ofJson?_stable]

theorem AttemptBudget.ofJson?_toJson (budget : AttemptBudget) :
    ofJson? budget.toJson = some budget := by
  have duration := readField_map nat asNat?_nat budget.maxDurationMs
  simp [ofJson?, toJson, closedRecord, isRecord, hasOnlyKeys, keys, get?, List.lookup_cons,
    List.all_map, Function.comp_def, asNat?_nat, duration]

theorem CommandDefinition.ofJson?_toJson (command : CommandDefinition) :
    ofJson? command.toJson = some command := by
  simp [ofJson?, toJson, closedRecord, isRecord, hasOnlyKeys, keys, get?, List.lookup_cons,
    asNat?_nat, asStrings?_strings, asString?]

theorem ResolvedSchemaReference.ofJson?_reread (reference : ResolvedSchemaReference) :
    ofJson? reference.toJson.reread = some reference.reread := by
  simp only [ofJson?, closedRecord_reread, get?_reread, bind_reread asString?_reread]
  simp [toJson, closedRecord, isRecord, hasOnlyKeys, keys, get?, List.lookup_cons, asString?,
    ResolvedSchemaReference.reread]

theorem WorkflowInputDefinition.ofJson?_reread (input : WorkflowInputDefinition) :
    ofJson? input.toJson.reread = some input.reread := by
  simp only [ofJson?, closedRecord_reread, get?_reread, bind_reread asString?_reread]
  simp [toJson, closedRecord, isRecord, hasOnlyKeys, keys, get?, List.lookup_cons, asString?,
    WorkflowInputDefinition.reread, ResolvedSchemaReference.reread]

theorem WorkflowNode.ofJson?_reread (node : WorkflowNode) :
    ofJson? node.toJson.reread = some node.reread := by
  have kind : asChoice? [NodeKind.agent, .command, .verifier, .gate] NodeKind.text
      (.string node.kind.text) = some node.kind :=
    asChoice?_text (by cases node.kind <;> decide)
  have role : readField asString? (node.role.map JsonValue.string) = some node.role :=
    readField_map JsonValue.string (fun _ => rfl) node.role
  have mutation : readField (asChoice? [MutationMode.readonly, .isolated] MutationMode.text)
      (node.mutation.map fun mode => .string mode.text) = some node.mutation :=
    readField_map _ (fun mode => asChoice?_text (by cases mode <;> decide)) node.mutation
  have command := readField_map CommandDefinition.toJson CommandDefinition.ofJson?_toJson node.command
  have output := ResolvedSchemaReference.ofJson?_reread node.output
  have budget := AttemptBudget.ofJson?_toJson node.attemptBudget
  simp only [ofJson?, closedRecord_reread, get?_reread, bind_reread asString?_reread,
    bind_reread (asChoice?_reread _ _), bind_reread asStrings?_reread,
    readField_reread asString?_reread, bind_reread AttemptBudget.ofJson?_stable,
    readField_reread (asChoice?_reread _ _), readField_reread CommandDefinition.ofJson?_stable]
  simp [toJson, closedRecord, isRecord, hasOnlyKeys, keys, get?, List.lookup_cons,
    List.lookup_append, List.all_map, Function.comp_def, kind, role, mutation, command, output,
    budget, asString?, asStrings?_strings, WorkflowNode.reread]

namespace Js
variable {α β : Type}

/-- Renaming values keeps the order of keys. -/
theorem parsedOrder_map (f : α → β) (key : β → String) (entries : List α) :
    parsedOrder key (entries.map f) = (parsedOrder (key ∘ f) entries).map f := by
  have named (entries : List α) : (entries.map f).insertionSort (Json.entryLe key) =
      (entries.insertionSort (Json.entryLe (key ∘ f))).map f :=
    (List.map_insertionSort _ _ f entries fun _ _ _ _ => Iff.rfl).symm
  have indexed (entries : List α) :
      (entries.map f).insertionSort (fun a b =>
        (arrayIndex? (key a)).getD 0 ≤ (arrayIndex? (key b)).getD 0) =
      (entries.insertionSort fun a b =>
        (arrayIndex? (key (f a))).getD 0 ≤ (arrayIndex? (key (f b))).getD 0).map f :=
    (List.map_insertionSort _ _ f entries fun _ _ _ _ => Iff.rfl).symm
  unfold parsedOrder objectOrder
  rw [named, List.filter_map, List.filter_map, List.map_append, indexed]
  rfl

end Js

/-- The values of a table, each under its own name. -/
def tableJson {α : Type} (toJson : α → JsonValue) (entries : List (String × α)) : JsonValue :=
  .object (entries.map fun entry => (entry.1, toJson entry.2))

theorem rereadFields_table {α : Type} (toJson : α → JsonValue) (entries : List (String × α)) :
    rereadFields (entries.map fun entry => (entry.1, toJson entry.2)) =
      entries.map fun entry => (entry.1, (toJson entry.2).reread) := by
  rw [Json.rereadFields_map, List.map_map]
  rfl

theorem asTable?_reread {α β : Type} {read : JsonValue → Option β} {toJson : α → JsonValue}
    {f : α → β} (each : ∀ a, read (toJson a).reread = some (f a)) (entries : List (String × α)) :
    asTable? read (tableJson toJson entries).reread =
      some (Js.parsedOrder Prod.fst (entries.map fun entry => (entry.1, f entry.2))) := by
  have total (sorted : List (String × α)) :
      (sorted.map fun entry => (entry.1, (toJson entry.2).reread)).mapM
        (fun entry => (read entry.2).map fun a => (entry.1, a)) =
      some (sorted.map fun entry => (entry.1, f entry.2)) := by
    induction sorted with
    | nil => rfl
    | cons entry rest ih =>
      rw [List.map_cons, List.mapM_cons, ih, each]
      rfl
  rw [tableJson, reread, asTable?, rereadFields_table, Js.parsedOrder_map, Js.parsedOrder_map]
  exact total _

namespace WorkflowDefinition

theorem ofJson?_reread (workflow : WorkflowDefinition) :
    ofJson? workflow.toJson.reread = some workflow.reread := by
  have inputs := asTable?_reread WorkflowInputDefinition.ofJson?_reread workflow.inputs
  have nodes := asTable?_reread WorkflowNode.ofJson?_reread workflow.nodes
  have budget := AttemptBudget.ofJson?_toJson workflow.defaultAttemptBudget
  have task : readField TaskObjective.ofJson? (workflow.task.map fun task =>
      .object [("objective", .string task.objective),
        ("acceptanceCriteria", strings task.acceptanceCriteria)]) = some workflow.task :=
    readField_map _ (fun task => by
      simp [TaskObjective.ofJson?, closedRecord, isRecord, hasOnlyKeys, keys, get?,
        List.lookup_cons, asString?, asStrings?_strings]) workflow.task
  have literal (text : String) : (some (JsonValue.string text).reread).filter (stringIn [text]) =
      some (.string text) := by
    rw [JsonValue.reread]
    simp [stringIn]
  unfold tableJson at inputs nodes
  simp only [ofJson?, closedRecord_reread, get?_reread, bind_reread asString?_reread,
    bind_reread WorkflowMetadata.ofJson?_stable, bind_reread policiesOfJson?_stable,
    bind_reread asStrings?_reread, readField_reread TaskObjective.ofJson?_stable]
  simp [toJson, closedRecord, isRecord, hasOnlyKeys, keys, get?, List.lookup_cons, List.all_map,
    Function.comp_def, asString?, asStrings?_strings, WorkflowMetadata.ofJson?, policiesOfJson?,
    budget, task, inputs, nodes, literal, WorkflowDefinition.reread]

/-- A table's text depends on the texts of its values, not on the order it is read in. -/
theorem canonicalChars_table {α : Type} {toJson : α → JsonValue} {f : α → α}
    (same : ∀ a, Json.canonicalChars (toJson (f a)) = Json.canonicalChars (toJson a))
    (entries : List (String × α)) :
    Json.canonicalChars (tableJson toJson
        (Js.parsedOrder Prod.fst (entries.map fun entry => (entry.1, f entry.2)))) =
      Json.canonicalChars (tableJson toJson entries) := by
  have moved (entries : List (String × α)) :
      (Js.parsedOrder Prod.fst entries).map (fun entry => (entry.1, toJson entry.2)) =
        Js.parsedOrder Prod.fst (entries.map fun entry => (entry.1, toJson entry.2)) :=
    (Js.parsedOrder_map (fun entry => (entry.1, toJson entry.2)) Prod.fst entries).symm
  rw [tableJson, tableJson, moved]
  refine Json.canonicalChars_object_congr fun key => ?_
  rw [Json.parsedOrder_texts, Json.fieldTexts_map, Json.fieldTexts_map, List.map_map, List.map_map,
    List.map_map]
  congr 2
  funext entry
  exact congrArg (Prod.mk entry.1) (same entry.2)

theorem fieldTexts_append (left right : List (String × JsonValue)) :
    Json.fieldTexts (left ++ right) = Json.fieldTexts left ++ Json.fieldTexts right := by
  rw [Json.fieldTexts_map, Json.fieldTexts_map, Json.fieldTexts_map, List.map_append]

/-- Reading a definition back keeps its canonical text. -/
theorem canonicalJson_reread (workflow : WorkflowDefinition) :
    Json.canonicalJson workflow.reread.toJson = Json.canonicalJson workflow.toJson := by
  have reference (output : ResolvedSchemaReference) : Json.canonicalChars output.reread.toJson =
      Json.canonicalChars output.toJson := by
    simp only [ResolvedSchemaReference.toJson, ResolvedSchemaReference.reread, Json.canonicalChars,
      Json.fieldTexts, Json.canonicalChars_reread]
  have input (input : WorkflowInputDefinition) : Json.canonicalChars input.reread.toJson =
      Json.canonicalChars input.toJson := by
    simp only [WorkflowInputDefinition.toJson, WorkflowInputDefinition.reread,
      ResolvedSchemaReference.reread, Json.canonicalChars, Json.fieldTexts,
      Json.canonicalChars_reread]
  have node (node : WorkflowNode) : Json.canonicalChars node.reread.toJson =
      Json.canonicalChars node.toJson := by
    simp only [WorkflowNode.toJson, WorkflowNode.reread, Json.canonicalChars, fieldTexts_append,
      Json.fieldTexts, reference]
  have inputs := canonicalChars_table input workflow.inputs
  have nodes := canonicalChars_table node workflow.nodes
  unfold tableJson at inputs nodes
  simp only [Json.canonicalJson, toJson, WorkflowDefinition.reread]
  rw [Json.canonicalChars, Json.canonicalChars, fieldTexts_append, fieldTexts_append]
  simp only [Json.fieldTexts, inputs, nodes]

end WorkflowDefinition

end Anastom
