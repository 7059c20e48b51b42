import Anastom.ExecutionHost.Protocol

/-! What the checks of the protocol accept. They read a record after a round trip through
its text as they read the record itself, and of a record of the right shape they check
the numbers, the sizes and the encodings that the shape leaves open. -/
namespace Anastom
open JsonValue

theorem any_reread {check : JsonValue → Bool} (same : ∀ value, check value.reread = check value)
    (value : Option JsonValue) : (value.map reread).any check = value.any check := by
  cases value with
  | none => rfl
  | some value => exact same value

theorem all_reread {check : JsonValue → Bool} (same : ∀ value, check value.reread = check value)
    (value : Option JsonValue) : (value.map reread).all check = value.all check := by
  cases value with
  | none => rfl
  | some value => exact same value

/-- A check that reads the same value before and after a round trip. -/
def Textual (check : JsonValue → Bool) : Prop := ∀ value, check value.reread = check value

theorem closedObject_textual {required : List String}
    {properties : List (String × (JsonValue → Bool))}
    (checks : ∀ property ∈ properties, Textual property.2) :
    Textual (closedObject required properties) := by
  intro value
  have read : properties.all (fun property => (value.reread.get? property.1).all property.2) =
      properties.all fun property => (value.get? property.1).all property.2 := by
    rw [Bool.eq_iff_iff, List.all_eq_true, List.all_eq_true]
    refine forall₂_congr fun property member => ?_
    rw [get?_reread, all_reread (checks property member)]
  rw [closedObject, closedObject, read, isRecord_reread, value.keys_reread.all_eq]
  simp only [get?_reread, Option.isSome_map]

theorem counter_textual : Textual counter := integerIn_reread _ _

theorem observationOf_textual {type : String} {required : List String}
    {properties : List (String × (JsonValue → Bool))}
    (checks : ∀ property ∈ properties, Textual property.2) :
    Textual (observationOf type required properties) := by
  refine closedObject_textual fun property member => ?_
  rcases List.mem_cons.mp member with rfl | listed
  · exact stringIn_reread _
  · exact checks property listed

theorem observationValidator_textual : Textual observationValidator := by
  intro value
  have branches : ∀ branch ∈ observationBranches, branch value.reread = branch value := by
    intro branch member
    simp only [observationBranches, List.mem_cons, List.not_mem_nil, or_false] at member
    rcases member with rfl | rfl | rfl | rfl | rfl <;>
      refine observationOf_textual (fun property member => ?_) value <;>
      simp only [List.mem_cons, List.not_mem_nil, or_false] at member
    · rcases member with rfl | rfl
      · exact isString_reread
      · exact integerIn_reread _ _
    · rcases member with rfl | rfl | rfl | rfl
      · exact isString_reread
      · exact isString_reread
      · exact stringIn_reread _
      · exact isString_reread
    · rcases member with rfl | rfl | rfl | rfl | rfl | rfl | rfl | rfl
      · exact stringIn_reread _
      · exact stringIn_reread _
      all_goals exact counter_textual
    · rw [member]
      exact stringIn_reread _
  rw [observationValidator, observationValidator, List.countP_congr]
  intro branch member
  rw [branches branch member]

theorem validFailure_textual : Textual validFailure := by
  intro value
  rw [validFailure, validFailure, isRecord_reread, exactKeys_reread, get?_reread, get?_reread,
    any_reread (stringIn_reread _), any_reread isString_reread]

theorem byteLength_reread (value : JsonValue) :
    Json.byteLength value.reread = Json.byteLength value := by
  rw [Json.byteLength_chars, Json.byteLength_chars, Json.canonicalChars_reread]

theorem assertExecutionResult_reread (value : JsonValue) :
    assertExecutionResult value.reread = assertExecutionResult value := by
  simp only [assertExecutionResult, isRecord_reread, exactKeys_reread, get?_reread,
    any_reread (stringIn_reread _), any_reread validFailure_textual, any_reread isString_reread,
    byteLength_reread]

theorem nullOr_textual {check : JsonValue → Bool} (same : Textual check) :
    Textual (nullOr check) := by
  intro value
  cases value with
  | null => rfl
  | _ => exact same _

theorem nonnegativeNumber_textual : Textual nonnegativeNumber := by
  intro value
  cases value with
  | number value =>
    obtain ⟨sign, digits, exponent, normal⟩ := value
    simp only [reread, nonnegativeNumber, JsonNumber.parsed]
    by_cases zero : digits = 0
    · simp [zero]
    · cases sign <;> simp [zero]
  | _ => rfl

theorem assertCommandReport_reread (value : JsonValue) :
    assertCommandReport value.reread = assertCommandReport value := by
  simp only [assertCommandReport, isRecord_reread, exactKeys_reread, get?_reread,
    any_reread isBoolean_reread, any_reread (nullOr_textual (integerIn_reread _ _)),
    any_reread (nullOr_textual isString_reread), any_reread nonnegativeNumber_textual,
    any_reread counter_textual, isSafeInteger]

theorem assertFailure_reread (value : JsonValue) :
    assertFailure value.reread = assertFailure value := by
  rw [assertFailure, assertFailure, validFailure_textual]

theorem canonicalBase64_textual : Textual canonicalBase64 := by
  intro value
  cases value <;> rfl

theorem getD_reread (value : Option JsonValue) :
    (value.map reread).getD .null = (value.getD .null).reread := by
  cases value <;> rfl

theorem ifPresent_reread {check : JsonValue → Except Failure Unit}
    (same : ∀ value, check value.reread = check value) (value : Option JsonValue) :
    ifPresent (value.map reread) check = ifPresent value check := by
  cases value with
  | none => rfl
  | some value => exact same value

theorem assertSerializedCommandExecution_reread (value : JsonValue) :
    assertSerializedCommandExecution value.reread = assertSerializedCommandExecution value := by
  simp only [assertSerializedCommandExecution, isRecord_reread, hasOnlyKeys_reread, get?_reread,
    any_reread isString_reread, getD_reread, assertCommandReport_reread,
    ifPresent_reread assertFailure_reread, any_reread canonicalBase64_textual]

theorem itemsOf_reread (value : Option JsonValue) :
    ((value.map reread).bind itemsOf) = (value.bind itemsOf).map rereadItems := by
  cases value with
  | none => rfl
  | some value => cases value <;> rfl

theorem rereadItems_map (items : List JsonValue) : rereadItems items = items.map reread := by
  induction items with
  | nil => rfl
  | cons item rest ih => rw [rereadItems, ih, List.map_cons]

theorem forEach_reread {check : JsonValue → Except Failure Unit}
    (same : ∀ value, check value.reread = check value) (items : List JsonValue) :
    forEach check (rereadItems items) = forEach check items := by
  induction items with
  | nil => rfl
  | cons item rest ih => rw [rereadItems, forEach, forEach, same, ih]

theorem assertRuntimeEvent_reread (value : JsonValue) :
    assertRuntimeEvent value.reread = assertRuntimeEvent value := by
  rw [assertRuntimeEvent, assertRuntimeEvent, observationValidator_textual]

theorem assertRuntimeHostOutput_reread (value : JsonValue) :
    assertRuntimeHostOutput value.reread = assertRuntimeHostOutput value := by
  simp only [assertRuntimeHostOutput, isRecord_reread, exactKeys_reread, get?_reread,
    any_reread (stringIn_reread _), getD_reread, assertRuntimeEvent_reread, validRuntimeEvent,
    observationValidator_textual _, byteLength_reread, assertExecutionResult_reread,
    assertSerializedCommandExecution_reread]

/-- What is written to a record is read back by its check. -/
theorem assertExecutionTerminalRecord_reread (value : JsonValue) :
    assertExecutionTerminalRecord value.reread = assertExecutionTerminalRecord value := by
  have lengths (found : Option (List JsonValue)) :
      (found.map rereadItems).any (fun events => decide (events.length ≤ 256)) =
        found.any fun events => decide (events.length ≤ 256) := by
    cases found with
    | none => rfl
    | some items => simp [rereadItems_map]
  have items (found : Option (List JsonValue)) :
      (found.map rereadItems).getD [] = rereadItems (found.getD []) := by
    cases found <;> rfl
  simp only [assertExecutionTerminalRecord, isRecord_reread, exactKeys_reread, get?_reread,
    any_reread (stringIn_reread _), any_reread isString_reread,
    any_reread (integerIn_reread 1 maxSafeInteger), isPositive, itemsOf_reread, lengths, items,
    forEach_reread assertRuntimeEvent_reread, getD_reread, assertExecutionResult_reread,
    assertSerializedCommandExecution_reread]

theorem isSafeInteger_ofInt (n : Int) :
    isSafeInteger (.number (JsonNumber.ofInt n)) = decide (n.natAbs ≤ maxSafeInteger) := by
  rw [isSafeInteger, integerIn, JsonNumber.toInt?_ofInt, Option.any_some]
  congr 1
  simp only [eq_iff_iff]
  omega

theorem counter_nat (n : Nat) : counter (nat n) = nonnegative n := by
  rw [counter, integerIn_nat, nonnegative]
  congr 1
  simp only [eq_iff_iff]
  omega

theorem all_map {α β : Type} (f : α → β) (check : β → Bool) (value : Option α) :
    (value.map f).all check = value.all (check ∘ f) := by
  cases value <;> rfl

/-- The alternative of another type. -/
theorem observationOf_otherType {type other : String} {required : List String}
    {properties : List (String × (JsonValue → Bool))} {value : JsonValue}
    (read : value.get? "type" = some (.string type)) (apart : type ≠ other) :
    observationOf other required properties value = false := by
  have refused : (value.get? "type").all (stringIn [other]) = false := by
    rw [read]
    simp [stringIn, apart]
  simp only [observationOf, closedObject]
  rw [List.all_cons (l := properties), refused, Bool.false_and, Bool.and_false]

theorem logSchema_event (message : String) (droppedLogs : Option Nat) :
    logSchema (RuntimeEvent.log message droppedLogs).toJson = droppedLogs.all positive := by
  have range : ∀ n, integerIn 1 maxSafeInteger (nat n) = positive n := isPositive_nat
  cases droppedLogs with
  | none => simp [logSchema, observationOf, closedObject, RuntimeEvent.toJson, get?, keys, isRecord,
      stringIn, isString, List.lookup_cons]
  | some n =>
    simp [logSchema, observationOf, closedObject, RuntimeEvent.toJson, get?, keys, isRecord,
      stringIn, isString, List.lookup_cons, range]

theorem metadataSchema_event (value : RuntimeMetadata) :
    metadataSchema (RuntimeEvent.metadata value).toJson = true := by
  have source : value.source.all fun source =>
      ["configured", "reported"].contains source.text := by
    cases value.source with
    | none => rfl
    | some source => cases source <;> decide
  simp [metadataSchema, observationOf, closedObject, RuntimeEvent.toJson, RuntimeMetadata.toJson,
    get?, keys, isRecord, stringIn, isString, List.lookup_cons, List.lookup_append, all_map,
    Function.comp_def]
  simpa using source

theorem usageSchema_event (value : RuntimeUsage) :
    usageSchema (RuntimeEvent.usage value).toJson = value.valid := by
  have coverage : ["complete", "partial"].contains value.coverage.text = true := by
    cases value.coverage <;> decide
  simp only [List.contains_cons, List.contains_nil, Bool.or_false] at coverage
  simp [usageSchema, observationOf, closedObject, RuntimeEvent.toJson, RuntimeUsage.toJson,
    get?, keys, isRecord, stringIn, List.lookup_cons, List.lookup_append, all_map,
    Function.comp_def, counter_nat, RuntimeUsage.valid]
  simpa using fun _ _ _ _ _ _ => coverage

/-- The schema of an event checks what its type leaves open. -/
theorem observationValidator_event (event : RuntimeEvent) :
    observationValidator event.toJson = event.valid := by
  have kinds {type : String} (read : event.toJson.get? "type" = some (.string type)) :
      ∀ other, type ≠ other → ∀ required properties,
        observationOf other required properties event.toJson = false :=
    fun other apart _ _ => observationOf_otherType read apart
  cases event with
  | started => decide
  | completed status => cases status <;> decide
  | log message droppedLogs =>
    have others := @kinds "log" rfl
    simp only [observationValidator, observationBranches, List.countP_cons, List.countP_nil,
      logSchema_event, startedSchema, metadataSchema, usageSchema, completedSchema,
      others "started" (by decide), others "metadata" (by decide), others "usage" (by decide),
      others "completed" (by decide), RuntimeEvent.valid]
    cases droppedLogs.all positive <;> rfl
  | metadata value =>
    have others := @kinds "metadata" rfl
    simp only [observationValidator, observationBranches, List.countP_cons, List.countP_nil,
      metadataSchema_event, startedSchema, logSchema, usageSchema, completedSchema,
      others "started" (by decide), others "log" (by decide), others "usage" (by decide),
      others "completed" (by decide), RuntimeEvent.valid]
    rfl
  | usage value =>
    have others := @kinds "usage" rfl
    simp only [observationValidator, observationBranches, List.countP_cons, List.countP_nil,
      usageSchema_event, startedSchema, logSchema, metadataSchema, completedSchema,
      others "started" (by decide), others "log" (by decide), others "metadata" (by decide),
      others "completed" (by decide), RuntimeEvent.valid]
    cases value.valid <;> rfl

theorem assertRuntimeEvent_ok {event : RuntimeEvent} {u : Unit} :
    assertRuntimeEvent event.toJson = .ok u ↔ event.valid = true := by
  rw [assertRuntimeEvent, require_ok, observationValidator_event]

theorem validFailure_failure (failure : ExecutionFailure) : validFailure failure.toJson = true := by
  have category : (failureCategories.map FailureCategory.text).contains failure.category.text := by
    cases failure.category <;> decide
  rw [ExecutionFailure.toJson, validFailure,
    exactKeys_object ["category", "message"] _ rfl (by decide)]
  simp [isRecord, get?, stringIn, isString, List.lookup_cons] at category ⊢
  exact category

/-- A normalized result is refused for its size alone. -/
theorem assertExecutionResult_ok {result : ExecutionResult} {u : Unit} :
    assertExecutionResult result.toJson = .ok u ↔
      Json.byteLength result.toJson ≤ maxExecutionResultBytes := by
  cases result with
  | succeeded output =>
    rw [assertExecutionResult, ExecutionResult.toJson,
      exactKeys_object ["status", "output"] ["output", "status"] rfl (by decide)]
    simp [require_bind_ok, isRecord, get?, stringIn, List.lookup_cons]
  | failed failure =>
    rw [assertExecutionResult, ExecutionResult.toJson,
      exactKeys_object ["status", "failure"] ["failure", "status"] rfl (by decide)]
    simp [require_bind_ok, isRecord, get?, stringIn, List.lookup_cons, validFailure_failure]
  | blocked reason =>
    rw [assertExecutionResult, ExecutionResult.toJson,
      exactKeys_object ["status", "reason"] ["reason", "status"] rfl (by decide)]
    simp [require_bind_ok, isRecord, get?, stringIn, isString, List.lookup_cons]
  | cancelled reason =>
    rw [assertExecutionResult, ExecutionResult.toJson,
      exactKeys_object ["status", "reason"] ["reason", "status"] rfl (by decide)]
    simp [require_bind_ok, isRecord, get?, stringIn, isString, List.lookup_cons]

def CommandReport.readable (report : CommandReport) : Bool :=
  report.valid && report.exitCode.all fun code => decide (code.natAbs ≤ maxSafeInteger)

theorem assertCommandReport_ok {report : CommandReport} {u : Unit} :
    assertCommandReport report.toJson = .ok u ↔ report.readable = true := by
  have exitCode : nullOr isSafeInteger ((report.exitCode.map fun code =>
      JsonValue.number (JsonNumber.ofInt code)).getD .null) =
      report.exitCode.all fun code => decide (code.natAbs ≤ maxSafeInteger) := by
    cases report.exitCode with
    | none => rfl
    | some code => exact isSafeInteger_ofInt code
  have signal : nullOr isString ((report.signal.map JsonValue.string).getD .null) = true := by
    cases report.signal <;> rfl
  rw [assertCommandReport, CommandReport.toJson, exactKeys_object ["passed", "exitCode", "signal",
    "durationMs", "stdoutBytes", "stderrBytes", "stdoutTruncated", "stderrTruncated"] _ rfl
    (by decide)]
  simp only [isRecord, get?, List.lookup_cons, require_ok]
  simp [exitCode, signal, isBoolean, nonnegativeNumber, counter_nat, CommandReport.readable,
    CommandReport.valid]
  tauto

theorem canonicalBase64_encode (bytes : List UInt8) :
    canonicalBase64 (.string (Base64.encode bytes)) = true := by
  rw [canonicalBase64, Base64.decode_encode, beq_self_eq_true]

theorem assertSerializedCommandExecution_ok {execution : CommandExecution} {u : Unit} :
    assertSerializedCommandExecution (commandExecutionToRecord execution).toJson = .ok u ↔
      execution.output.readable = true := by
  have failure : ifPresent (execution.failure.map ExecutionFailure.toJson) assertFailure =
      .ok () := by
    cases execution.failure with
    | none => rfl
    | some failure => rw [Option.map_some, ifPresent, assertFailure, validFailure_failure]; rfl
  simp [assertSerializedCommandExecution, commandExecutionToRecord, bind_ok,
    SerializedCommandExecution.toJson, isRecord, hasOnlyKeys, keys, get?, List.lookup_cons,
    isString, canonicalBase64_encode, assertCommandReport_ok, failure]

/-- An event is accepted for its ranges and its size. -/
theorem assertRuntimeHostOutput_event {event : RuntimeEvent} {u : Unit} :
    assertRuntimeHostOutput (RuntimeHostOutput.event event).toJson = .ok u ↔
      event.valid = true ∧ Json.byteLength event.toJson ≤ executionPrivateRecordMaxBytes := by
  have keys : (object [("type", .string "event"), ("event", event.toJson)]).exactKeys
      ["event", "type"] = true :=
    exactKeys_object ["type", "event"] _ rfl (by decide)
  simp [assertRuntimeHostOutput, RuntimeHostOutput.toJson, bind_ok, isRecord, get?,
    stringIn, List.lookup_cons, keys, assertRuntimeEvent_ok, validRuntimeEvent,
    observationValidator_event]

theorem assertRuntimeHostOutput_runtime {result : ExecutionResult} {u : Unit} :
    assertRuntimeHostOutput (RuntimeHostOutput.runtimeResult result).toJson = .ok u ↔
      assertExecutionResult result.toJson = .ok u := by
  have keys : (object [("type", .string "runtime-result"), ("result", result.toJson)]).exactKeys
      ["result", "type"] = true :=
    exactKeys_object ["type", "result"] _ rfl (by decide)
  simp [assertRuntimeHostOutput, RuntimeHostOutput.toJson, require_bind_ok, isRecord, get?,
    stringIn, List.lookup_cons, keys]

theorem assertRuntimeHostOutput_command {result : SerializedCommandExecution} {u : Unit} :
    assertRuntimeHostOutput (RuntimeHostOutput.commandResult result).toJson = .ok u ↔
      assertSerializedCommandExecution result.toJson = .ok u := by
  have keys : (object [("type", .string "command-result"), ("result", result.toJson)]).exactKeys
      ["result", "type"] = true :=
    exactKeys_object ["type", "result"] _ rfl (by decide)
  simp [assertRuntimeHostOutput, RuntimeHostOutput.toJson, require_bind_ok, isRecord, get?,
    stringIn, List.lookup_cons, keys]

/-- What a reader checks of the result that a record holds. -/
def TerminalResult.Readable : TerminalResult → Prop
  | .runtime value => assertExecutionResult value.toJson = .ok ()
  | .command value => assertSerializedCommandExecution value.toJson = .ok ()

theorem forEach_ok {check : JsonValue → Except Failure Unit} {items : List JsonValue} {u : Unit} :
    forEach check items = .ok u ↔ ∀ item ∈ items, check item = .ok () := by
  induction items with
  | nil => simp [forEach, pure_ok]
  | cons item rest ih =>
    rw [forEach, bind_ok, List.forall_mem_cons, ih]
    constructor
    · rintro ⟨_, checked, others⟩
      exact ⟨checked, others⟩
    · rintro ⟨checked, others⟩
      exact ⟨(), checked, others⟩

/-- What the reader of a terminal record checks beyond its shape. -/
theorem assertExecutionTerminalRecord_ok {record : ExecutionTerminalRecord} {u : Unit} :
    assertExecutionTerminalRecord record.toJson = .ok u ↔
      positive record.generation = true ∧ record.events.length ≤ 256 ∧
      (∀ event ∈ record.events, event.valid = true) ∧ record.result.Readable := by
  obtain ⟨executionId, generation, outcome, events, result, cleanup⟩ := record
  have outcomes : outcome.text = "succeeded" ∨ outcome.text = "failed" ∨
      outcome.text = "blocked" ∨ outcome.text = "cancelled" := by
    cases outcome <;> decide
  have verdicts : cleanup.word = "confirmed" ∨ cleanup.word = "unknown" := by
    cases cleanup <;> decide
  let record : ExecutionTerminalRecord :=
    ⟨executionId, generation, outcome, events, result, cleanup⟩
  have keys : record.toJson.exactKeys ["cleanup", "events", "executionId", "generation", "outcome",
      "result", "version"] = true :=
    exactKeys_object ["version", "executionId", "generation", "outcome", "events", "result",
      "cleanup"] _ rfl (by decide)
  have shape : record.toJson.isRecord = true := rfl
  have version : record.toJson.get? "version" = some (.string executionProtocolVersion) := rfl
  have identity : record.toJson.get? "executionId" = some (.string executionId) := rfl
  have count : record.toJson.get? "generation" = some (nat generation) := rfl
  have ended : record.toJson.get? "outcome" = some (.string outcome.text) := rfl
  have verdict : record.toJson.get? "cleanup" = some (.string cleanup.word) := rfl
  have observed : record.toJson.get? "events" =
      some (.array (events.map RuntimeEvent.toJson)) := rfl
  have payload : record.toJson.get? "result" = some result.toJson := rfl
  change assertExecutionTerminalRecord record.toJson = .ok u ↔ _
  generalize record.toJson = json at *
  have results : result.toJson.isRecord = true ∧
      result.toJson.exactKeys ["kind", "value"] = true := by
    cases result with
    | runtime value => exact ⟨rfl, exactKeys_object ["kind", "value"] _ rfl (by decide)⟩
    | command value => exact ⟨rfl, exactKeys_object ["kind", "value"] _ rfl (by decide)⟩
  cases result with
  | runtime value =>
    have kind : (TerminalResult.runtime value).toJson.get? "kind" = some (.string "runtime") := rfl
    have held : (TerminalResult.runtime value).toJson.get? "value" = some value.toJson := rfl
    generalize (TerminalResult.runtime value).toJson = result at *
    simp [assertExecutionTerminalRecord, keys, shape, version, identity, count, ended, verdict,
      observed, payload, results, kind, held, bind_ok, forEach_ok, assertRuntimeEvent_ok, isString,
      isPositive_nat, stringIn, outcomes, verdicts, itemsOf, TerminalResult.Readable, and_assoc]
  | command value =>
    have kind : (TerminalResult.command value).toJson.get? "kind" = some (.string "command") := rfl
    have held : (TerminalResult.command value).toJson.get? "value" = some value.toJson := rfl
    generalize (TerminalResult.command value).toJson = result at *
    simp [assertExecutionTerminalRecord, keys, shape, version, identity, count, ended, verdict,
      observed, payload, results, kind, held, bind_ok, forEach_ok, assertRuntimeEvent_ok, isString,
      isPositive_nat, stringIn, outcomes, verdicts, itemsOf, TerminalResult.Readable, and_assoc]

end Anastom
