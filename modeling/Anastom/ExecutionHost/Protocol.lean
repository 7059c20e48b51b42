import Anastom.Data.Base64
import Anastom.Core.JsonSize
import Anastom.Engine.WorkflowEngine
import Anastom.ExecutionHost.Records

/-! The private records and frames of the execution protocol: their limits, their JSON
forms, and the checks that a process applies to what it reads. -/
namespace Anastom
open JsonValue

def executionSocketFrameMaxBytes : Nat := 1024 * 1024

def executionLaunchFrameMaxBytes : Nat := 4 * 1024 * 1024

def executionPrivateRecordMaxBytes : Nat := 64 * 1024

def executionTerminalMaxBytes : Nat := 4 * 1024 * 1024

def maxExecutionResultBytes : Nat := 1024 * 1024

def executionProtocolVersion : String := "anastom.dev/execution-supervisor/v1alpha1"

/-- JSON-safe representation of bounded command evidence. -/
structure SerializedCommandExecution where
  output : CommandReport
  stdout : String
  stderr : String
  failure : Option ExecutionFailure
  deriving DecidableEq, Repr

/-- What an execution ended with, by the kind of its plan. -/
inductive TerminalResult where
  | runtime (value : ExecutionResult)
  | command (value : SerializedCommandExecution)
  deriving DecidableEq, Repr

/-- Private terminal record retained after worker cleanup. -/
structure ExecutionTerminalRecord where
  executionId : String
  generation : Nat
  outcome : ResultStatus
  events : List RuntimeEvent
  result : TerminalResult
  cleanup : CleanupOutcome
  deriving DecidableEq, Repr

/-- Normalized frame emitted by the isolated runtime-host process. -/
inductive RuntimeHostOutput where
  | event (value : RuntimeEvent)
  | runtimeResult (result : ExecutionResult)
  | commandResult (result : SerializedCommandExecution)
  deriving DecidableEq, Repr

def SerializedCommandExecution.toJson (execution : SerializedCommandExecution) : JsonValue :=
  .object ([("output", execution.output.toJson), ("stdout", .string execution.stdout),
    ("stderr", .string execution.stderr)] ++
    field "failure" ExecutionFailure.toJson execution.failure)

def TerminalResult.toJson : TerminalResult → JsonValue
  | .runtime value => .object [("kind", .string "runtime"), ("value", value.toJson)]
  | .command value => .object [("kind", .string "command"), ("value", value.toJson)]

def CleanupOutcome.word : CleanupOutcome → String
  | .confirmed => "confirmed"
  | .unknown => "unknown"

def ExecutionTerminalRecord.toJson (record : ExecutionTerminalRecord) : JsonValue :=
  .object [("version", .string executionProtocolVersion),
    ("executionId", .string record.executionId), ("generation", nat record.generation),
    ("outcome", .string record.outcome.text),
    ("events", .array (record.events.map RuntimeEvent.toJson)),
    ("result", record.result.toJson), ("cleanup", .string record.cleanup.word)]

def RuntimeHostOutput.toJson : RuntimeHostOutput → JsonValue
  | .event value => .object [("type", .string "event"), ("event", value.toJson)]
  | .runtimeResult result =>
    .object [("type", .string "runtime-result"), ("result", result.toJson)]
  | .commandResult result =>
    .object [("type", .string "command-result"), ("result", result.toJson)]

/-- Serialize command buffers into canonical private JSON evidence. -/
def commandExecutionToRecord (execution : CommandExecution) : SerializedCommandExecution where
  output := execution.output
  stdout := Base64.encode execution.stdout
  stderr := Base64.encode execution.stderr
  failure := execution.failure

/-- Validate an execution plan at a process boundary. -/
def assertExecutionPlanRef (plan : ExecutionPlanRef) : Except Failure Unit :=
  require (Text.identifier plan.runId && Text.uuid plan.executionId && positive plan.generation &&
    Text.digest plan.planDigest) (.typeError "Invalid execution plan reference")

/-- A schema of an object without additional properties. -/
def closedObject (required : List String) (properties : List (String × (JsonValue → Bool)))
    (value : JsonValue) : Bool :=
  value.isRecord && required.all (fun key => (value.get? key).isSome) &&
    value.keys.all (fun key => (properties.map Prod.fst).contains key) &&
    properties.all fun property => (value.get? property.1).all property.2

def counter : JsonValue → Bool := integerIn 0 maxSafeInteger

/-- One alternative of the public observation schema. -/
def observationOf (type : String) (required : List String)
    (properties : List (String × (JsonValue → Bool))) : JsonValue → Bool :=
  closedObject ("type" :: required) (("type", stringIn [type]) :: properties)

def startedSchema : JsonValue → Bool := observationOf "started" [] []

def logSchema : JsonValue → Bool :=
  observationOf "log" ["message"]
    [("message", isString), ("droppedLogs", integerIn 1 maxSafeInteger)]

def metadataSchema : JsonValue → Bool :=
  observationOf "metadata" ["provider", "model"]
    [("provider", isString), ("model", isString), ("source", stringIn ["configured", "reported"]),
      ("runtimeVersion", isString)]

def usageSchema : JsonValue → Bool :=
  observationOf "usage" ["scope", "coverage"]
    [("scope", stringIn ["attempt"]), ("coverage", stringIn ["complete", "partial"]),
      ("inputTokens", counter), ("outputTokens", counter), ("cacheReadTokens", counter),
      ("cacheWriteTokens", counter), ("reasoningTokens", counter), ("totalTokens", counter)]

def completedSchema : JsonValue → Bool :=
  observationOf "completed" ["status"]
    [("status", stringIn ["succeeded", "failed", "blocked", "cancelled"])]

/-- The alternatives of the public observation schema. -/
def observationBranches : List (JsonValue → Bool) :=
  [startedSchema, logSchema, metadataSchema, usageSchema, completedSchema]

def observationValidator (value : JsonValue) : Bool :=
  observationBranches.countP (· value) == 1

/-- Validate public observation fields before persistence. -/
def assertRuntimeEvent (value : JsonValue) : Except Failure Unit :=
  require (observationValidator value) (.error "Invalid public runtime observation")

def failureCategories : List FailureCategory :=
  [.runtimeUnavailable, .modelProvider, .tool, .schemaViolation, .verification, .budgetExhausted,
    .policyViolation, .workspaceConflict, .humanRejection, .unknownInternal]

def validFailure (value : JsonValue) : Bool :=
  value.isRecord && value.exactKeys ["category", "message"] &&
    (value.get? "category").any (stringIn (failureCategories.map FailureCategory.text)) &&
    (value.get? "message").any isString

/-- Validate a normalized terminal result and its 1 MiB canonical public-output bound. -/
def assertExecutionResult (value : JsonValue) : Except Failure Unit := do
  require value.isRecord (.error "Invalid execution result")
  let valid :=
    ((value.get? "status").any (stringIn ["succeeded"]) && value.exactKeys ["output", "status"]) ||
    ((value.get? "status").any (stringIn ["failed"]) && value.exactKeys ["failure", "status"] &&
      (value.get? "failure").any validFailure) ||
    ((value.get? "status").any (stringIn ["blocked", "cancelled"]) &&
      value.exactKeys ["reason", "status"] && (value.get? "reason").any isString)
  require (valid && decide (Json.byteLength value ≤ maxExecutionResultBytes))
    (.error "Invalid execution result")

/-- `typeof value === "number" && Number.isFinite(value) && value >= 0` -/
def nonnegativeNumber : JsonValue → Bool
  | .number value => !value.negative || value.digits == 0
  | _ => false

def nullOr (check : JsonValue → Bool) : JsonValue → Bool
  | .null => true
  | value => check value

def assertCommandReport (value : JsonValue) : Except Failure Unit :=
  require (value.isRecord &&
    value.exactKeys ["durationMs", "exitCode", "passed", "signal", "stderrBytes",
      "stderrTruncated", "stdoutBytes", "stdoutTruncated"] &&
    (value.get? "passed").any isBoolean &&
    (value.get? "exitCode").any (nullOr isSafeInteger) &&
    (value.get? "signal").any (nullOr isString) &&
    (value.get? "durationMs").any nonnegativeNumber &&
    (value.get? "stdoutBytes").any counter && (value.get? "stderrBytes").any counter &&
    (value.get? "stdoutTruncated").any isBoolean && (value.get? "stderrTruncated").any isBoolean)
    (.typeError "Invalid command report")

def assertFailure (value : JsonValue) : Except Failure Unit :=
  require (validFailure value) (.typeError "Invalid command failure")

/-- `Buffer.from(value, "base64").toString("base64") === value` -/
def canonicalBase64 : JsonValue → Bool
  | .string text => Base64.encode (Base64.decode text) == text
  | _ => false

/-- `if (value !== undefined) check(value)` -/
def ifPresent (value : Option JsonValue) (check : JsonValue → Except Failure Unit) :
    Except Failure Unit :=
  match value with
  | some value => check value
  | none => pure ()

/-- Validate a serialized command execution without accepting extra fields. -/
def assertSerializedCommandExecution (value : JsonValue) : Except Failure Unit := do
  require (value.isRecord && value.hasOnlyKeys ["output", "stderr", "stdout"] ["failure"] &&
    (value.get? "stdout").any isString && (value.get? "stderr").any isString)
    (.typeError "Invalid serialized command execution")
  assertCommandReport ((value.get? "output").getD .null)
  ifPresent (value.get? "failure") assertFailure
  require ((value.get? "stdout").any canonicalBase64 && (value.get? "stderr").any canonicalBase64)
    (.typeError "Invalid command output encoding")

def itemsOf : JsonValue → Option (List JsonValue)
  | .array items => some items
  | _ => none

/-- `values.forEach(check)` -/
def forEach (check : JsonValue → Except Failure Unit) : List JsonValue → Except Failure Unit
  | [] => pure ()
  | value :: rest => do
    check value
    forEach check rest

def validRuntimeEvent (value : JsonValue) : Bool :=
  observationValidator value && decide (Json.byteLength value ≤ executionPrivateRecordMaxBytes)

/-- Validate a normalized output frame from the isolated runtime host. -/
def assertRuntimeHostOutput (value : JsonValue) : Except Failure Unit := do
  require value.isRecord (.typeError "Invalid runtime-host output")
  let kind (text : String) := (value.get? "type").any (stringIn [text])
  if kind "event" && value.exactKeys ["event", "type"] then
    assertRuntimeEvent ((value.get? "event").getD .null)
    require (validRuntimeEvent ((value.get? "event").getD .null))
      (.rangeError "Runtime event exceeds 64 KiB")
  else if kind "runtime-result" && value.exactKeys ["result", "type"] then
    assertExecutionResult ((value.get? "result").getD .null)
  else if kind "command-result" && value.exactKeys ["result", "type"] then
    assertSerializedCommandExecution ((value.get? "result").getD .null)
  else .error (.typeError "Invalid runtime-host output")

/-- Validate exact terminal evidence produced by the private supervisor. -/
def assertExecutionTerminalRecord (value : JsonValue) : Except Failure Unit := do
  let result := (value.get? "result").getD .null
  require (value.isRecord &&
    value.exactKeys ["cleanup", "events", "executionId", "generation", "outcome", "result",
      "version"] &&
    (value.get? "version").any (stringIn [executionProtocolVersion]) &&
    (value.get? "executionId").any isString && (value.get? "generation").any isPositive &&
    (value.get? "outcome").any (stringIn ["succeeded", "failed", "blocked", "cancelled"]) &&
    (value.get? "cleanup").any (stringIn ["confirmed", "unknown"]) &&
    ((value.get? "events").bind itemsOf).any (fun events => decide (events.length ≤ 256)) &&
    result.isRecord && result.exactKeys ["kind", "value"])
    (.typeError "Invalid execution terminal record")
  forEach assertRuntimeEvent (((value.get? "events").bind itemsOf).getD [])
  let payload := (result.get? "value").getD .null
  if (result.get? "kind").any (stringIn ["runtime"]) then assertExecutionResult payload
  else if (result.get? "kind").any (stringIn ["command"]) then
    assertSerializedCommandExecution payload
  else .error (.typeError "Invalid execution terminal result kind")

end Anastom
