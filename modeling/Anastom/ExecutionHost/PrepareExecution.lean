import Anastom.Engine.DurableStore
import Anastom.Engine.Scheduling
import Anastom.ExecutionHost.Protocol

/-! The launch input of an execution, bound to its plan digest, and the checks that admit
it before any supervisor side effect. -/
namespace Anastom
open JsonValue

def maxExecutionRequestBytes : Nat := 4 * 1024 * 1024

def validString (s : String) : Bool := !s.isEmpty && !s.toList.contains (Char.ofNat 0)

def validWorkspace : WorkspaceRef → Bool
  | .memory id => validString id
  | .readonly id repoRoot path baseCommit => [id, repoRoot, path, baseCommit].all validString
  | .isolated id repoRoot path baseCommit branch =>
    [id, repoRoot, path, baseCommit, branch].all validString

def validBudget (budget : AttemptBudget) : Bool :=
  positive budget.maxAttempts && budget.maxDurationMs.all positive

def validCommand (command : CommandDefinition) : Bool :=
  !command.argv.isEmpty && command.argv.all validString &&
    !command.cwd.toList.contains (Char.ofNat 0) && positive command.maxDurationMs &&
    positive command.maxOutputBytes

def validArtifact (artifact : ArtifactRef) : Bool :=
  [artifact.id, artifact.type, artifact.mediaType, artifact.uri].all validString &&
    Text.digest artifact.digest && validString artifact.producer.runId &&
    validString artifact.producer.nodeId && positive artifact.producer.attempt

def validContextTask (task : ContextTask) : Bool :=
  [task.id, task.version, task.objective].all validString &&
    task.acceptanceCriteria.all validString

def validContext (context : ContextEnvelope) : Bool :=
  [context.runId, context.workflowInstanceId, context.nodeId].all validString &&
    positive context.attempt && validWorkspace context.workspace && validBudget context.budget &&
    context.verification.all validCommand && context.artifacts.all validArtifact &&
    context.role.all validString && context.task.all validContextTask

def ExecutionRequest.toJson (request : ExecutionRequest) : JsonValue :=
  .object ([("runId", .string request.runId),
      ("workflowInstanceId", .string request.workflowInstanceId),
      ("nodeId", .string request.nodeId), ("nodeKind", .string request.nodeKind.text),
      ("attempt", nat request.attempt)] ++ field "role" roleJson request.role ++
    [("workspace", request.workspace.toJson), ("context", request.context.toJson),
      ("budget", request.budget.toJson), ("requiredOutputSchema", request.requiredOutputSchema),
      ("toolPolicy", .object [("allowMutations", .bool request.allowMutations)])])

/-- Validate an exact persisted execution request. -/
def assertExecutionRequest (request : ExecutionRequest) : Except Failure Unit :=
  require ([request.runId, request.workflowInstanceId, request.nodeId].all validString &&
    positive request.attempt && validWorkspace request.workspace && validContext request.context &&
    validBudget request.budget && request.requiredOutputSchema.isRecord &&
    request.role.all validString &&
    decide (Json.byteLength request.toJson ≤ maxExecutionRequestBytes))
    (.error "Invalid persisted execution request")

def assertRuntimeDescriptor (descriptor : RuntimeDescriptor) : Except Failure Unit :=
  require descriptor.valid
    (.preflight .policyViolation "Runtime returned an invalid descriptor")

/-- The private launch input by the kind of execution. -/
inductive LaunchInput where
  | runtime (descriptor : RuntimeDescriptor) (request : ExecutionRequest)
  | command (definition : CommandDefinition) (workspace : WorkspaceRef)
  deriving DecidableEq, Repr

/-- Runtime or command launch input bound to a precomputed execution plan digest. -/
structure PrepareExecution where
  plan : ExecutionPlanRef
  coordinator : LocalProcessIdentity
  input : LaunchInput
  deriving DecidableEq, Repr

def LaunchInput.kind : LaunchInput → ExecutionKind
  | .runtime .. => .runtime
  | .command .. => .command

def LaunchInput.fields : LaunchInput → List (String × JsonValue)
  | .runtime descriptor request =>
    [("descriptor", descriptor.toJson), ("request", request.toJson)]
  | .command definition workspace =>
    [("command", definition.toJson), ("workspace", workspace.toJson)]

def PrepareExecution.toJson (value : PrepareExecution) : JsonValue :=
  .object ([("plan", value.plan.toJson), ("coordinator", value.coordinator.toJson)] ++
    value.input.fields)

def planDigestInput (value : PrepareExecution) : JsonValue :=
  .object ([("version", .string "anastom.dev/execution-plan/v1alpha1"),
      ("runId", .string value.plan.runId), ("executionId", .string value.plan.executionId),
      ("generation", nat value.plan.generation), ("coordinator", value.coordinator.toJson),
      ("kind", .string value.input.kind.text)] ++ value.input.fields)

def assertCommandDefinition (command : CommandDefinition) : Except Failure Unit :=
  require (!command.argv.isEmpty && command.argv.all validString &&
    !command.cwd.toList.contains (Char.ofNat 0) &&
    decide (1 ≤ command.maxDurationMs ∧ command.maxDurationMs ≤ 2147483647) &&
    decide (1 ≤ command.maxOutputBytes ∧ command.maxOutputBytes ≤ 16777216))
    (.typeError "Invalid command definition")

def filesystemWorkspace : WorkspaceRef → Bool
  | .memory _ => false
  | .readonly id repoRoot path baseCommit =>
    Text.identifier id && [repoRoot, path, baseCommit].all fun part => !part.isEmpty
  | .isolated id repoRoot path baseCommit branch =>
    Text.identifier id && [repoRoot, path, baseCommit, branch].all fun part => !part.isEmpty

def assertFilesystemWorkspace (workspace : WorkspaceRef) : Except Failure Unit :=
  require (filesystemWorkspace workspace)
    (.typeError "Command execution requires an exact filesystem workspace")

/-- The checks of a launch input that are particular to its kind. -/
def assertLaunchInput (plan : ExecutionPlanRef) : LaunchInput → Except Failure Unit
  | .runtime descriptor request => do
    require (plan.kind == .runtime) (.typeError "Execution kind and launch input disagree")
    assertRuntimeDescriptor descriptor
    assertExecutionRequest request
    require (request.runId == plan.runId)
      (.typeError "Execution request belongs to another run")
  | .command definition workspace => do
    require (plan.kind == .command) (.typeError "Execution kind and launch input disagree")
    assertCommandDefinition definition
    assertFilesystemWorkspace workspace

/-- Validate exact plan identity and recompute its digest before any supervisor side effect. -/
def assertPrepareExecution (hash : Hash) (value : PrepareExecution) : Except Failure Unit := do
  assertExecutionPlanRef value.plan
  assertLocalProcessIdentity value.coordinator
  assertLaunchInput value.plan value.input
  require (hash.digestJson (planDigestInput value) == value.plan.planDigest)
    (.typeError "Execution plan digest does not match its launch input")
  require (decide (Json.byteLength value.toJson ≤ 4 * 1024 * 1024))
    (.rangeError "Private execution launch exceeds 4 MiB")

end Anastom
