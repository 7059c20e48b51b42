import Anastom.Data.Keyed
import Anastom.Runtime.Contract

/-! Run events, the state they fold into, and the JSON form of both. -/
namespace Anastom

inductive RunStatus where
  | running | blocked | succeeded | failed | paused | cancelled | recoveryBlocked
  deriving DecidableEq, Repr

inductive AttemptStatus where
  | scheduled | prepared | running | orphaned | blocked | succeeded | failed | cancelled
  deriving DecidableEq, Repr

inductive ExecutionObservationReason where
  | invalidRecord | identityMismatch | bootMismatch | supervisorUnreachable | supervisorLost
  | cleanupUnconfirmed
  deriving DecidableEq, Repr

/-- Evidence that prevents recovery from claiming an execution is absent. -/
inductive RecoveryBlockReason where
  | executionUnknown (executionId : String) (detail : ExecutionObservationReason)
  | cleanupUnknown (executionId : String)
  deriving DecidableEq, Repr

/-- Typed operator or safety-policy evidence attached to pause transitions. -/
inductive PauseReason where
  | operator (operationId : String)
  | workspaceConflict (differences : List WorkspaceDifference)
  | attemptBudgetExhausted (nodeId : String) (attempts : Nat)
  | runtimeUnavailable (runtimeId : String)
  | policyViolation (runtimeId : String)
  deriving DecidableEq, Repr

inductive ControlAction where
  | pause | cancel
  deriving DecidableEq, Repr

inductive CleanupCause where
  | pause | cancel | timeout | recovery
  deriving DecidableEq, Repr

inductive CleanupOutcome where
  | confirmed | unknown
  deriving DecidableEq, Repr

inductive CancellationOutcome where
  | succeeded | failed | unavailable
  deriving DecidableEq, Repr

inductive OrphanReason where
  | coordinatorLost | launchInterrupted
  deriving DecidableEq, Repr

inductive ReadyReason where
  | dependenciesSatisfied | retry | resumed | recovered
  deriving DecidableEq, Repr

inductive RunOutcome where
  | succeeded | failed
  deriving DecidableEq, Repr

structure TimeoutState where
  cancellation : Option CancellationOutcome
  lateStatus : Option ResultStatus
  deriving DecidableEq, Repr

structure CleanupEvidence where
  executionId : String
  cause : CleanupCause
  outcome : CleanupOutcome
  deriving DecidableEq, Repr

structure OrphanRecord where
  executionId : String
  lostGeneration : Nat
  reason : OrphanReason
  workspaceObservation : WorkspaceCheckpoint
  workspaceDifferences : List WorkspaceDifference
  terminalArtifactId : Option String
  deriving DecidableEq, Repr

/-- Execution identity, result and diagnostics of one attempt. The source leaves
`identity` and `cleanup` absent until the first record; here they are empty. -/
structure AttemptState where
  number : Nat
  runtimeId : String
  status : AttemptStatus
  failure : Option ExecutionFailure := none
  identity : List RuntimeMetadata := []
  usage : Option RuntimeUsage := none
  timeout : Option TimeoutState := none
  executionPlan : Option ExecutionPlanRef := none
  execution : Option PersistedExecutionRef := none
  workspaceCheckpoint : Option WorkspaceCheckpoint := none
  cleanup : List CleanupEvidence := []
  orphan : Option OrphanRecord := none
  deriving DecidableEq, Repr

structure NodeRunState where
  id : String
  status : NodeStatus
  attempts : List AttemptState
  output : Option JsonValue := none
  failure : Option ExecutionFailure := none
  blockedReason : Option String := none
  command : Option CommandReport := none
  pauseReason : Option PauseReason := none
  deriving DecidableEq, Repr

structure RecoveryBlock where
  operationId : String
  reason : RecoveryBlockReason
  deriving DecidableEq, Repr

structure WorkspaceObservation where
  headCommit : String
  changedFiles : List String
  diffArtifactId : String
  deriving DecidableEq, Repr

instance : Keyed NodeRunState String := ⟨NodeRunState.id⟩

/-- The run's materialized view. `nodes` lists the node objects in the order of
`Object.values`; `artifacts` is empty where the source has no array yet. -/
structure RunState where
  runId : String
  workflowInstanceId : String
  workflowId : String
  workflowVersion : String
  status : RunStatus
  sequence : Nat
  inputs : List (String × JsonValue)
  nodes : List NodeRunState
  workspace : Option WorkspaceRef := none
  runtimeNegotiation : Option RuntimeNegotiation := none
  runtimeDescriptor : Option RuntimeDescriptor := none
  pauseReason : Option PauseReason := none
  recoveryBlock : Option RecoveryBlock := none
  artifacts : List ArtifactRef := []
  workspaceObservation : Option WorkspaceObservation := none
  deriving DecidableEq, Repr

inductive RunEventPayload where
  | runtimeNegotiated (negotiation : RuntimeNegotiation)
  | runtimeConfigured (descriptor : RuntimeDescriptor)
  | workspaceAssigned (workspace : WorkspaceRef)
  | artifactProduced (nodeId : String) (attempt : Nat) (artifact : ArtifactRef)
  | workspaceObserved (nodeId : String) (attempt : Nat) (headCommit : String)
      (changedFiles : List String) (diffArtifactId : String)
  | commandCompleted (nodeId : String) (attempt : Nat) (output : CommandReport)
  | attemptTimeoutRequested (nodeId : String) (attempt : Nat)
  | attemptCancellationCompleted (nodeId : String) (attempt : Nat)
      (outcome : CancellationOutcome)
  | lateResultObserved (nodeId : String) (attempt : Nat) (status : ResultStatus)
  | runCreated (workflowInstanceId workflowId workflowVersion : String) (nodeIds : List String)
      (inputs : List (String × JsonValue))
  | nodeReady (nodeId : String) (reason : ReadyReason)
  | attemptScheduled (nodeId : String) (attempt : Nat) (runtimeId : String)
  | attemptPrepared (nodeId : String) (attempt : Nat) (execution : ExecutionPlanRef)
      (workspaceCheckpoint : WorkspaceCheckpoint)
  | attemptStartAuthorized (nodeId : String) (attempt : Nat) (execution : PersistedExecutionRef)
  | attemptStarted (nodeId : String) (attempt : Nat)
  | runtimeEventObserved (nodeId : String) (attempt : Nat) (event : RuntimeEvent)
  | attemptSucceeded (nodeId : String) (attempt : Nat) (output : JsonValue)
  | attemptFailed (nodeId : String) (attempt : Nat) (failure : ExecutionFailure)
  | attemptBlocked (nodeId : String) (attempt : Nat) (reason : String)
  | attemptCancelled (nodeId : String) (attempt : Nat) (reason : String)
  | nodeSucceeded (nodeId : String)
  | nodeFailed (nodeId : String) (failure : ExecutionFailure)
  | nodeBlocked (nodeId : String) (reason : String)
  | attemptOrphaned (nodeId : String) (attempt : Nat) (record : OrphanRecord)
  | controlRequestObserved (operationId : String) (action : ControlAction) (recordedAtMs : Nat)
  | executionCleanupObserved (nodeId : String) (attempt : Nat) (evidence : CleanupEvidence)
  | nodePaused (nodeId : String) (reason : Option PauseReason)
  | nodeCancelled (nodeId : String) (reason : String)
  | runPaused (reason : Option PauseReason)
  | runResumed (operationId : Option String)
  | runRecoveryBlocked (operationId : String) (reason : RecoveryBlockReason)
  | runBlocked (reason : String)
  | runCancelled (operationId : Option String) (reason : String)
  | runCompleted (outcome : RunOutcome)
  deriving DecidableEq, Repr

/-- One monotonically sequenced event in a run's immutable history. -/
structure RunEvent where
  payload : RunEventPayload
  runId : String
  sequence : Nat
  deriving DecidableEq, Repr

def RunStatus.text : RunStatus → String
  | .running => "running"
  | .blocked => "blocked"
  | .succeeded => "succeeded"
  | .failed => "failed"
  | .paused => "paused"
  | .cancelled => "cancelled"
  | .recoveryBlocked => "recovery-blocked"

def AttemptStatus.text : AttemptStatus → String
  | .scheduled => "scheduled"
  | .prepared => "prepared"
  | .running => "running"
  | .orphaned => "orphaned"
  | .blocked => "blocked"
  | .succeeded => "succeeded"
  | .failed => "failed"
  | .cancelled => "cancelled"

def ExecutionObservationReason.text : ExecutionObservationReason → String
  | .invalidRecord => "invalid-record"
  | .identityMismatch => "identity-mismatch"
  | .bootMismatch => "boot-mismatch"
  | .supervisorUnreachable => "supervisor-unreachable"
  | .supervisorLost => "supervisor-lost"
  | .cleanupUnconfirmed => "cleanup-unconfirmed"

def ControlAction.text : ControlAction → String
  | .pause => "pause"
  | .cancel => "cancel"

/-- A cleanup performed for a control request names its action as the cause. -/
def ControlAction.cause : ControlAction → CleanupCause
  | .pause => .pause
  | .cancel => .cancel

def CleanupCause.text : CleanupCause → String
  | .pause => "pause"
  | .cancel => "cancel"
  | .timeout => "timeout"
  | .recovery => "recovery"

def CleanupOutcome.text : CleanupOutcome → String
  | .confirmed => "confirmed"
  | .unknown => "unknown"

def CancellationOutcome.text : CancellationOutcome → String
  | .succeeded => "succeeded"
  | .failed => "failed"
  | .unavailable => "unavailable"

def OrphanReason.text : OrphanReason → String
  | .coordinatorLost => "coordinator-lost"
  | .launchInterrupted => "launch-interrupted"

def ReadyReason.text : ReadyReason → String
  | .dependenciesSatisfied => "dependencies-satisfied"
  | .retry => "retry"
  | .resumed => "resumed"
  | .recovered => "recovered"

def RunOutcome.text : RunOutcome → String
  | .succeeded => "succeeded"
  | .failed => "failed"

def RecoveryBlockReason.executionId : RecoveryBlockReason → String
  | .executionUnknown executionId _ | .cleanupUnknown executionId => executionId

def RunEventPayload.type : RunEventPayload → String
  | .runtimeNegotiated .. => "RuntimeNegotiated"
  | .runtimeConfigured .. => "RuntimeConfigured"
  | .workspaceAssigned .. => "WorkspaceAssigned"
  | .artifactProduced .. => "ArtifactProduced"
  | .workspaceObserved .. => "WorkspaceObserved"
  | .commandCompleted .. => "CommandCompleted"
  | .attemptTimeoutRequested .. => "AttemptTimeoutRequested"
  | .attemptCancellationCompleted .. => "AttemptCancellationCompleted"
  | .lateResultObserved .. => "LateResultObserved"
  | .runCreated .. => "RunCreated"
  | .nodeReady .. => "NodeReady"
  | .attemptScheduled .. => "AttemptScheduled"
  | .attemptPrepared .. => "AttemptPrepared"
  | .attemptStartAuthorized .. => "AttemptStartAuthorized"
  | .attemptStarted .. => "AttemptStarted"
  | .runtimeEventObserved .. => "RuntimeEventObserved"
  | .attemptSucceeded .. => "AttemptSucceeded"
  | .attemptFailed .. => "AttemptFailed"
  | .attemptBlocked .. => "AttemptBlocked"
  | .attemptCancelled .. => "AttemptCancelled"
  | .nodeSucceeded .. => "NodeSucceeded"
  | .nodeFailed .. => "NodeFailed"
  | .nodeBlocked .. => "NodeBlocked"
  | .attemptOrphaned .. => "AttemptOrphaned"
  | .controlRequestObserved .. => "ControlRequestObserved"
  | .executionCleanupObserved .. => "ExecutionCleanupObserved"
  | .nodePaused .. => "NodePaused"
  | .nodeCancelled .. => "NodeCancelled"
  | .runPaused .. => "RunPaused"
  | .runResumed .. => "RunResumed"
  | .runRecoveryBlocked .. => "RunRecoveryBlocked"
  | .runBlocked .. => "RunBlocked"
  | .runCancelled .. => "RunCancelled"
  | .runCompleted .. => "RunCompleted"

open JsonValue

def RecoveryBlockReason.toJson : RecoveryBlockReason → JsonValue
  | .executionUnknown executionId detail =>
    .object [("kind", .string "execution-unknown"), ("executionId", .string executionId),
      ("detail", .string detail.text)]
  | .cleanupUnknown executionId =>
    .object [("kind", .string "cleanup-unknown"), ("executionId", .string executionId)]

def PauseReason.toJson : PauseReason → JsonValue
  | .operator operationId =>
    .object [("kind", .string "operator"), ("operationId", .string operationId)]
  | .workspaceConflict differences =>
    .object [("kind", .string "workspace-conflict"),
      ("differences", strings (differences.map WorkspaceDifference.text))]
  | .attemptBudgetExhausted nodeId attempts =>
    .object [("kind", .string "attempt-budget-exhausted"), ("nodeId", .string nodeId),
      ("attempts", nat attempts)]
  | .runtimeUnavailable runtimeId =>
    .object [("kind", .string "runtime-unavailable"), ("runtimeId", .string runtimeId)]
  | .policyViolation runtimeId =>
    .object [("kind", .string "policy-violation"), ("runtimeId", .string runtimeId)]

def TimeoutState.toJson (timeout : TimeoutState) : JsonValue :=
  .object (field "cancellation" (.string ·.text) timeout.cancellation ++
    field "lateStatus" (.string ·.text) timeout.lateStatus)

def CleanupEvidence.fields (evidence : CleanupEvidence) : List (String × JsonValue) :=
  [("executionId", .string evidence.executionId), ("cause", .string evidence.cause.text),
    ("outcome", .string evidence.outcome.text)]

def OrphanRecord.fields (record : OrphanRecord) : List (String × JsonValue) :=
  [("executionId", .string record.executionId), ("lostGeneration", nat record.lostGeneration),
    ("reason", .string record.reason.text),
    ("workspaceObservation", record.workspaceObservation.toJson),
    ("workspaceDifferences", strings (record.workspaceDifferences.map WorkspaceDifference.text))] ++
    field "terminalArtifactId" .string record.terminalArtifactId

/-- An array that the source creates with its first element. -/
def elements (key : String) (f : α → JsonValue) (values : List α) : List (String × JsonValue) :=
  if values.isEmpty then [] else [(key, .array (values.map f))]

def AttemptState.toJson (attempt : AttemptState) : JsonValue :=
  .object ([("number", nat attempt.number), ("runtimeId", .string attempt.runtimeId),
      ("status", .string attempt.status.text)] ++
    field "failure" ExecutionFailure.toJson attempt.failure ++
    elements "identity" RuntimeMetadata.toJson attempt.identity ++
    field "usage" RuntimeUsage.toJson attempt.usage ++
    field "timeout" TimeoutState.toJson attempt.timeout ++
    field "executionPlan" ExecutionPlanRef.toJson attempt.executionPlan ++
    field "execution" PersistedExecutionRef.toJson attempt.execution ++
    field "workspaceCheckpoint" WorkspaceCheckpoint.toJson attempt.workspaceCheckpoint ++
    elements "cleanup" (fun evidence => .object evidence.fields) attempt.cleanup ++
    field "orphan" (fun record => .object record.fields) attempt.orphan)

def NodeRunState.toJson (node : NodeRunState) : JsonValue :=
  .object ([("id", .string node.id), ("status", .string node.status.text),
      ("attempts", .array (node.attempts.map AttemptState.toJson))] ++
    optional "output" node.output ++ field "failure" ExecutionFailure.toJson node.failure ++
    field "blockedReason" .string node.blockedReason ++
    field "command" CommandReport.toJson node.command ++
    field "pauseReason" PauseReason.toJson node.pauseReason)

def RunState.toJson (state : RunState) : JsonValue :=
  .object ([("runId", .string state.runId),
      ("workflowInstanceId", .string state.workflowInstanceId),
      ("workflowId", .string state.workflowId),
      ("workflowVersion", .string state.workflowVersion), ("status", .string state.status.text),
      ("sequence", nat state.sequence), ("inputs", .object state.inputs),
      ("nodes", .object (state.nodes.map fun node => (node.id, node.toJson)))] ++
    field "workspace" WorkspaceRef.toJson state.workspace ++
    field "runtimeNegotiation" RuntimeNegotiation.toJson state.runtimeNegotiation ++
    field "runtimeDescriptor" RuntimeDescriptor.toJson state.runtimeDescriptor ++
    field "pauseReason" PauseReason.toJson state.pauseReason ++
    field "recoveryBlock" (fun block => .object [("operationId", .string block.operationId),
      ("reason", block.reason.toJson)]) state.recoveryBlock ++
    elements "artifacts" ArtifactRef.toJson state.artifacts ++
    field "workspaceObservation" (fun observation =>
      .object [("headCommit", .string observation.headCommit),
        ("changedFiles", strings observation.changedFiles),
        ("diffArtifactId", .string observation.diffArtifactId)]) state.workspaceObservation)

def attemptFields (nodeId : String) (attempt : Nat) : List (String × JsonValue) :=
  [("nodeId", .string nodeId), ("attempt", nat attempt)]

def RunEventPayload.fields : RunEventPayload → List (String × JsonValue)
  | .runtimeNegotiated negotiation => [("negotiation", negotiation.toJson)]
  | .runtimeConfigured descriptor => [("descriptor", descriptor.toJson)]
  | .workspaceAssigned workspace => [("workspace", workspace.toJson)]
  | .artifactProduced nodeId attempt artifact =>
    attemptFields nodeId attempt ++ [("artifact", artifact.toJson)]
  | .workspaceObserved nodeId attempt headCommit changedFiles diffArtifactId =>
    attemptFields nodeId attempt ++ [("headCommit", .string headCommit),
      ("changedFiles", strings changedFiles), ("diffArtifactId", .string diffArtifactId)]
  | .commandCompleted nodeId attempt output =>
    attemptFields nodeId attempt ++ [("output", output.toJson)]
  | .attemptTimeoutRequested nodeId attempt | .attemptStarted nodeId attempt =>
    attemptFields nodeId attempt
  | .attemptCancellationCompleted nodeId attempt outcome =>
    attemptFields nodeId attempt ++ [("outcome", .string outcome.text)]
  | .lateResultObserved nodeId attempt status =>
    attemptFields nodeId attempt ++ [("status", .string status.text)]
  | .runCreated workflowInstanceId workflowId workflowVersion nodeIds inputs =>
    [("workflowInstanceId", .string workflowInstanceId), ("workflowId", .string workflowId),
      ("workflowVersion", .string workflowVersion), ("nodeIds", strings nodeIds),
      ("inputs", .object inputs)]
  | .nodeReady nodeId reason => [("nodeId", .string nodeId), ("reason", .string reason.text)]
  | .attemptScheduled nodeId attempt runtimeId =>
    attemptFields nodeId attempt ++ [("runtimeId", .string runtimeId)]
  | .attemptPrepared nodeId attempt execution workspaceCheckpoint =>
    attemptFields nodeId attempt ++ [("execution", execution.toJson),
      ("workspaceCheckpoint", workspaceCheckpoint.toJson)]
  | .attemptStartAuthorized nodeId attempt execution =>
    attemptFields nodeId attempt ++ [("execution", execution.toJson)]
  | .runtimeEventObserved nodeId attempt event =>
    attemptFields nodeId attempt ++ [("event", event.toJson)]
  | .attemptSucceeded nodeId attempt output =>
    attemptFields nodeId attempt ++ [("output", output)]
  | .attemptFailed nodeId attempt failure =>
    attemptFields nodeId attempt ++ [("failure", failure.toJson)]
  | .attemptBlocked nodeId attempt reason | .attemptCancelled nodeId attempt reason =>
    attemptFields nodeId attempt ++ [("reason", .string reason)]
  | .nodeSucceeded nodeId => [("nodeId", .string nodeId)]
  | .nodeFailed nodeId failure => [("nodeId", .string nodeId), ("failure", failure.toJson)]
  | .nodeBlocked nodeId reason | .nodeCancelled nodeId reason =>
    [("nodeId", .string nodeId), ("reason", .string reason)]
  | .attemptOrphaned nodeId attempt record => attemptFields nodeId attempt ++ record.fields
  | .controlRequestObserved operationId action recordedAtMs =>
    [("operationId", .string operationId), ("action", .string action.text),
      ("recordedAtMs", nat recordedAtMs)]
  | .executionCleanupObserved nodeId attempt evidence =>
    attemptFields nodeId attempt ++ evidence.fields
  | .nodePaused nodeId reason =>
    ("nodeId", .string nodeId) :: field "reason" PauseReason.toJson reason
  | .runPaused reason => field "reason" PauseReason.toJson reason
  | .runResumed operationId => field "operationId" .string operationId
  | .runRecoveryBlocked operationId reason =>
    [("operationId", .string operationId), ("reason", reason.toJson)]
  | .runBlocked reason => [("reason", .string reason)]
  | .runCancelled operationId reason =>
    field "operationId" .string operationId ++ [("reason", .string reason)]
  | .runCompleted outcome => [("outcome", .string outcome.text)]

def RunEvent.toJson (event : RunEvent) : JsonValue :=
  .object (("type", .string event.payload.type) :: event.payload.fields ++
    [("runId", .string event.runId), ("sequence", nat event.sequence)])

/-- The payload read back from its text: only carried JSON can hold a signed zero. -/
def RunEventPayload.parsed : RunEventPayload → RunEventPayload
  | .runCreated workflowInstanceId workflowId workflowVersion nodeIds inputs =>
    .runCreated workflowInstanceId workflowId workflowVersion nodeIds (parsedFields inputs)
  | .runtimeConfigured descriptor =>
    .runtimeConfigured { descriptor with configuration := parsedFields descriptor.configuration }
  | .attemptSucceeded nodeId attempt output => .attemptSucceeded nodeId attempt output.parsed
  | .commandCompleted nodeId attempt output =>
    .commandCompleted nodeId attempt { output with durationMs := output.durationMs.parsed }
  | payload => payload

def RunEvent.parsed (event : RunEvent) : RunEvent := { event with payload := event.payload.parsed }

end Anastom
