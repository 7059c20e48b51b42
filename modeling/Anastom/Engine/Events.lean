import Anastom.Engine.EventValidation

/-! The reducer that folds run events into state, and the two ways to run it: over
a stored history, and over payloads that are about to be committed. -/
namespace Anastom

namespace Js

/-- An array index: the canonical decimal of a number below 2^32 - 1. -/
def arrayIndex? (key : String) : Option Nat :=
  let digits := key.toList
  let value := digits.foldl (fun n c => n * 10 + (c.toNat - '0'.toNat)) 0
  if !digits.isEmpty && digits.all Char.isDigit && decide (Nat.toDigits 10 value = digits) &&
      decide (value < 4294967295) then some value else none

/-- Property order of an object: array indices ascending, then the other keys in
insertion order. -/
def objectKeys (keys : List String) : List String :=
  let indexed := keys.filter fun key => (arrayIndex? key).isSome
  (indexed.insertionSort fun a b => decide ((arrayIndex? a).getD 0 ≤ (arrayIndex? b).getD 0)) ++
    keys.filter fun key => (arrayIndex? key).isNone

end Js

def NodeRunState.current (node : NodeRunState) : Option AttemptState := node.attempts.getLast?

/-- Rewrite `node.attempts.at(-1)`. -/
def NodeRunState.updateCurrent (node : NodeRunState) (f : AttemptState → AttemptState) :
    NodeRunState :=
  { node with attempts := node.attempts.dropLast ++ (node.attempts.getLast?.map f).toList }

def RunState.node? (state : RunState) (nodeId : String) : Option NodeRunState :=
  Keyed.find state.nodes nodeId

def RunState.updateNode (state : RunState) (nodeId : String)
    (f : NodeRunState → NodeRunState) : RunState :=
  { state with nodes := Keyed.modify state.nodes nodeId f }

def RunStatus.terminal (status : RunStatus) : Bool :=
  [.succeeded, .failed, .cancelled].contains status

def requireNode (state : RunState) (nodeId : String) : Except Failure NodeRunState :=
  requireSome (state.node? nodeId)
    (.invalidTransition ("Unknown node " ++ String.ofList (Json.stringChars nodeId)))

def requireNodeStatus (node : NodeRunState) (eventType : String) (allowed : List NodeStatus) :
    Except Failure Unit :=
  require (allowed.contains node.status)
    (.invalidTransition (eventType ++ " is invalid for node " ++ node.id ++ " in " ++
      node.status.text ++ " state"))

def requireCurrentAttempt (node : NodeRunState) (attempt : Nat) (status : AttemptStatus) :
    Except Failure AttemptState :=
  requireSome (node.current.filter fun current =>
      current.number == attempt && current.status == status)
    (.invalidTransition ("Attempt " ++ toString attempt ++ " for node " ++ node.id ++
      " must be the current " ++ status.text ++ " attempt"))

def checkCurrentAttempt (node : NodeRunState) (attempt : Nat) (status : AttemptStatus) :
    Except Failure Unit :=
  (requireCurrentAttempt node attempt status).map fun _ => ()

/-- Whether the current attempt has one of the given statuses. -/
def NodeRunState.currentStatusIn (node : NodeRunState) (statuses : List AttemptStatus) : Bool :=
  node.current.any fun attempt => statuses.contains attempt.status

/-- An artifact recorded in the state under an id, by any producer. -/
def RunState.hasArtifact (state : RunState) (artifactId : String) : Bool :=
  state.artifacts.any fun artifact => artifact.id == artifactId

/-- A diff artifact of this run's own attempt, when the checkpoint names one. -/
def RunState.checkpointArtifactRecorded (state : RunState) (nodeId : String) (attempt : Nat)
    (checkpoint : WorkspaceCheckpoint) : Bool :=
  checkpoint.diffArtifactId.all fun diffArtifactId =>
    diffArtifactId.isEmpty || state.artifacts.any fun artifact =>
      artifact.id == diffArtifactId &&
        decide (artifact.producer = { runId := state.runId, nodeId, attempt })

/-- Keep mutable controls out of state while retaining execution-cleanup evidence. -/
def applyOperationalEvent (state : RunState) : RunEventPayload → Except Failure RunState
  | .executionCleanupObserved nodeId number evidence => do
    let node ← requireNode state nodeId
    let attempt ← requireSome (node.current.filter fun attempt => attempt.number == number &&
        [AttemptStatus.prepared, .running, .orphaned].contains attempt.status &&
        attempt.executionPlan.any fun plan => plan.executionId == evidence.executionId)
      (.invalidTransition "Cleanup evidence must identify the current owned execution")
    require (!attempt.cleanup.any fun item =>
        item.executionId == evidence.executionId && item.cause == evidence.cause)
      (.invalidTransition "Cleanup evidence was already recorded for this cause")
    pure (state.updateNode nodeId (·.updateCurrent fun attempt =>
      { attempt with cleanup := attempt.cleanup ++ [evidence] }))
  | _ => pure state

/-- Apply observation transitions after run identity and sequence checks. -/
def applyObservationEvent (state : RunState) : RunEventPayload → Except Failure RunState
  | .workspaceAssigned workspace => do
    require (state.status == .running && state.workspace.isNone)
      (.invalidTransition "Workspace can only be assigned once to a running run")
    pure { state with workspace := some workspace }
  | .artifactProduced nodeId number artifact => do
    let node ← requireNode state nodeId
    requireNodeStatus node "ArtifactProduced" [.ready, .running]
    if node.status = .running then checkCurrentAttempt node number .running
    else
      require (node.current.any fun attempt => attempt.number == number &&
          [AttemptStatus.scheduled, .prepared].contains attempt.status)
        (.invalidTransition
          "Pre-start artifact evidence must identify the current scheduled attempt")
    require (decide (artifact.producer = { runId := state.runId, nodeId, attempt := number }))
      (.invalidTransition "Artifact producer mismatch")
    pure { state with artifacts := state.artifacts ++ [artifact] }
  | .workspaceObserved nodeId number headCommit changedFiles diffArtifactId => do
    let node ← requireNode state nodeId
    checkCurrentAttempt node number .running
    require (state.hasArtifact diffArtifactId)
      (.invalidTransition "Workspace diff artifact is missing")
    pure { state with
      workspaceObservation := some { headCommit, changedFiles, diffArtifactId } }
  | .commandCompleted nodeId number output => do
    let node ← requireNode state nodeId
    checkCurrentAttempt node number .running
    pure (state.updateNode nodeId fun node => { node with command := some output })
  | _ => pure state

/-- Apply timeout transitions after run identity and sequence checks. -/
def applyTimeoutEvent (state : RunState) : RunEventPayload → Except Failure RunState
  | .attemptTimeoutRequested nodeId number => do
    let node ← requireNode state nodeId
    requireNodeStatus node "AttemptTimeoutRequested" [.running]
    let attempt ← requireCurrentAttempt node number .running
    require attempt.timeout.isNone
      (.invalidTransition "Attempt timeout was already requested")
    pure (state.updateNode nodeId (·.updateCurrent fun attempt =>
      { attempt with timeout := some { cancellation := none, lateStatus := none } }))
  | .attemptCancellationCompleted nodeId number outcome => do
    let node ← requireNode state nodeId
    let attempt ← requireCurrentAttempt node number .running
    require (attempt.timeout.any fun timeout => timeout.cancellation.isNone)
      (.invalidTransition "Cancellation requires one pending timeout")
    pure (state.updateNode nodeId (·.updateCurrent fun attempt => { attempt with
      timeout := attempt.timeout.map fun timeout => { timeout with cancellation := some outcome } }))
  | .lateResultObserved nodeId number status => do
    let node ← requireNode state nodeId
    let attempt ← requireCurrentAttempt node number .running
    require (attempt.timeout.any fun timeout =>
        timeout.cancellation.isSome && timeout.lateStatus.isNone)
      (.invalidTransition "Late result requires completed timeout cancellation")
    pure (state.updateNode nodeId (·.updateCurrent fun attempt => { attempt with
      timeout := attempt.timeout.map fun timeout => { timeout with lateStatus := some status } }))
  | _ => pure state

def applyAttemptPrepared (state : RunState) (nodeId : String) (number : Nat)
    (execution : ExecutionPlanRef) (workspaceCheckpoint : WorkspaceCheckpoint) :
    Except Failure RunState := do
  let node ← requireNode state nodeId
  requireNodeStatus node "AttemptPrepared" [.ready]
  let attempt ← requireCurrentAttempt node number .scheduled
  let expectedKind := if attempt.runtimeId = "command" then ExecutionKind.command else .runtime
  require (execution.runId == state.runId && decide (1 ≤ execution.generation) &&
      state.workspace.all (fun workspace => workspaceCheckpoint.workspaceId == workspace.id) &&
      execution.kind == expectedKind)
    (.invalidTransition "Prepared attempt evidence does not match the run")
  require (expectedKind != .runtime ||
      state.runtimeDescriptor.any fun descriptor => descriptor.runtimeId == attempt.runtimeId)
    (.invalidTransition "Prepared attempt runtime does not match its descriptor")
  require (state.checkpointArtifactRecorded nodeId number workspaceCheckpoint)
    (.invalidTransition "Prepared workspace diff artifact is missing")
  pure (state.updateNode nodeId (·.updateCurrent fun attempt => { attempt with
    status := .prepared, executionPlan := some execution,
    workspaceCheckpoint := some workspaceCheckpoint }))

def applyAttemptStartAuthorized (state : RunState) (nodeId : String) (number : Nat)
    (execution : PersistedExecutionRef) : Except Failure RunState := do
  let node ← requireNode state nodeId
  requireNodeStatus node "AttemptStartAuthorized" [.ready]
  let attempt ← requireCurrentAttempt node number .prepared
  require (attempt.executionPlan == some execution.toExecutionPlanRef)
    (.invalidTransition "Authorized execution does not match its prepared plan")
  pure (state.updateNode nodeId fun node =>
    { node.updateCurrent fun attempt =>
        { attempt with status := .running, execution := some execution } with status := .running })

def applyAttemptOrphaned (state : RunState) (nodeId : String) (number : Nat)
    (record : OrphanRecord) : Except Failure RunState := do
  let node ← requireNode state nodeId
  requireNodeStatus node "AttemptOrphaned" [.ready, .running]
  require (node.current.any fun attempt => attempt.number == number &&
      [AttemptStatus.prepared, .running].contains attempt.status &&
      attempt.executionPlan.any fun plan =>
        plan.executionId == record.executionId && plan.generation == record.lostGeneration)
    (.invalidTransition "Orphan evidence must identify the latest owned attempt")
  require (record.terminalArtifactId.all fun id => id.isEmpty || state.hasArtifact id)
    (.invalidTransition "Orphan terminal artifact is missing")
  require (state.checkpointArtifactRecorded nodeId number record.workspaceObservation)
    (.invalidTransition "Orphan workspace diff artifact is missing")
  pure (state.updateNode nodeId fun node =>
    { node.updateCurrent fun attempt =>
        { attempt with status := .orphaned, orphan := some record } with status := .running })

/-- Whether another attempt may be scheduled for the selected runtime. -/
def scheduledRuntimeMatches (state : RunState) (runtimeId : String) : Bool :=
  runtimeId == "command" ||
    state.runtimeDescriptor.all fun descriptor => descriptor.runtimeId == runtimeId

/-- Apply attempt transitions after run identity and sequence checks. -/
def applyAttemptEvent (state : RunState) : RunEventPayload → Except Failure RunState
  | .attemptPrepared nodeId number execution workspaceCheckpoint =>
    applyAttemptPrepared state nodeId number execution workspaceCheckpoint
  | .attemptStartAuthorized nodeId number execution =>
    applyAttemptStartAuthorized state nodeId number execution
  | .attemptOrphaned nodeId number record => applyAttemptOrphaned state nodeId number record
  | .attemptScheduled nodeId number runtimeId => do
    let node ← requireNode state nodeId
    requireNodeStatus node "AttemptScheduled" [.ready]
    require (number == node.attempts.length + 1)
      (.invalidTransition ("Expected attempt " ++ toString (node.attempts.length + 1) ++
        " for node " ++ node.id))
    require (scheduledRuntimeMatches state runtimeId)
      (.invalidTransition "Scheduled runtime does not match its descriptor")
    pure (state.updateNode nodeId fun node => { node with
      attempts := node.attempts ++ [{ number, runtimeId, status := .scheduled }] })
  | .attemptStarted nodeId number => do
    let node ← requireNode state nodeId
    requireNodeStatus node "AttemptStarted" [.ready]
    require state.runtimeDescriptor.isNone
      (.invalidTransition "A configured durable runtime requires prepared start authorization")
    checkCurrentAttempt node number .scheduled
    pure (state.updateNode nodeId fun node =>
      { node.updateCurrent fun attempt => { attempt with status := .running } with
        status := .running })
  | .runtimeEventObserved nodeId number event => do
    let node ← requireNode state nodeId
    requireNodeStatus node "RuntimeEventObserved" [.running]
    let attempt ← requireCurrentAttempt node number .running
    match event with
    | .usage value => do
      require attempt.usage.isNone
        (.invalidTransition "An attempt may have only one final usage observation")
      pure (state.updateNode nodeId (·.updateCurrent fun attempt =>
        { attempt with usage := some value }))
    | .metadata value =>
      pure (state.updateNode nodeId (·.updateCurrent fun attempt =>
        { attempt with identity := attempt.identity ++ [value] }))
    | .started | .log _ _ | .completed _ => pure state
  | .attemptSucceeded nodeId number output => do
    let node ← requireNode state nodeId
    requireNodeStatus node "AttemptSucceeded" [.running]
    let attempt ← requireCurrentAttempt node number .running
    require attempt.timeout.isNone (.invalidTransition "A timed-out attempt cannot succeed")
    pure (state.updateNode nodeId fun node =>
      { node.updateCurrent fun attempt => { attempt with status := .succeeded } with
        output := some output, failure := none })
  | .attemptFailed nodeId number failure => do
    let node ← requireNode state nodeId
    requireNodeStatus node "AttemptFailed" [.running]
    let attempt ← requireCurrentAttempt node number .running
    require (attempt.timeout.all fun timeout =>
        failure.category == .budgetExhausted && timeout.cancellation.isSome)
      (.invalidTransition
        "A timed-out attempt requires completed cancellation and a budget failure")
    pure (state.updateNode nodeId fun node =>
      { node.updateCurrent fun attempt =>
          { attempt with status := .failed, failure := some failure } with
        failure := some failure })
  | .attemptBlocked nodeId number _ => do
    let node ← requireNode state nodeId
    requireNodeStatus node "AttemptBlocked" [.running]
    let attempt ← requireCurrentAttempt node number .running
    require attempt.timeout.isNone
      (.invalidTransition "A timed-out attempt cannot become blocked")
    pure (state.updateNode nodeId (·.updateCurrent fun attempt =>
      { attempt with status := .blocked }))
  | .attemptCancelled nodeId number _ => do
    let node ← requireNode state nodeId
    requireNodeStatus node "AttemptCancelled" [.running]
    let attempt ← requireCurrentAttempt node number .running
    require attempt.timeout.isNone
      (.invalidTransition "A timed-out attempt must record a budget failure")
    pure (state.updateNode nodeId (·.updateCurrent fun attempt =>
      { attempt with status := .cancelled }))
  | _ => pure state

def ReadyReason.allowed : ReadyReason → List NodeStatus
  | .retry | .recovered => [.running]
  | .resumed => [.paused]
  | .dependenciesSatisfied => [.pending]

/-- Apply node transitions after run identity and sequence checks. -/
def applyNodeEvent (state : RunState) : RunEventPayload → Except Failure RunState
  | .nodeReady nodeId reason => do
    let node ← requireNode state nodeId
    requireNodeStatus node "NodeReady" reason.allowed
    require (reason != .retry || node.currentStatusIn [.failed])
      (.invalidTransition ("Node " ++ node.id ++ " cannot retry without a failed attempt"))
    require (reason != .recovered || node.currentStatusIn [.orphaned])
      (.invalidTransition ("Node " ++ node.id ++ " cannot recover without an orphaned attempt"))
    pure (state.updateNode nodeId fun node => { node with status := .ready, pauseReason := none })
  | .nodeSucceeded nodeId => do
    let node ← requireNode state nodeId
    requireNodeStatus node "NodeSucceeded" [.running]
    checkCurrentAttempt node node.attempts.length .succeeded
    pure (state.updateNode nodeId fun node => { node with status := .succeeded })
  | .nodeFailed nodeId failure => do
    let node ← requireNode state nodeId
    requireNodeStatus node "NodeFailed" [.running]
    checkCurrentAttempt node node.attempts.length .failed
    pure (state.updateNode nodeId fun node =>
      { node with status := .failed, failure := some failure })
  | .nodeBlocked nodeId reason => do
    let node ← requireNode state nodeId
    requireNodeStatus node "NodeBlocked" [.pending, .ready, .running]
    if node.status = .running then checkCurrentAttempt node node.attempts.length .blocked
    pure (state.updateNode nodeId fun node =>
      { node with status := .blocked, blockedReason := some reason })
  | .nodePaused nodeId (some reason) => do
    let node ← requireNode state nodeId
    requireNodeStatus node "NodePaused" [.pending, .ready, .running]
    require (node.status != .running || node.currentStatusIn [.cancelled, .orphaned])
      (.invalidTransition "A running node can pause only after cancellation or orphaning")
    pure (state.updateNode nodeId fun node =>
      { node with status := .paused, pauseReason := some reason })
  | .nodePaused nodeId none => do
    let node ← requireNode state nodeId
    requireNodeStatus node "NodePaused" [.pending, .ready]
    pure (state.updateNode nodeId fun node => { node with status := .paused })
  | .nodeCancelled nodeId reason => do
    let node ← requireNode state nodeId
    requireNodeStatus node "NodeCancelled" [.pending, .ready, .running, .blocked, .paused]
    require (node.status != .running || node.currentStatusIn [.cancelled, .orphaned])
      (.invalidTransition
        "A running node can cancel only after attempt cancellation or orphaning")
    pure (state.updateNode nodeId fun node =>
      { node with status := .cancelled, blockedReason := some reason })
  | _ => pure state

def statusFailure (eventType : String) (state : RunState) : Failure :=
  .invalidTransition (eventType ++ " is invalid in " ++ state.status.text ++ " state")

def applyRunPaused (state : RunState) (reason : Option PauseReason) : Except Failure RunState := do
  require (state.status == .running || (reason.isSome && state.status == .recoveryBlocked))
    (statusFailure "RunPaused" state)
  require (reason.isNone || state.nodes.all fun node => node.status != .running)
    (.invalidTransition
      "A durable pause requires every active node to stop before the run pauses")
  pure { state with status := .paused, pauseReason := reason.or state.pauseReason }

/-- An attempt that recovery still has to resolve before a blocked run resumes. -/
def NodeRunState.affected (node : NodeRunState) : Bool :=
  node.currentStatusIn [.prepared, .running] ||
    (node.currentStatusIn [.orphaned] && node.status != .ready && node.status != .paused)

def applyRunResumed (state : RunState) (operationId : Option String) :
    Except Failure RunState := do
  require (state.status == .paused || (operationId.isSome && state.status == .recoveryBlocked))
    (statusFailure "RunResumed" state)
  require (state.status != .recoveryBlocked || state.nodes.all fun node => !node.affected)
    (.invalidTransition
      "Recovery must make every affected attempt schedulable or paused before resuming")
  pure { state with status := .running, pauseReason := none, recoveryBlock := none }

/-- The first current attempt that owns an execution. -/
def RunState.attemptOfExecution (state : RunState) (executionId : String) : Option AttemptState :=
  (state.nodes.filterMap NodeRunState.current).find? fun attempt =>
    attempt.executionPlan.any fun plan => plan.executionId == executionId

def applyRunRecoveryBlocked (state : RunState) (operationId : String)
    (reason : RecoveryBlockReason) : Except Failure RunState := do
  require ([RunStatus.running, .paused, .recoveryBlocked].contains state.status)
    (statusFailure "RunRecoveryBlocked" state)
  let attempt ← requireSome (state.attemptOfExecution reason.executionId)
    (.invalidTransition "Recovery block does not match an owned execution")
  require (match reason with
      | .cleanupUnknown executionId => attempt.cleanup.any fun evidence =>
          evidence.executionId == executionId && evidence.outcome == .unknown
      | .executionUnknown .. => true)
    (.invalidTransition "Cleanup recovery block requires unknown cleanup evidence")
  pure { state with status := .recoveryBlocked, recoveryBlock := some { operationId, reason } }

/-- Apply lifecycle transitions after run identity and sequence checks. -/
def applyLifecycleEvent (state : RunState) : RunEventPayload → Except Failure RunState
  | .runPaused reason => applyRunPaused state reason
  | .runResumed operationId => applyRunResumed state operationId
  | .runRecoveryBlocked operationId reason => applyRunRecoveryBlocked state operationId reason
  | .runBlocked _ => do
    require (state.status == .running) (statusFailure "RunBlocked" state)
    pure { state with status := .blocked }
  | .runCancelled operationId _ => do
    require ([RunStatus.running, .blocked, .paused, .recoveryBlocked].contains state.status)
      (statusFailure "RunCancelled" state)
    require (operationId.isNone || state.nodes.all fun node =>
        [NodeStatus.succeeded, .failed, .cancelled].contains node.status)
      (.invalidTransition "Durable cancellation requires every nonterminal node to be cancelled")
    pure { state with status := .cancelled }
  | .runCompleted outcome => do
    require (state.status == .running) (statusFailure "RunCompleted" state)
    require (outcome != .succeeded || state.nodes.all fun node => node.status == .succeeded)
      (.invalidTransition "A run cannot succeed before every node succeeds")
    require (outcome != .failed || state.nodes.any fun node => node.status == .failed)
      (.invalidTransition "A run cannot fail without a failed node")
    pure { state with
      status := match outcome with | .succeeded => .succeeded | .failed => .failed }
  | _ => pure state

def applyConfigurationEvent (state : RunState) : RunEventPayload → Except Failure RunState
  | .runtimeConfigured descriptor => do
    require (state.runtimeDescriptor.isNone && state.nodes.all fun node => node.attempts.isEmpty)
      (.invalidTransition "Runtime configuration must occur once before attempts")
    require (state.runtimeNegotiation.all fun negotiation =>
        negotiation.runtimeId == descriptor.runtimeId)
      (.invalidTransition "Runtime configuration does not match negotiation")
    pure { state with runtimeDescriptor := some descriptor }
  | .runtimeNegotiated negotiation => do
    require (state.runtimeNegotiation.isNone && state.nodes.all fun node => node.attempts.isEmpty)
      (.invalidTransition "Runtime negotiation must occur once before attempts")
    require (state.runtimeDescriptor.all fun descriptor =>
        descriptor.runtimeId == negotiation.runtimeId)
      (.invalidTransition "Runtime negotiation does not match configuration")
    pure { state with runtimeNegotiation := some negotiation }
  | _ => pure state

/-- The dispatch of `applyRunEvent` over an accepted run identity and sequence. -/
def applyPayload (state : RunState) (payload : RunEventPayload) : Except Failure RunState :=
  match payload with
  | .runtimeConfigured .. | .runtimeNegotiated .. => applyConfigurationEvent state payload
  | .workspaceAssigned .. | .artifactProduced .. | .workspaceObserved .. | .commandCompleted .. =>
    applyObservationEvent state payload
  | .attemptTimeoutRequested .. | .attemptCancellationCompleted .. | .lateResultObserved .. =>
    applyTimeoutEvent state payload
  | .controlRequestObserved .. | .executionCleanupObserved .. =>
    applyOperationalEvent state payload
  | .attemptScheduled .. | .attemptPrepared .. | .attemptStartAuthorized .. | .attemptStarted ..
  | .runtimeEventObserved .. | .attemptSucceeded .. | .attemptFailed .. | .attemptBlocked ..
  | .attemptCancelled .. | .attemptOrphaned .. => applyAttemptEvent state payload
  | .nodeReady .. | .nodeSucceeded .. | .nodeFailed .. | .nodeBlocked .. | .nodePaused ..
  | .nodeCancelled .. => applyNodeEvent state payload
  | .runPaused .. | .runResumed .. | .runBlocked .. | .runCancelled .. | .runCompleted ..
  | .runRecoveryBlocked .. => applyLifecycleEvent state payload
  | .runCreated .. => .error (.invalidTransition "RunCreated can only be the first event")

/-- The state that the first event of a history creates. -/
def createdState (event : RunEvent) : RunEventPayload → Except Failure RunState
  | .runCreated workflowInstanceId workflowId workflowVersion nodeIds inputs => do
    require (event.sequence == 1)
      (.invalidTransition "The first event must be RunCreated at sequence 1")
    pure { runId := event.runId, workflowInstanceId, workflowId, workflowVersion,
           status := .running, sequence := event.sequence, inputs,
           nodes := (Js.objectKeys nodeIds).map fun id => { id, status := .pending, attempts := [] } }
  | _ => .error (.invalidTransition "The first event must be RunCreated at sequence 1")

/-- A payload other than the creation, which only opens a history. -/
def RunEventPayload.continues : RunEventPayload → Bool
  | .runCreated .. => false
  | _ => true

/-- Validate and apply one event, enforcing sequence and transition invariants. -/
def applyRunEvent (current : Option RunState) (event : RunEvent) : Except Failure RunState := do
  assertRunEvent event
  match current with
  | none => createdState event event.payload
  | some state => do
    require (event.runId == state.runId)
      (.invalidTransition "Event runId does not match state")
    require (event.sequence == state.sequence + 1)
      (.invalidTransition ("Expected event sequence " ++ toString (state.sequence + 1) ++
        ", received " ++ toString event.sequence))
    require event.payload.continues
      (.invalidTransition "RunCreated can only be the first event")
    require (!state.status.terminal)
      (.invalidTransition "A terminal run cannot accept more events")
    applyPayload { state with sequence := event.sequence } event.payload

def foldEvents (current : Option RunState) : List RunEvent → Except Failure (Option RunState)
  | [] => .ok current
  | event :: rest => do
    let state ← applyRunEvent current event
    foldEvents (some state) rest

/-- Rebuild state from a complete contiguous event history. -/
def replayRun (events : List RunEvent) : Except Failure RunState := do
  let state ← foldEvents none events
  requireSome state (.invalidTransition "Cannot replay an empty event stream")

def nextSequence (current : Option RunState) : Nat :=
  (current.map RunState.sequence).getD 0 + 1

def materializeFrom (current : Option RunState) (runId : String) :
    List RunEventPayload → Except Failure (List RunEvent × Option RunState)
  | [] => .ok ([], current)
  | payload :: rest => do
    let event : RunEvent := { payload, runId, sequence := nextSequence current }
    let state ← applyRunEvent current event
    let (events, final) ← materializeFrom (some state) runId rest
    pure (event :: events, final)

/-- Attach run identity and consecutive sequences to payloads while validating the
entire transition. -/
def materializeEvents (current : Option RunState) (runId : String)
    (payloads : List RunEventPayload) : Except Failure (List RunEvent × RunState) := do
  let (events, final) ← materializeFrom current runId payloads
  let state ← requireSome final
    (.invalidTransition "A transition must contain at least one event")
  pure (events, state)

end Anastom
