import Anastom.Data.Prefixes
import Anastom.Engine.Replay

/-! What each event changes and when it is accepted, as one guard and one effect for
the whole reducer. An event changes one node or one field of the run, never both. -/
namespace Anastom

/-- The node an event changes, and how. -/
def RunEventPayload.nodeChange : RunEventPayload → Option (String × (NodeRunState → NodeRunState))
  | .commandCompleted nodeId _ output => some (nodeId, fun node => { node with command := some output })
  | .attemptTimeoutRequested nodeId _ => some (nodeId, (·.updateCurrent fun attempt =>
      { attempt with timeout := some { cancellation := none, lateStatus := none } }))
  | .attemptCancellationCompleted nodeId _ outcome => some (nodeId, (·.updateCurrent fun attempt =>
      { attempt with timeout := attempt.timeout.map fun timeout =>
          { timeout with cancellation := some outcome } }))
  | .lateResultObserved nodeId _ status => some (nodeId, (·.updateCurrent fun attempt =>
      { attempt with timeout := attempt.timeout.map fun timeout =>
          { timeout with lateStatus := some status } }))
  | .executionCleanupObserved nodeId _ evidence => some (nodeId, (·.updateCurrent fun attempt =>
      { attempt with cleanup := attempt.cleanup ++ [evidence] }))
  | .attemptScheduled nodeId number runtimeId => some (nodeId, fun node => { node with
      attempts := node.attempts ++ [{ number, runtimeId, status := .scheduled }] })
  | .attemptPrepared nodeId _ execution workspaceCheckpoint =>
    some (nodeId, (·.updateCurrent fun attempt => { attempt with
      status := .prepared, executionPlan := some execution,
      workspaceCheckpoint := some workspaceCheckpoint }))
  | .attemptStartAuthorized nodeId _ execution => some (nodeId, fun node =>
      { node.updateCurrent fun attempt =>
          { attempt with status := .running, execution := some execution } with status := .running })
  | .attemptStarted nodeId _ => some (nodeId, fun node =>
      { node.updateCurrent fun attempt => { attempt with status := .running } with
        status := .running })
  | .attemptOrphaned nodeId _ record => some (nodeId, fun node =>
      { node.updateCurrent fun attempt =>
          { attempt with status := .orphaned, orphan := some record } with status := .running })
  | .runtimeEventObserved nodeId _ (.usage value) => some (nodeId, (·.updateCurrent fun attempt =>
      { attempt with usage := some value }))
  | .runtimeEventObserved nodeId _ (.metadata value) => some (nodeId, (·.updateCurrent fun attempt =>
      { attempt with identity := attempt.identity ++ [value] }))
  | .attemptSucceeded nodeId _ output => some (nodeId, fun node =>
      { node.updateCurrent fun attempt => { attempt with status := .succeeded } with
        output := some output, failure := none })
  | .attemptFailed nodeId _ failure => some (nodeId, fun node =>
      { node.updateCurrent fun attempt =>
          { attempt with status := .failed, failure := some failure } with
        failure := some failure })
  | .attemptBlocked nodeId _ _ => some (nodeId, (·.updateCurrent fun attempt =>
      { attempt with status := .blocked }))
  | .attemptCancelled nodeId _ _ => some (nodeId, (·.updateCurrent fun attempt =>
      { attempt with status := .cancelled }))
  | .nodeReady nodeId _ => some (nodeId, fun node =>
      { node with status := .ready, pauseReason := none })
  | .nodeSucceeded nodeId => some (nodeId, fun node => { node with status := .succeeded })
  | .nodeFailed nodeId failure => some (nodeId, fun node =>
      { node with status := .failed, failure := some failure })
  | .nodeBlocked nodeId reason => some (nodeId, fun node =>
      { node with status := .blocked, blockedReason := some reason })
  | .nodePaused nodeId (some reason) => some (nodeId, fun node =>
      { node with status := .paused, pauseReason := some reason })
  | .nodePaused nodeId none => some (nodeId, fun node => { node with status := .paused })
  | .nodeCancelled nodeId reason => some (nodeId, fun node =>
      { node with status := .cancelled, blockedReason := some reason })
  | _ => none

/-- The run fields an event changes. -/
def RunEventPayload.runChange (state : RunState) : RunEventPayload → RunState
  | .runtimeNegotiated negotiation => { state with runtimeNegotiation := some negotiation }
  | .runtimeConfigured descriptor => { state with runtimeDescriptor := some descriptor }
  | .workspaceAssigned workspace => { state with workspace := some workspace }
  | .artifactProduced _ _ artifact => { state with artifacts := state.artifacts ++ [artifact] }
  | .workspaceObserved _ _ headCommit changedFiles diffArtifactId =>
    { state with workspaceObservation := some { headCommit, changedFiles, diffArtifactId } }
  | .runPaused reason => { state with status := .paused, pauseReason := reason.or state.pauseReason }
  | .runResumed _ => { state with status := .running, pauseReason := none, recoveryBlock := none }
  | .runRecoveryBlocked operationId reason =>
    { state with status := .recoveryBlocked, recoveryBlock := some { operationId, reason } }
  | .runBlocked _ => { state with status := .blocked }
  | .runCancelled _ _ => { state with status := .cancelled }
  | .runCompleted .succeeded => { state with status := .succeeded }
  | .runCompleted .failed => { state with status := .failed }
  | _ => state

def RunEventPayload.effect (payload : RunEventPayload) (state : RunState) : RunState :=
  match payload.nodeChange with
  | some (nodeId, f) => state.updateNode nodeId f
  | none => payload.runChange state

/-- The node an event is about. -/
def RunEventPayload.nodeId? : RunEventPayload → Option String
  | .artifactProduced nodeId .. | .workspaceObserved nodeId .. | .commandCompleted nodeId ..
  | .attemptTimeoutRequested nodeId .. | .attemptCancellationCompleted nodeId ..
  | .lateResultObserved nodeId .. | .nodeReady nodeId .. | .attemptScheduled nodeId ..
  | .attemptPrepared nodeId .. | .attemptStartAuthorized nodeId .. | .attemptStarted nodeId ..
  | .runtimeEventObserved nodeId .. | .attemptSucceeded nodeId .. | .attemptFailed nodeId ..
  | .attemptBlocked nodeId .. | .attemptCancelled nodeId .. | .nodeSucceeded nodeId
  | .nodeFailed nodeId .. | .nodeBlocked nodeId .. | .attemptOrphaned nodeId ..
  | .executionCleanupObserved nodeId .. | .nodePaused nodeId .. | .nodeCancelled nodeId .. =>
    some nodeId
  | _ => none

/-- The evidence an attempt must be prepared with. -/
structure PrepareAllowed (state : RunState) (nodeId : String) (attempt : AttemptState)
    (execution : ExecutionPlanRef) (checkpoint : WorkspaceCheckpoint) : Prop where
  runId : execution.runId = state.runId
  generation : 1 ≤ execution.generation
  workspace : ∀ workspace ∈ state.workspace, checkpoint.workspaceId = workspace.id
  kind : execution.kind = if attempt.runtimeId = "command" then .command else .runtime
  runtime : attempt.runtimeId ≠ "command" →
    ∃ descriptor, state.runtimeDescriptor = some descriptor ∧
      descriptor.runtimeId = attempt.runtimeId
  artifact : state.checkpointArtifactRecorded nodeId attempt.number checkpoint = true

/-- When the node an event is about lets it through. -/
def RunEventPayload.nodeGuard (state : RunState) (node : NodeRunState) : RunEventPayload → Prop
  | .artifactProduced nodeId number artifact =>
    (∃ attempt, node.current = some attempt ∧ attempt.number = number ∧
      ((node.status = .running ∧ attempt.status = .running) ∨
        (node.status = .ready ∧ attempt.status ∈ [AttemptStatus.scheduled, .prepared]))) ∧
      artifact.producer = { runId := state.runId, nodeId, attempt := number }
  | .workspaceObserved _ number _ _ diffArtifactId =>
    (∃ attempt, node.CurrentIs number .running attempt) ∧
      state.hasArtifact diffArtifactId = true
  | .commandCompleted _ number _ => ∃ attempt, node.CurrentIs number .running attempt
  | .attemptTimeoutRequested _ number => node.status = .running ∧
      ∃ attempt, node.CurrentIs number .running attempt ∧ attempt.timeout = none
  | .attemptCancellationCompleted _ number _ => ∃ attempt timeout,
      node.CurrentIs number .running attempt ∧ attempt.timeout = some timeout ∧
        timeout.cancellation = none
  | .lateResultObserved _ number _ => ∃ attempt timeout,
      node.CurrentIs number .running attempt ∧ attempt.timeout = some timeout ∧
        timeout.cancellation.isSome = true ∧ timeout.lateStatus = none
  | .executionCleanupObserved _ number evidence => ∃ attempt plan,
      node.current = some attempt ∧ attempt.number = number ∧
        attempt.status ∈ [AttemptStatus.prepared, .running, .orphaned] ∧
        attempt.executionPlan = some plan ∧ plan.executionId = evidence.executionId ∧
        ∀ item ∈ attempt.cleanup, item.executionId = evidence.executionId →
          item.cause ≠ evidence.cause
  | .attemptScheduled _ number runtimeId => node.status = .ready ∧
      number = node.attempts.length + 1 ∧ scheduledRuntimeMatches state runtimeId = true
  | .attemptPrepared nodeId number execution checkpoint => node.status = .ready ∧
      ∃ attempt, node.CurrentIs number .scheduled attempt ∧
        PrepareAllowed state nodeId attempt execution checkpoint
  | .attemptStartAuthorized _ number execution => node.status = .ready ∧
      ∃ attempt, node.CurrentIs number .prepared attempt ∧
        attempt.executionPlan = some execution.toExecutionPlanRef
  | .attemptStarted _ number => node.status = .ready ∧ state.runtimeDescriptor = none ∧
      ∃ attempt, node.CurrentIs number .scheduled attempt
  | .attemptOrphaned nodeId number record => node.status ∈ [NodeStatus.ready, .running] ∧
      (∃ attempt plan, node.current = some attempt ∧ attempt.number = number ∧
        attempt.status ∈ [AttemptStatus.prepared, .running] ∧ attempt.executionPlan = some plan ∧
        plan.executionId = record.executionId ∧ plan.generation = record.lostGeneration) ∧
      (∀ id ∈ record.terminalArtifactId, id ≠ "" → state.hasArtifact id = true) ∧
      state.checkpointArtifactRecorded nodeId number record.workspaceObservation = true
  | .runtimeEventObserved _ number event => node.status = .running ∧
      ∃ attempt, node.CurrentIs number .running attempt ∧
        (∀ value, event = .usage value → attempt.usage = none)
  | .attemptSucceeded _ number _ | .attemptBlocked _ number _ | .attemptCancelled _ number _ =>
    node.status = .running ∧
      ∃ attempt, node.CurrentIs number .running attempt ∧ attempt.timeout = none
  | .attemptFailed _ number failure => node.status = .running ∧
      ∃ attempt, node.CurrentIs number .running attempt ∧
        ∀ timeout ∈ attempt.timeout,
          failure.category = .budgetExhausted ∧ timeout.cancellation.isSome = true
  | .nodeReady _ reason => node.status ∈ reason.allowed ∧
      (reason = .retry → node.currentStatusIn [.failed] = true) ∧
      (reason = .recovered → node.currentStatusIn [.orphaned] = true)
  | .nodeSucceeded _ => node.status = .running ∧
      ∃ attempt, node.CurrentIs node.attempts.length .succeeded attempt
  | .nodeFailed _ _ => node.status = .running ∧
      ∃ attempt, node.CurrentIs node.attempts.length .failed attempt
  | .nodeBlocked _ _ => node.status ∈ [NodeStatus.pending, .ready, .running] ∧
      (node.status = .running → ∃ attempt, node.CurrentIs node.attempts.length .blocked attempt)
  | .nodePaused _ (some _) => node.status ∈ [NodeStatus.pending, .ready, .running] ∧
      (node.status = .running → node.currentStatusIn [.cancelled, .orphaned] = true)
  | .nodePaused _ none => node.status ∈ [NodeStatus.pending, .ready]
  | .nodeCancelled _ _ =>
    node.status ∈ [NodeStatus.pending, .ready, .running, .blocked, .paused] ∧
      (node.status = .running → node.currentStatusIn [.cancelled, .orphaned] = true)
  | _ => True

/-- When the run lets an event through that is about no node. -/
def RunEventPayload.runGuard (state : RunState) : RunEventPayload → Prop
  | .runtimeNegotiated negotiation => state.runtimeNegotiation = none ∧
      (∀ node ∈ state.nodes, node.attempts = []) ∧
      ∀ descriptor ∈ state.runtimeDescriptor, descriptor.runtimeId = negotiation.runtimeId
  | .runtimeConfigured descriptor => state.runtimeDescriptor = none ∧
      (∀ node ∈ state.nodes, node.attempts = []) ∧
      ∀ negotiation ∈ state.runtimeNegotiation, negotiation.runtimeId = descriptor.runtimeId
  | .workspaceAssigned _ => state.status = .running ∧ state.workspace = none
  | .runPaused reason =>
    (state.status = .running ∨ (reason.isSome = true ∧ state.status = .recoveryBlocked)) ∧
      (reason.isSome = true → ∀ node ∈ state.nodes, node.status ≠ .running)
  | .runResumed operationId =>
    (state.status = .paused ∨ (operationId.isSome = true ∧ state.status = .recoveryBlocked)) ∧
      (state.status = .recoveryBlocked → ∀ node ∈ state.nodes, node.affected = false)
  | .runRecoveryBlocked _ reason =>
    state.status ∈ [RunStatus.running, .paused, .recoveryBlocked] ∧
      ∃ attempt, state.attemptOfExecution reason.executionId = some attempt ∧
        match reason with
        | .cleanupUnknown executionId => ∃ evidence ∈ attempt.cleanup,
            evidence.executionId = executionId ∧ evidence.outcome = .unknown
        | .executionUnknown .. => True
  | .runBlocked _ => state.status = .running
  | .runCancelled operationId _ =>
    state.status ∈ [RunStatus.running, .blocked, .paused, .recoveryBlocked] ∧
      (operationId.isSome = true → ∀ node ∈ state.nodes,
        node.status ∈ [NodeStatus.succeeded, .failed, .cancelled])
  | .runCompleted outcome => state.status = .running ∧
      (outcome = .succeeded → ∀ node ∈ state.nodes, node.status = .succeeded) ∧
      (outcome = .failed → ∃ node ∈ state.nodes, node.status = .failed)
  | .runCreated .. => False
  | _ => True

/-- When an event is accepted in a run that is not terminal. -/
def RunEventPayload.Accepts (payload : RunEventPayload) (state : RunState) : Prop :=
  match payload.nodeId? with
  | some nodeId => ∃ node, state.node? nodeId = some node ∧ payload.nodeGuard state node
  | none => payload.runGuard state

open RunEventPayload
variable {state next : RunState}

attribute [local simp] nodeChange runChange nodeGuard runGuard nodeId? effect Accepts
  applyPayload applyNodeEvent applyLifecycleEvent applyOperationalEvent

theorem applyAttemptPrepared_ok {nodeId : String} {number : Nat} {execution : ExecutionPlanRef}
    {checkpoint : WorkspaceCheckpoint} :
    applyAttemptPrepared state nodeId number execution checkpoint = .ok next ↔
      (attemptPrepared nodeId number execution checkpoint).Accepts state ∧
      (attemptPrepared nodeId number execution checkpoint).effect state = next := by
  have kinds (runtimeId : String) :
      ((if runtimeId = "command" then ExecutionKind.command else .runtime) = .runtime) ↔
        runtimeId ≠ "command" := by
    split <;> simp_all
  simp only [applyAttemptPrepared, requireNode_bind_ok, requireNodeStatus_bind_ok,
    requireCurrentAttempt_bind_ok, require_bind_ok, pure_ok, Accepts, nodeId?, nodeGuard, effect,
    nodeChange, Bool.and_eq_true, Bool.or_eq_true, bne_iff_ne, ne_eq, ← imp_iff_not_or, beq_iff_eq,
    decide_eq_true_eq, kinds, Option.all_eq_true, Option.any_eq_true, List.mem_singleton]
  constructor
  · rintro ⟨node, found, ready, attempt, current, ⟨⟨⟨runId, generation⟩, workspace⟩, kind⟩, runtime,
      artifact, rfl⟩
    refine ⟨⟨node, found, ready, attempt, current, runId, generation, workspace, kind, runtime, ?_⟩,
      rfl⟩
    rw [current.2.1]
    exact artifact
  · rintro ⟨⟨node, found, ready, attempt, current, allowed⟩, rfl⟩
    have artifact := allowed.artifact
    rw [current.2.1] at artifact
    exact ⟨node, found, ready, attempt, current,
      ⟨⟨⟨allowed.runId, allowed.generation⟩, allowed.workspace⟩, allowed.kind⟩, allowed.runtime,
      artifact, rfl⟩

theorem applyAttemptOrphaned_ok {nodeId : String} {number : Nat} {record : OrphanRecord} :
    applyAttemptOrphaned state nodeId number record = .ok next ↔
      (attemptOrphaned nodeId number record).Accepts state ∧
      (attemptOrphaned nodeId number record).effect state = next := by
  simp only [applyAttemptOrphaned, requireNode_bind_ok, requireNodeStatus_bind_ok, require_bind_ok,
    pure_ok, Accepts, nodeId?, nodeGuard, effect, nodeChange, Bool.and_eq_true, Bool.or_eq_true,
    beq_iff_eq, Option.all_eq_true, Option.any_eq_true, List.contains_iff_mem,
    String.isEmpty_iff, ne_eq, or_iff_not_imp_left, Option.mem_def]
  constructor
  · rintro ⟨node, found, status, ⟨attempt, current, ⟨number, live⟩, plan, planned, same⟩, terminal,
      artifact, rfl⟩
    exact ⟨⟨node, found, status, ⟨attempt, plan, current, number, live, planned, same⟩, terminal,
      artifact⟩, rfl⟩
  · rintro ⟨⟨node, found, status, ⟨attempt, plan, current, number, live, planned, same⟩, terminal,
      artifact⟩, rfl⟩
    exact ⟨node, found, status, ⟨attempt, current, ⟨number, live⟩, plan, planned, same⟩, terminal,
      artifact, rfl⟩

theorem applyExecutionCleanupObserved_ok {nodeId : String} {number : Nat}
    {evidence : CleanupEvidence} :
    applyOperationalEvent state (.executionCleanupObserved nodeId number evidence) = .ok next ↔
      (executionCleanupObserved nodeId number evidence).Accepts state ∧
      (executionCleanupObserved nodeId number evidence).effect state = next := by
  simp only [applyOperationalEvent, requireNode_bind_ok, requireSome_bind_ok, require_bind_ok,
    pure_ok, Accepts, nodeId?, nodeGuard, effect, nodeChange, Option.filter_eq_some_iff,
    Bool.and_eq_true, beq_iff_eq, Option.any_eq_true, List.contains_iff_mem, Bool.not_eq_true',
    List.any_eq_false, not_and, ne_eq]
  constructor
  · rintro ⟨node, found, attempt, ⟨current, ⟨number, live⟩, plan, planned, same⟩, fresh, rfl⟩
    exact ⟨⟨node, found, attempt, plan, current, number, live, planned, same, fresh⟩, rfl⟩
  · rintro ⟨⟨node, found, attempt, plan, current, number, live, planned, same, fresh⟩, rfl⟩
    exact ⟨node, found, attempt, ⟨current, ⟨number, live⟩, plan, planned, same⟩, fresh, rfl⟩

theorem applyRunRecoveryBlocked_ok {operationId : String} {reason : RecoveryBlockReason} :
    applyRunRecoveryBlocked state operationId reason = .ok next ↔
      (runRecoveryBlocked operationId reason).Accepts state ∧
      (runRecoveryBlocked operationId reason).effect state = next := by
  simp only [applyRunRecoveryBlocked, require_bind_ok, requireSome_bind_ok, pure_ok, Accepts,
    nodeId?, runGuard, effect, nodeChange, runChange, List.contains_iff_mem]
  cases reason with
  | executionUnknown executionId detail =>
    simp only [true_and, and_true, ← exists_and_right, and_assoc]
  | cleanupUnknown executionId =>
    simp only [List.any_eq_true, Bool.and_eq_true, beq_iff_eq, ← exists_and_right, and_assoc]

theorem applyRunCompleted_ok {outcome : RunOutcome} :
    applyLifecycleEvent state (.runCompleted outcome) = .ok next ↔
      (runCompleted outcome).Accepts state ∧ (runCompleted outcome).effect state = next := by
  cases outcome <;>
    simp only [applyLifecycleEvent, require_bind_ok, pure_ok, Accepts, nodeId?, runGuard, effect,
      nodeChange, runChange, Bool.or_eq_true, bne_iff_ne, ne_eq, ← imp_iff_not_or, beq_iff_eq,
      List.all_eq_true, List.any_eq_true, and_assoc]

/-- The reducer accepts an event exactly under its guard, and changes what its effect says. -/
theorem applyPayload_ok {payload : RunEventPayload} :
    applyPayload state payload = .ok next ↔ payload.Accepts state ∧ payload.effect state = next := by
  cases payload
  case attemptPrepared => exact applyAttemptPrepared_ok
  case attemptOrphaned => exact applyAttemptOrphaned_ok
  case executionCleanupObserved => exact applyExecutionCleanupObserved_ok
  case runRecoveryBlocked => exact applyRunRecoveryBlocked_ok
  case runCompleted => exact applyRunCompleted_ok
  case artifactProduced nodeId number artifact =>
    rw [applyPayload, applyArtifactProduced_ok]
    simp only [Accepts, nodeId?, nodeGuard, effect, nodeChange, runChange]
    constructor
    · rintro ⟨⟨node, attempt, found, current, number, phase⟩, producer, rfl⟩
      exact ⟨⟨node, found, ⟨attempt, current, number, phase⟩, producer⟩, rfl⟩
    · rintro ⟨⟨node, found, ⟨attempt, current, number, phase⟩, producer⟩, rfl⟩
      exact ⟨⟨node, attempt, found, current, number, phase⟩, producer, rfl⟩
  case nodeBlocked nodeId reason =>
    rw [applyPayload, applyNodeBlocked_ok]
    simp only [Accepts, nodeId?, nodeGuard, effect, nodeChange]
    exact and_congr_right fun _ => eq_comm
  case nodePaused nodeId reason =>
    cases reason <;>
      simp only [applyPayload, applyNodeEvent, Accepts, nodeId?, nodeGuard, effect, nodeChange,
        requireNode_bind_ok, requireNodeStatus_bind_ok, require_bind_ok, pure_ok, Bool.or_eq_true,
        bne_iff_ne, ne_eq, ← imp_iff_not_or, ← exists_and_right, and_assoc]
  case runtimeEventObserved nodeId number event =>
    cases event <;>
      simp only [applyPayload, applyAttemptEvent, Accepts, nodeId?, nodeGuard, effect, nodeChange,
        runChange, requireNode_bind_ok, requireNodeStatus_bind_ok, requireCurrentAttempt_bind_ok,
        require_bind_ok, pure_ok, ← exists_and_right, and_assoc] <;>
      simp
  case runPaused reason =>
    cases reason <;>
      simp only [applyPayload, applyLifecycleEvent, applyRunPaused, Accepts, nodeId?, runGuard,
        effect, nodeChange, runChange, require_bind_ok, pure_ok] <;>
      simp [and_assoc]
  case runCancelled operationId reason =>
    cases operationId <;>
      simp only [applyPayload, applyLifecycleEvent, Accepts, nodeId?, runGuard, effect, nodeChange,
        runChange, require_bind_ok, pure_ok] <;>
      simp [and_assoc]
  all_goals
    simp only [applyPayload, applyNodeEvent, applyConfigurationEvent, applyObservationEvent,
      applyTimeoutEvent, applyOperationalEvent, applyAttemptEvent, applyLifecycleEvent,
      applyAttemptStartAuthorized, applyRunResumed, Accepts, nodeId?, runGuard, nodeGuard, effect,
      nodeChange, runChange, requireNode_bind_ok, requireNodeStatus_bind_ok, require_bind_ok,
      pure_ok, requireCurrentAttempt_bind_ok, checkCurrentAttempt_bind_ok, Bool.or_eq_true,
      Bool.and_eq_true, bne_iff_ne, ne_eq, ← imp_iff_not_or, ← exists_and_right, and_assoc,
      beq_iff_eq, Option.isNone_iff_eq_none, Option.all_eq_true, Option.any_eq_true,
      List.all_eq_true, List.isEmpty_iff, Bool.not_eq_true', List.mem_singleton]
  all_goals simp

@[simp] theorem RunState.updateNode_status (state : RunState) (nodeId : String) (f) :
    (state.updateNode nodeId f).status = state.status := rfl

@[simp] theorem RunState.updateNode_runId (state : RunState) (nodeId : String) (f) :
    (state.updateNode nodeId f).runId = state.runId := rfl

@[simp] theorem RunState.updateNode_runtimeDescriptor (state : RunState) (nodeId : String) (f) :
    (state.updateNode nodeId f).runtimeDescriptor = state.runtimeDescriptor := rfl

@[simp] theorem RunState.updateNode_runtimeNegotiation (state : RunState) (nodeId : String) (f) :
    (state.updateNode nodeId f).runtimeNegotiation = state.runtimeNegotiation := rfl

theorem runChange_nodes (payload : RunEventPayload) (state : RunState) :
    (payload.runChange state).nodes = state.nodes := by
  cases payload <;> try rfl
  case runCompleted outcome => cases outcome <;> rfl

/-- The guard reads neither the sequence nor what the sequence decides. -/
theorem accepts_sequence (payload : RunEventPayload) (state : RunState) (sequence : Nat) :
    payload.Accepts { state with sequence } ↔ payload.Accepts state := by
  cases payload <;> try rfl
  case nodePaused nodeId reason => cases reason <;> rfl
  case attemptPrepared nodeId number execution checkpoint =>
    have allowed (attempt : AttemptState) :
        PrepareAllowed { state with sequence } nodeId attempt execution checkpoint ↔
          PrepareAllowed state nodeId attempt execution checkpoint :=
      ⟨fun a => ⟨a.runId, a.generation, a.workspace, a.kind, a.runtime, a.artifact⟩,
        fun a => ⟨a.runId, a.generation, a.workspace, a.kind, a.runtime, a.artifact⟩⟩
    simp only [Accepts, nodeId?, nodeGuard, allowed]
    rfl

theorem effect_sequence (payload : RunEventPayload) (state : RunState) (sequence : Nat) :
    payload.effect { state with sequence } = { payload.effect state with sequence } := by
  cases payload <;> try rfl
  case runtimeEventObserved nodeId number event => cases event <;> rfl
  case nodePaused nodeId reason => cases reason <;> rfl
  case runCompleted outcome => cases outcome <;> rfl

theorem effect_runId (payload : RunEventPayload) (state : RunState) :
    (payload.effect state).runId = state.runId := by
  cases payload
  case runCompleted outcome => cases outcome <;> rfl
  case nodePaused nodeId reason => cases reason <;> rfl
  case runtimeEventObserved nodeId number event => cases event <;> rfl
  all_goals rfl

/-- An accepted event after the first: its envelope, its guard and its effect. -/
theorem applyRunEvent_step {event : RunEvent} :
    applyRunEvent (some state) event = .ok next ↔
      validRunEvent event = true ∧ event.runId = state.runId ∧
      event.sequence = state.sequence + 1 ∧ state.status.terminal = false ∧
      event.payload.Accepts state ∧
      { event.payload.effect state with sequence := event.sequence } = next := by
  have continues (accepted : event.payload.Accepts state) : event.payload.continues = true := by
    revert accepted
    cases event.payload <;> simp [Accepts, nodeId?, runGuard, RunEventPayload.continues]
  rw [applyRunEvent_some_ok, applyPayload_ok, accepts_sequence, effect_sequence]
  constructor
  · rintro ⟨valid, run, sequence, _, live, accepted, effect⟩
    exact ⟨valid, run, sequence, live, accepted, effect⟩
  · rintro ⟨valid, run, sequence, live, accepted, effect⟩
    exact ⟨valid, run, sequence, continues accepted, live, accepted, effect⟩

/-- The last event of a replayed history: the creation, or one accepted by the state
that the earlier events leave. -/
theorem replayRun_concat_ok {history : List RunEvent} {event : RunEvent} :
    replayRun (history ++ [event]) = .ok next ↔
      (history = [] ∧ applyRunEvent none event = .ok next) ∨
      ∃ state, replayRun history = .ok state ∧ applyRunEvent (some state) event = .ok next := by
  have single (current : Option RunState) :
      foldEvents current [event] = .ok (some next) ↔ applyRunEvent current event = .ok next := by
    simp [foldEvents_cons_ok]
  rw [replayRun_ok, foldEvents_append_ok]
  constructor
  · rintro ⟨middle, folded, applied⟩
    rw [single] at applied
    cases middle with
    | some state => exact .inr ⟨state, replayRun_ok.mpr folded, applied⟩
    | none =>
      cases history with
      | nil => exact .inl ⟨rfl, applied⟩
      | cons first rest =>
        obtain ⟨_, _, folded⟩ := foldEvents_cons_ok.mp folded
        obtain ⟨_, absent⟩ := foldEvents_some folded
        cases absent
  · rintro (⟨rfl, applied⟩ | ⟨state, replayed, applied⟩)
    · exact ⟨none, rfl, (single none).mpr applied⟩
    · exact ⟨some state, replayRun_ok.mp replayed, (single _).mpr applied⟩

/-- What holds after the creation and is kept by every accepted event holds of every
replayed history. -/
theorem replayRun_induction {P : List RunEvent → RunState → Prop}
    (created : ∀ event state, applyRunEvent none event = .ok state → P [event] state)
    (step : ∀ history state event next, replayRun history = .ok state → P history state →
      applyRunEvent (some state) event = .ok next → P (history ++ [event]) next)
    {events : List RunEvent} {state : RunState} (replayed : replayRun events = .ok state) :
    P events state := by
  induction events using List.reverseRecOn generalizing state with
  | nil => exact absurd rfl (replayRun_nonempty replayed)
  | append_singleton history event ih =>
    rcases replayRun_concat_ok.mp replayed with ⟨rfl, applied⟩ | ⟨before, earlier, applied⟩
    · exact created event state applied
    · exact step history before event state earlier (ih earlier) applied

/-- What holds of the state of a history and is kept by every accepted event holds of the
state of every longer history. -/
theorem replayRun_extension {P : RunState → Prop} {events later : List RunEvent}
    {state final : RunState} (replayed : replayRun events = .ok state) (start : P state)
    (step : ∀ history before event next, replayRun history = .ok before → P before →
      applyRunEvent (some before) event = .ok next → P next)
    (continued : replayRun (events ++ later) = .ok final) : P final := by
  induction later using List.reverseRecOn generalizing final with
  | nil =>
    rw [List.append_nil, replayed, Except.ok.injEq] at continued
    exact continued ▸ start
  | append_singleton later event ih =>
    rw [← List.append_assoc] at continued
    rcases replayRun_concat_ok.mp continued with ⟨empty, _⟩ | ⟨before, earlier, applied⟩
    · rw [List.append_eq_nil_iff] at empty
      exact absurd empty.1 (replayRun_nonempty replayed)
    · exact step _ before event final earlier (ih earlier) applied

/-- `P` holds of each event of a history after the first and the state it is applied to. -/
def Applied (P : RunState → RunEvent → Prop) (events : List RunEvent) : Prop :=
  Along (fun earlier event => ∀ before, replayRun earlier = .ok before → P before event) events

instance (P : RunState → RunEvent → Prop) [∀ before event, Decidable (P before event)]
    (earlier : List RunEvent) (event : RunEvent) :
    Decidable (∀ before, replayRun earlier = .ok before → P before event) :=
  match replayRun earlier with
  | .ok before => decidable_of_iff (P before event) (by simp)
  | .error _ => isTrue (by simp)

instance (P : RunState → RunEvent → Prop) [∀ before event, Decidable (P before event)]
    (events : List RunEvent) : Decidable (Applied P events) :=
  inferInstanceAs (Decidable (Along (fun earlier event =>
    ∀ before, replayRun earlier = .ok before → P before event) events))

theorem applied_concat {P : RunState → RunEvent → Prop} {history : List RunEvent}
    {event : RunEvent} (replayed : replayRun history = .ok state) :
    Applied P (history ++ [event]) ↔ Applied P history ∧ P state event := by
  unfold Applied
  rw [Along.concat]
  refine and_congr_right fun _ => ⟨fun holds => holds state replayed, fun holds before same => ?_⟩
  rw [replayed, Except.ok.injEq] at same
  exact same ▸ holds

theorem applied_single (P : RunState → RunEvent → Prop) (event : RunEvent) : Applied P [event] := by
  rw [← List.nil_append [event], Applied, Along.concat]
  exact ⟨Along.nil, fun _ replayed => absurd rfl (replayRun_nonempty replayed)⟩

end Anastom
