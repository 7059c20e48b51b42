import Anastom.Engine.EvidenceIntegrity

/-! Pause reasons and recovery blocks against the statuses they explain. Resuming clears
them; the other transitions out of those statuses leave them behind. -/
namespace Anastom
open RunEventPayload

/-- A pause reason or a recovery block is there only while the status it explains is. -/
structure RunState.Annotated (state : RunState) : Prop where
  recovery : state.recoveryBlock.isSome = true ↔ state.status = .recoveryBlocked
  paused : state.pauseReason.isSome = true → state.status = .paused
  nodes : ∀ node ∈ state.nodes, node.pauseReason.isSome = true → node.status = .paused

/-- An event takes a run or a node out of a status and leaves its explanation behind. -/
def RunEventPayload.strands (payload : RunEventPayload) (state : RunState) : Bool :=
  match payload with
  | .runPaused _ => state.status == .recoveryBlocked
  | .runCancelled .. => state.pauseReason.isSome || state.recoveryBlock.isSome
  | .runRecoveryBlocked .. => state.pauseReason.isSome
  | .nodeCancelled nodeId _ => (state.node? nodeId).any (·.pauseReason.isSome)
  | _ => false

variable {state : RunState} {payload : RunEventPayload}

/-- An accepted event about a node keeps its explanation in step, unless it cancels a paused
node. -/
theorem RunEventPayload.Moves.annotated {node next : NodeRunState}
    (moves : payload.Moves state node next)
    (before : node.pauseReason.isSome = true → node.status = .paused)
    (kept : payload.strands state = false) :
    next.pauseReason.isSome = true → next.status = .paused := by
  obtain ⟨found, guard, f, change, rfl⟩ := moves
  -- A node that was not paused has no explanation to leave behind.
  have unpaused (other : node.status ≠ .paused) (explained : node.pauseReason.isSome = true) :
      (f node).status = .paused := absurd (before explained) other
  cases payload
  case commandCompleted | attemptTimeoutRequested | attemptCancellationCompleted
      | lateResultObserved | executionCleanupObserved | attemptScheduled | attemptPrepared
      | attemptSucceeded | attemptFailed | attemptBlocked | attemptCancelled =>
    cases change
    exact before
  case runtimeEventObserved nodeId number event => cases event <;> cases change <;> exact before
  case nodeReady => cases change; exact nofun
  case nodePaused nodeId reason => cases reason <;> cases change <;> exact fun _ => rfl
  case attemptStartAuthorized | attemptStarted | nodeSucceeded | nodeFailed =>
    obtain ⟨status, _⟩ := guard
    cases change
    exact unpaused (by rw [status]; decide)
  case attemptOrphaned | nodeBlocked =>
    obtain ⟨status, _⟩ := guard
    cases change
    exact unpaused (by rintro same; simp [same] at status)
  case nodeCancelled =>
    cases change
    simp only [strands, found, Option.any_some] at kept
    exact fun explained => absurd kept (by rw [Bool.not_eq_false]; exact explained)
  all_goals cases change

/-- The annotations of the nodes, by their ids. -/
theorem RunState.Annotated.node? (annotated : state.Annotated) {id : String} {node : NodeRunState}
    (found : state.node? id = some node) : node.pauseReason.isSome = true → node.status = .paused :=
  annotated.nodes node (Keyed.find_mem found)

/-- A running run carries no annotation. -/
theorem RunState.Annotated.running (annotated : state.Annotated) (running : state.status = .running) :
    state.recoveryBlock.isSome = false ∧ state.pauseReason.isSome = false := by
  constructor
  · by_contra blocked
    have status := annotated.recovery.mp (eq_true_of_ne_false blocked)
    rw [running] at status
    cases status
  · by_contra paused
    have status := annotated.paused (eq_true_of_ne_false paused)
    rw [running] at status
    cases status

/-- The annotations of the run itself stay in step. -/
theorem annotated_run (annotated : state.Annotated) (accepted : payload.Accepts state)
    (kept : payload.strands state = false) :
    ((payload.effect state).recoveryBlock.isSome = true ↔
        (payload.effect state).status = .recoveryBlocked) ∧
      ((payload.effect state).pauseReason.isSome = true → (payload.effect state).status = .paused) := by
  cases payload
  case runPaused reason =>
    have unblocked : state.recoveryBlock.isSome = false := by
      by_contra blocked
      have status := annotated.recovery.mp (eq_true_of_ne_false blocked)
      simp [strands, status] at kept
    exact ⟨iff_of_false (by rw [Bool.not_eq_true]; exact unblocked) nofun, fun _ => rfl⟩
  case runResumed operationId => exact ⟨iff_of_false nofun nofun, nofun⟩
  case runRecoveryBlocked operationId reason =>
    exact ⟨iff_of_true rfl rfl, fun paused => absurd kept (by rw [Bool.not_eq_false]; exact paused)⟩
  case runCancelled operationId reason =>
    obtain ⟨unpaused, unblocked⟩ := Bool.or_eq_false_iff.mp kept
    exact ⟨iff_of_false (by rw [Bool.not_eq_true]; exact unblocked) nofun,
      fun paused => absurd unpaused (by rw [Bool.not_eq_false]; exact paused)⟩
  case runBlocked reason =>
    obtain ⟨unblocked, unpaused⟩ := annotated.running accepted
    exact ⟨iff_of_false (by rw [Bool.not_eq_true]; exact unblocked) nofun,
      fun paused => absurd unpaused (by rw [Bool.not_eq_false]; exact paused)⟩
  case runCompleted outcome =>
    obtain ⟨unblocked, unpaused⟩ := annotated.running accepted.1
    cases outcome <;>
      exact ⟨iff_of_false (by rw [Bool.not_eq_true]; exact unblocked) nofun,
        fun paused => absurd unpaused (by rw [Bool.not_eq_false]; exact paused)⟩
  case runtimeEventObserved nodeId number event =>
    cases event <;> exact ⟨annotated.recovery, annotated.paused⟩
  case nodePaused nodeId reason =>
    cases reason <;> exact ⟨annotated.recovery, annotated.paused⟩
  all_goals exact ⟨annotated.recovery, annotated.paused⟩

/-- An event that strands an annotation leaves a state that is not annotated. -/
theorem strands_unannotated (annotated : state.Annotated) (accepted : payload.Accepts state)
    (strands : payload.strands state = true) : ¬ (payload.effect state).Annotated := by
  intro after
  cases payload
  case runPaused reason =>
    have blocked := annotated.recovery.mpr (beq_iff_eq.mp strands)
    cases after.recovery.mp blocked
  case runRecoveryBlocked operationId reason => cases after.paused strands
  case runCancelled operationId reason =>
    rcases Bool.or_eq_true_iff.mp strands with paused | blocked
    · cases after.paused paused
    · cases after.recovery.mp blocked
  case nodeCancelled nodeId reason =>
    obtain ⟨node, found, explained⟩ := Option.any_eq_true _ _ |>.mp strands
    cases after.node? (effect_changed rfl found) explained
  all_goals cases strands

/-- One accepted event keeps the annotations in step unless it strands one. -/
theorem annotated_step (annotated : state.Annotated) (accepted : payload.Accepts state)
    (distinct : Keyed.Distinct (payload.effect state).nodes) :
    (payload.effect state).Annotated ↔ payload.strands state = false := by
  constructor
  · intro after
    by_contra strands
    exact strands_unannotated annotated accepted (eq_true_of_ne_false strands) after
  · intro kept
    obtain ⟨recovery, paused⟩ := annotated_run annotated accepted kept
    refine ⟨recovery, paused, fun node member => ?_⟩
    obtain ⟨before, present, ⟨rfl, _⟩ | moves⟩ :=
      effect_node accepted (Keyed.find_of_mem distinct member)
    · exact annotated.node? present
    · exact moves.annotated (annotated.node? present) kept

/-- A new run explains nothing. -/
theorem createdState_annotated {event : RunEvent} (applied : applyRunEvent none event = .ok state) :
    state.Annotated := by
  have nodes := (createdState_nodes applied).2
  obtain ⟨_, created⟩ := applyRunEvent_none_ok.mp applied
  cases payload : event.payload <;> rw [payload] at created <;>
    simp only [createdState, require_bind_ok, pure_ok, reduceCtorEq] at created
  case runCreated workflowInstanceId workflowId workflowVersion nodeIds inputs =>
    obtain ⟨_, rfl⟩ := created
    refine ⟨iff_of_false ?_ ?_, ?_, fun node member explained => ?_⟩
    · rintro ⟨⟩
    · rintro ⟨⟩
    · rintro ⟨⟩
    · rw [nodes node member] at explained
      cases explained

/-- The state after every prefix of a history is annotated. -/
def AnnotatedThroughout (events : List RunEvent) : Prop :=
  ∀ earlier later state, events = earlier ++ later → replayRun earlier = .ok state →
    state.Annotated

theorem annotatedThroughout_concat {history : List RunEvent} {event : RunEvent} {next : RunState}
    (replayed : replayRun (history ++ [event]) = .ok next) :
    AnnotatedThroughout (history ++ [event]) ↔ AnnotatedThroughout history ∧ next.Annotated := by
  constructor
  · intro throughout
    refine ⟨fun earlier later state same => ?_, throughout _ [] next (List.append_nil _).symm replayed⟩
    exact throughout earlier (later ++ [event]) state (by rw [same, List.append_assoc])
  · rintro ⟨throughout, last⟩ earlier later state same prior
    cases later using List.reverseRecOn with
    | nil =>
      rw [List.append_nil] at same
      rw [← same, replayed, Except.ok.injEq] at prior
      exact prior ▸ last
    | append_singleton later final =>
      rw [← List.append_assoc] at same
      exact throughout earlier later state (List.append_inj_left' same rfl) prior

/-- Every state of a history is annotated exactly when no event of it strands an annotation. -/
theorem replayRun_annotated {events : List RunEvent} {state : RunState}
    (replayed : replayRun events = .ok state) :
    AnnotatedThroughout events ↔
      Applied (fun before event => event.payload.strands before = false) events := by
  refine replayRun_induction (P := fun events _ => AnnotatedThroughout events ↔
    Applied (fun before event => event.payload.strands before = false) events) ?_ ?_ replayed
  · intro event state applied
    refine iff_of_true ?_ (applied_single _ event)
    have single : replayRun ([] ++ [event]) = .ok state := replayRun_concat_ok.mpr (.inl ⟨rfl, applied⟩)
    refine (annotatedThroughout_concat single).mpr ⟨?_, ?_⟩
    · intro earlier later before same prior
      rw [List.nil_eq, List.append_eq_nil_iff] at same
      exact absurd same.1 (replayRun_nonempty prior)
    · exact createdState_annotated applied
  · intro history state event next earlier ordered applied
    have whole : replayRun (history ++ [event]) = .ok next :=
      replayRun_concat_ok.mpr (.inr ⟨state, earlier, applied⟩)
    have distinct := replayRun_distinct whole
    obtain ⟨_, _, _, _, accepted, rfl⟩ := applyRunEvent_step.mp applied
    rw [annotatedThroughout_concat whole, applied_concat earlier, ordered]
    refine and_congr_right fun kept => ?_
    have annotated := ordered.mpr kept history [] state (List.append_nil _).symm earlier
    refine Iff.trans ?_ (annotated_step annotated accepted distinct)
    exact ⟨fun after => ⟨after.recovery, after.paused, after.nodes⟩,
      fun after => ⟨after.recovery, after.paused, after.nodes⟩⟩

/-- A paused run that is cancelled, as an operator does. -/
def cancelledPause : List RunEvent :=
  numbered "run" [.runCreated "instance" "workflow" "1.0.0" ["build"] [],
    .runPaused (some (.operator "pause-1")), .nodeCancelled "build" "operator",
    .runCancelled (some "cancel-1") "operator"]

def cancelledState : RunState :=
  { runId := "run", workflowInstanceId := "instance", workflowId := "workflow",
    workflowVersion := "1.0.0", status := .cancelled, sequence := 4, inputs := [],
    pauseReason := some (.operator "pause-1"),
    nodes := [{ id := "build", status := .cancelled, attempts := [],
                blockedReason := some "operator" }] }

/-- The cancelled run still reports its pause. -/
theorem cancelledPause_not_annotated :
    replayRun cancelledPause = .ok cancelledState ∧ ¬ cancelledState.Annotated := by
  refine ⟨by decide +kernel, fun annotated => ?_⟩
  cases annotated.paused rfl

/-- A node and its run are paused and resumed, and the run is blocked at last. -/
def resumedRun : List RunEvent :=
  numbered "run" [.runCreated "instance" "workflow" "1.0.0" ["build"] [],
    .runtimeConfigured sampleDescriptor, .nodePaused "build" (some (.operator "pause-1")),
    .runPaused (some (.operator "pause-1")), .runResumed (some "resume-1"),
    .nodeReady "build" .resumed, .attemptScheduled "build" 1 "agent",
    .artifactProduced "build" 1 sampleArtifact,
    .attemptPrepared "build" 1 samplePlan sampleObservation,
    .executionCleanupObserved "build" 1 unknownCleanup,
    .attemptOrphaned "build" 1 lostExecution,
    .runRecoveryBlocked "operation" (.cleanupUnknown "execution")]

theorem resumedRun_checked : replayRun resumedRun = .ok { blockedState with sequence := 12 } ∧
    Applied (fun before event => event.payload.strands before = false) resumedRun := by
  decide +kernel

theorem resumedRun_annotated : AnnotatedThroughout resumedRun :=
  (replayRun_annotated resumedRun_checked.1).mpr resumedRun_checked.2

end Anastom
