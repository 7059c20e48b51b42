import Anastom.Engine.Events

/-! What every accepted event keeps, and how replay, materialization and
concatenation of histories fit together. -/
namespace Anastom

/-- The identity of a run: what no event after the first can change. -/
structure SameRun (before after : RunState) : Prop where
  runId : after.runId = before.runId
  workflowInstanceId : after.workflowInstanceId = before.workflowInstanceId
  workflowId : after.workflowId = before.workflowId
  workflowVersion : after.workflowVersion = before.workflowVersion
  sequence : after.sequence = before.sequence
  inputs : after.inputs = before.inputs
  nodes : Keyed.keys after.nodes = Keyed.keys before.nodes

theorem SameRun.refl (state : RunState) : SameRun state state :=
  ⟨rfl, rfl, rfl, rfl, rfl, rfl, rfl⟩

@[simp] theorem NodeRunState.updateCurrent_id (node : NodeRunState) (f) :
    (node.updateCurrent f).id = node.id := rfl

@[simp] theorem NodeRunState.updateCurrent_status (node : NodeRunState) (f) :
    (node.updateCurrent f).status = node.status := rfl

theorem SameRun.updateNode (state : RunState) (nodeId : String) (f : NodeRunState → NodeRunState)
    (keeps : ∀ node, (f node).id = node.id) : SameRun state (state.updateNode nodeId f) :=
  ⟨rfl, rfl, rfl, rfl, rfl, rfl, Keyed.keys_modify fun node same => (keeps node).trans same⟩

theorem pure_ok {a b : α} : (pure a : Except Failure α) = .ok b ↔ a = b := by
  simp [pure, Except.pure]

theorem requireNode_bind_ok {state : RunState} {nodeId : String} {β : Type}
    {f : NodeRunState → Except Failure β} {b : β} : (requireNode state nodeId >>= f) = .ok b ↔
      ∃ node, state.node? nodeId = some node ∧ f node = .ok b :=
  requireSome_bind_ok

theorem requireNodeStatus_bind_ok {node : NodeRunState} {eventType : String}
    {allowed : List NodeStatus} {β : Type} {next : Except Failure β} {b : β} :
    (requireNodeStatus node eventType allowed >>= fun _ => next) = .ok b ↔
      node.status ∈ allowed ∧ next = .ok b := by
  unfold requireNodeStatus
  rw [require_bind_ok, List.contains_iff_mem]

/-- The current attempt is the one an event names, in the status it needs. -/
def NodeRunState.CurrentIs (node : NodeRunState) (number : Nat) (status : AttemptStatus)
    (attempt : AttemptState) : Prop :=
  node.current = some attempt ∧ attempt.number = number ∧ attempt.status = status

theorem requireCurrentAttempt_ok {node : NodeRunState} {number : Nat} {status : AttemptStatus}
    {attempt : AttemptState} : requireCurrentAttempt node number status = .ok attempt ↔
      node.CurrentIs number status attempt := by
  simp [requireCurrentAttempt, NodeRunState.CurrentIs, Option.filter_eq_some_iff]

theorem requireCurrentAttempt_bind_ok {node : NodeRunState} {number : Nat}
    {status : AttemptStatus} {β : Type} {f : AttemptState → Except Failure β} {b : β} :
    (requireCurrentAttempt node number status >>= f) = .ok b ↔
      ∃ attempt, node.CurrentIs number status attempt ∧ f attempt = .ok b := by
  rw [bind_ok]
  simp only [requireCurrentAttempt_ok]

theorem checkCurrentAttempt_bind_ok {node : NodeRunState} {number : Nat}
    {status : AttemptStatus} {β : Type} {next : Except Failure β} {b : β} :
    (checkCurrentAttempt node number status >>= fun _ => next) = .ok b ↔
      (∃ attempt, node.CurrentIs number status attempt) ∧ next = .ok b := by
  have checked : (∃ u, checkCurrentAttempt node number status = .ok u) ↔
      ∃ attempt, requireCurrentAttempt node number status = .ok attempt := by
    unfold checkCurrentAttempt
    cases requireCurrentAttempt node number status <;> simp [Except.map]
  rw [bind_ok, exists_and_right, checked]
  simp only [requireCurrentAttempt_ok]

theorem applyArtifactProduced_ok {state next : RunState} {nodeId : String} {number : Nat}
    {artifact : ArtifactRef} :
    applyObservationEvent state (.artifactProduced nodeId number artifact) = .ok next ↔
      (∃ node attempt, state.node? nodeId = some node ∧ node.current = some attempt ∧
        attempt.number = number ∧
        ((node.status = .running ∧ attempt.status = .running) ∨
          (node.status = .ready ∧ attempt.status ∈ [AttemptStatus.scheduled, .prepared]))) ∧
      artifact.producer = { runId := state.runId, nodeId, attempt := number } ∧
      next = { state with artifacts := state.artifacts ++ [artifact] } := by
  simp only [applyObservationEvent, requireNode_bind_ok, requireNodeStatus_bind_ok]
  constructor
  · rintro ⟨node, found, allowed, applied⟩
    split at applied
    case isTrue running =>
      simp only [checkCurrentAttempt_bind_ok, require_bind_ok, pure_ok, decide_eq_true_eq] at applied
      obtain ⟨⟨attempt, current, sameNumber, status⟩, producer, rfl⟩ := applied
      exact ⟨⟨node, attempt, found, current, sameNumber, .inl ⟨running, status⟩⟩, producer, rfl⟩
    case isFalse idle =>
      simp only [require_bind_ok, pure_ok, decide_eq_true_eq, Option.any_eq_true,
        Bool.and_eq_true, beq_iff_eq, List.contains_iff_mem] at applied
      obtain ⟨⟨attempt, current, sameNumber, status⟩, producer, rfl⟩ := applied
      have ready : node.status = .ready := by
        simp only [List.mem_cons, List.not_mem_nil, or_false] at allowed
        exact allowed.resolve_right idle
      exact ⟨⟨node, attempt, found, current, sameNumber, .inr ⟨ready, status⟩⟩, producer, rfl⟩
  · rintro ⟨⟨node, attempt, found, current, sameNumber, phase⟩, producer, rfl⟩
    rcases phase with ⟨running, status⟩ | ⟨ready, status⟩
    · refine ⟨node, found, by simp [running], ?_⟩
      rw [if_pos running]
      simp only [checkCurrentAttempt_bind_ok, require_bind_ok, pure_ok, decide_eq_true_eq]
      exact ⟨⟨attempt, current, sameNumber, status⟩, producer, trivial⟩
    · refine ⟨node, found, by simp [ready], ?_⟩
      rw [if_neg (by simp [ready])]
      simp only [require_bind_ok, pure_ok, decide_eq_true_eq, Option.any_eq_true,
        Bool.and_eq_true, beq_iff_eq, List.contains_iff_mem]
      exact ⟨⟨attempt, current, sameNumber, status⟩, producer, trivial⟩

theorem applyNodeBlocked_ok {state next : RunState} {nodeId reason : String} :
    applyNodeEvent state (.nodeBlocked nodeId reason) = .ok next ↔
      (∃ node, state.node? nodeId = some node ∧
        node.status ∈ [NodeStatus.pending, .ready, .running] ∧
        (node.status = .running →
          ∃ attempt, node.CurrentIs node.attempts.length .blocked attempt)) ∧
      next = state.updateNode nodeId fun node =>
        { node with status := .blocked, blockedReason := some reason } := by
  simp only [applyNodeEvent, requireNode_bind_ok, requireNodeStatus_bind_ok]
  constructor
  · rintro ⟨node, found, allowed, applied⟩
    split at applied
    case isTrue running =>
      simp only [checkCurrentAttempt_bind_ok, pure_ok] at applied
      exact ⟨⟨node, found, allowed, fun _ => applied.1⟩, applied.2.symm⟩
    case isFalse idle =>
      simp only [pure_ok] at applied
      exact ⟨⟨node, found, allowed, fun running => absurd running idle⟩, applied.symm⟩
  · rintro ⟨⟨node, found, allowed, current⟩, rfl⟩
    refine ⟨node, found, allowed, ?_⟩
    by_cases running : node.status = .running
    · rw [if_pos running]
      simp only [checkCurrentAttempt_bind_ok, pure_ok]
      exact ⟨current running, trivial⟩
    · rw [if_neg running]
      rfl

theorem configuration_same {state next : RunState} {payload : RunEventPayload}
    (applied : applyConfigurationEvent state payload = .ok next) : SameRun state next := by
  cases payload <;>
    simp only [applyConfigurationEvent, require_bind_ok, pure_ok] at applied
  case runtimeNegotiated => obtain ⟨_, _, rfl⟩ := applied; exact ⟨rfl, rfl, rfl, rfl, rfl, rfl, rfl⟩
  case runtimeConfigured => obtain ⟨_, _, rfl⟩ := applied; exact ⟨rfl, rfl, rfl, rfl, rfl, rfl, rfl⟩
  all_goals subst applied; exact SameRun.refl _

theorem observation_same {state next : RunState} {payload : RunEventPayload}
    (applied : applyObservationEvent state payload = .ok next) : SameRun state next := by
  cases payload
  case artifactProduced =>
    obtain ⟨_, _, rfl⟩ := applyArtifactProduced_ok.mp applied
    exact ⟨rfl, rfl, rfl, rfl, rfl, rfl, rfl⟩
  all_goals
    simp only [applyObservationEvent, requireNode_bind_ok, checkCurrentAttempt_bind_ok,
      require_bind_ok, pure_ok] at applied
  case workspaceAssigned => obtain ⟨_, rfl⟩ := applied; exact ⟨rfl, rfl, rfl, rfl, rfl, rfl, rfl⟩
  case workspaceObserved =>
    obtain ⟨_, _, _, _, rfl⟩ := applied; exact ⟨rfl, rfl, rfl, rfl, rfl, rfl, rfl⟩
  case commandCompleted =>
    obtain ⟨_, _, _, rfl⟩ := applied; exact SameRun.updateNode _ _ _ fun _ => rfl
  all_goals subst applied; exact SameRun.refl _

theorem operational_same {state next : RunState} {payload : RunEventPayload}
    (applied : applyOperationalEvent state payload = .ok next) : SameRun state next := by
  cases payload
  case executionCleanupObserved =>
    simp only [applyOperationalEvent, requireNode_bind_ok, requireSome_bind_ok, require_bind_ok,
      pure_ok] at applied
    obtain ⟨_, _, _, _, _, rfl⟩ := applied
    exact SameRun.updateNode _ _ _ fun _ => rfl
  all_goals
    simp only [applyOperationalEvent, pure_ok] at applied
    subst applied
    exact SameRun.refl _

theorem timeout_same {state next : RunState} {payload : RunEventPayload}
    (applied : applyTimeoutEvent state payload = .ok next) : SameRun state next := by
  cases payload
  case attemptTimeoutRequested =>
    simp only [applyTimeoutEvent, requireNode_bind_ok, requireNodeStatus_bind_ok,
      requireCurrentAttempt_bind_ok, require_bind_ok, pure_ok] at applied
    obtain ⟨_, _, _, _, _, _, rfl⟩ := applied
    exact SameRun.updateNode _ _ _ fun _ => rfl
  case attemptCancellationCompleted | lateResultObserved =>
    simp only [applyTimeoutEvent, requireNode_bind_ok, requireCurrentAttempt_bind_ok,
      require_bind_ok, pure_ok] at applied
    obtain ⟨_, _, _, _, _, rfl⟩ := applied
    exact SameRun.updateNode _ _ _ fun _ => rfl
  all_goals
    simp only [applyTimeoutEvent, pure_ok] at applied
    subst applied
    exact SameRun.refl _

theorem attempt_same {state next : RunState} {payload : RunEventPayload}
    (applied : applyAttemptEvent state payload = .ok next) : SameRun state next := by
  have node (id : String) (f) (keeps : ∀ node : NodeRunState, (f node).id = node.id) :
      SameRun state (state.updateNode id f) := SameRun.updateNode _ _ _ keeps
  cases payload
  case attemptScheduled =>
    simp only [applyAttemptEvent, requireNode_bind_ok, requireNodeStatus_bind_ok, require_bind_ok,
      pure_ok] at applied
    obtain ⟨_, _, _, _, _, rfl⟩ := applied
    exact node _ _ fun _ => rfl
  case attemptPrepared =>
    simp only [applyAttemptEvent, applyAttemptPrepared, requireNode_bind_ok,
      requireNodeStatus_bind_ok, requireCurrentAttempt_bind_ok, require_bind_ok,
      pure_ok] at applied
    obtain ⟨_, _, _, _, _, _, _, _, rfl⟩ := applied
    exact node _ _ fun _ => rfl
  case attemptStartAuthorized =>
    simp only [applyAttemptEvent, applyAttemptStartAuthorized, requireNode_bind_ok,
      requireNodeStatus_bind_ok, requireCurrentAttempt_bind_ok, require_bind_ok,
      pure_ok] at applied
    obtain ⟨_, _, _, _, _, _, rfl⟩ := applied
    exact node _ _ fun _ => rfl
  case attemptOrphaned =>
    simp only [applyAttemptEvent, applyAttemptOrphaned, requireNode_bind_ok,
      requireNodeStatus_bind_ok, require_bind_ok, pure_ok] at applied
    obtain ⟨_, _, _, _, _, _, rfl⟩ := applied
    exact node _ _ fun _ => rfl
  case attemptStarted =>
    simp only [applyAttemptEvent, requireNode_bind_ok, requireNodeStatus_bind_ok,
      checkCurrentAttempt_bind_ok, require_bind_ok, pure_ok] at applied
    obtain ⟨_, _, _, _, _, rfl⟩ := applied
    exact node _ _ fun _ => rfl
  case runtimeEventObserved id _ event =>
    simp only [applyAttemptEvent, requireNode_bind_ok, requireNodeStatus_bind_ok,
      requireCurrentAttempt_bind_ok] at applied
    obtain ⟨_, _, _, _, _, applied⟩ := applied
    cases event with
    | usage =>
      simp only [require_bind_ok, pure_ok] at applied
      obtain ⟨_, rfl⟩ := applied
      exact node _ _ fun _ => rfl
    | metadata =>
      simp only [pure_ok] at applied
      subst applied
      exact node _ _ fun _ => rfl
    | started | log | completed =>
      simp only [pure_ok] at applied
      subst applied
      exact SameRun.refl _
  case attemptSucceeded | attemptFailed | attemptBlocked | attemptCancelled =>
    simp only [applyAttemptEvent, requireNode_bind_ok, requireNodeStatus_bind_ok,
      requireCurrentAttempt_bind_ok, require_bind_ok, pure_ok] at applied
    obtain ⟨_, _, _, _, _, _, rfl⟩ := applied
    exact node _ _ fun _ => rfl
  all_goals
    simp only [applyAttemptEvent, pure_ok] at applied
    subst applied
    exact SameRun.refl _

theorem node_same {state next : RunState} {payload : RunEventPayload}
    (applied : applyNodeEvent state payload = .ok next) : SameRun state next := by
  have node (id : String) (f) (keeps : ∀ node : NodeRunState, (f node).id = node.id) :
      SameRun state (state.updateNode id f) := SameRun.updateNode _ _ _ keeps
  cases payload
  case nodeReady =>
    simp only [applyNodeEvent, requireNode_bind_ok, requireNodeStatus_bind_ok, require_bind_ok,
      pure_ok] at applied
    obtain ⟨_, _, _, _, _, rfl⟩ := applied
    exact node _ _ fun _ => rfl
  case nodeSucceeded | nodeFailed =>
    simp only [applyNodeEvent, requireNode_bind_ok, requireNodeStatus_bind_ok,
      checkCurrentAttempt_bind_ok, pure_ok] at applied
    obtain ⟨_, _, _, _, rfl⟩ := applied
    exact node _ _ fun _ => rfl
  case nodeBlocked =>
    obtain ⟨_, rfl⟩ := applyNodeBlocked_ok.mp applied
    exact node _ _ fun _ => rfl
  case nodePaused _ reason =>
    cases reason with
    | none =>
      simp only [applyNodeEvent, requireNode_bind_ok, requireNodeStatus_bind_ok,
        pure_ok] at applied
      obtain ⟨_, _, _, rfl⟩ := applied
      exact node _ _ fun _ => rfl
    | some reason =>
      simp only [applyNodeEvent, requireNode_bind_ok, requireNodeStatus_bind_ok,
        require_bind_ok, pure_ok] at applied
      obtain ⟨_, _, _, _, rfl⟩ := applied
      exact node _ _ fun _ => rfl
  case nodeCancelled =>
    simp only [applyNodeEvent, requireNode_bind_ok, requireNodeStatus_bind_ok, require_bind_ok,
      pure_ok] at applied
    obtain ⟨_, _, _, _, rfl⟩ := applied
    exact node _ _ fun _ => rfl
  all_goals
    simp only [applyNodeEvent, pure_ok] at applied
    subst applied
    exact SameRun.refl _

theorem lifecycle_same {state next : RunState} {payload : RunEventPayload}
    (applied : applyLifecycleEvent state payload = .ok next) : SameRun state next := by
  cases payload <;>
    simp only [applyLifecycleEvent, applyRunPaused, applyRunResumed, applyRunRecoveryBlocked,
      require_bind_ok, requireSome_bind_ok, pure_ok] at applied
  case runPaused => obtain ⟨_, _, rfl⟩ := applied; exact ⟨rfl, rfl, rfl, rfl, rfl, rfl, rfl⟩
  case runResumed => obtain ⟨_, _, rfl⟩ := applied; exact ⟨rfl, rfl, rfl, rfl, rfl, rfl, rfl⟩
  case runRecoveryBlocked =>
    obtain ⟨_, _, _, _, rfl⟩ := applied; exact ⟨rfl, rfl, rfl, rfl, rfl, rfl, rfl⟩
  case runBlocked => obtain ⟨_, rfl⟩ := applied; exact ⟨rfl, rfl, rfl, rfl, rfl, rfl, rfl⟩
  case runCancelled => obtain ⟨_, _, rfl⟩ := applied; exact ⟨rfl, rfl, rfl, rfl, rfl, rfl, rfl⟩
  case runCompleted => obtain ⟨_, _, _, rfl⟩ := applied; exact ⟨rfl, rfl, rfl, rfl, rfl, rfl, rfl⟩
  all_goals subst applied; exact SameRun.refl _

theorem applyPayload_same {state next : RunState} {payload : RunEventPayload}
    (applied : applyPayload state payload = .ok next) : SameRun state next := by
  cases payload <;> simp only [applyPayload] at applied
  case runtimeNegotiated | runtimeConfigured => exact configuration_same applied
  case workspaceAssigned | artifactProduced | workspaceObserved | commandCompleted =>
    exact observation_same applied
  case attemptTimeoutRequested | attemptCancellationCompleted | lateResultObserved =>
    exact timeout_same applied
  case controlRequestObserved | executionCleanupObserved => exact operational_same applied
  case attemptScheduled | attemptPrepared | attemptStartAuthorized | attemptStarted |
      runtimeEventObserved | attemptSucceeded | attemptFailed | attemptBlocked |
      attemptCancelled | attemptOrphaned => exact attempt_same applied
  case nodeReady | nodeSucceeded | nodeFailed | nodeBlocked | nodePaused | nodeCancelled =>
    exact node_same applied
  case runPaused | runResumed | runBlocked | runCancelled | runCompleted |
      runRecoveryBlocked => exact lifecycle_same applied
  case runCreated => cases applied

theorem applyRunEvent_some_ok {state next : RunState} {event : RunEvent} :
    applyRunEvent (some state) event = .ok next ↔
      validRunEvent event = true ∧ event.runId = state.runId ∧
      event.sequence = state.sequence + 1 ∧ event.payload.continues = true ∧
      state.status.terminal = false ∧
      applyPayload { state with sequence := event.sequence } event.payload = .ok next := by
  simp only [applyRunEvent, assertRunEvent, require_bind_ok, beq_iff_eq, Bool.not_eq_true']

theorem applyRunEvent_none_ok {next : RunState} {event : RunEvent} :
    applyRunEvent none event = .ok next ↔
      validRunEvent event = true ∧ createdState event event.payload = .ok next := by
  simp only [applyRunEvent, assertRunEvent, require_bind_ok]

theorem createdState_sequence {next : RunState} {event : RunEvent}
    (created : createdState event event.payload = .ok next) :
    next.sequence = event.sequence ∧ event.sequence = 1 ∧ next.runId = event.runId := by
  revert created
  cases event.payload <;> simp only [createdState, require_bind_ok, pure_ok, beq_iff_eq,
    reduceCtorEq, false_imp_iff]
  rintro ⟨first, rfl⟩
  exact ⟨rfl, first, rfl⟩

/-- An accepted event is the next one of its run. -/
theorem applyRunEvent_sequence {current : Option RunState} {next : RunState} {event : RunEvent}
    (applied : applyRunEvent current event = .ok next) :
    next.sequence = event.sequence ∧ event.sequence = nextSequence current ∧
      next.runId = event.runId := by
  cases current with
  | none =>
    obtain ⟨_, created⟩ := applyRunEvent_none_ok.mp applied
    exact createdState_sequence created
  | some state =>
    obtain ⟨_, run, sequence, _, _, payload⟩ := applyRunEvent_some_ok.mp applied
    have same := applyPayload_same payload
    exact ⟨same.sequence, sequence, same.runId.trans run.symm⟩

theorem applyRunEvent_valid {current : Option RunState} {next : RunState} {event : RunEvent}
    (applied : applyRunEvent current event = .ok next) : validRunEvent event = true := by
  cases current with
  | none => exact (applyRunEvent_none_ok.mp applied).1
  | some state => exact (applyRunEvent_some_ok.mp applied).1

@[simp] theorem foldEvents_nil (current : Option RunState) :
    foldEvents current [] = .ok current := rfl

theorem foldEvents_cons_ok {current final : Option RunState} {event : RunEvent}
    {rest : List RunEvent} : foldEvents current (event :: rest) = .ok final ↔
      ∃ state, applyRunEvent current event = .ok state ∧
        foldEvents (some state) rest = .ok final := by
  simp only [foldEvents, bind_ok]

theorem foldEvents_append (current : Option RunState) (first rest : List RunEvent) :
    foldEvents current (first ++ rest) =
      foldEvents current first >>= fun state => foldEvents state rest := by
  induction first generalizing current with
  | nil => rfl
  | cons event first ih =>
    simp only [List.cons_append, foldEvents]
    cases applyRunEvent current event with
    | error failure => rfl
    | ok state => exact ih (some state)

theorem foldEvents_append_ok {current final : Option RunState} {first rest : List RunEvent} :
    foldEvents current (first ++ rest) = .ok final ↔
      ∃ state, foldEvents current first = .ok state ∧ foldEvents state rest = .ok final := by
  rw [foldEvents_append, bind_ok]

/-- Sequences of an accepted continuation count up from its start. -/
theorem foldEvents_sequence {current final : Option RunState} {events : List RunEvent}
    (folded : foldEvents current events = .ok final) :
    (∀ i (inside : i < events.length), (events[i]).sequence = nextSequence current + i) ∧
      nextSequence final = nextSequence current + events.length := by
  induction events generalizing current with
  | nil =>
    simp only [foldEvents_nil, Except.ok.injEq] at folded
    subst folded
    simp
  | cons event rest ih =>
    obtain ⟨state, applied, folded⟩ := foldEvents_cons_ok.mp folded
    obtain ⟨stateSequence, eventSequence, _⟩ := applyRunEvent_sequence applied
    have advanced : nextSequence (some state) = nextSequence current + 1 := by
      simp [nextSequence, stateSequence, eventSequence]
    obtain ⟨each, last⟩ := ih folded
    refine ⟨?_, by simp [last, advanced]; omega⟩
    intro i inside
    cases i with
    | zero => simpa using eventSequence
    | succ i =>
      simp only [List.getElem_cons_succ]
      rw [each i (by simpa using inside), advanced]
      omega

theorem foldEvents_runId {state final : RunState} {events : List RunEvent}
    (folded : foldEvents (some state) events = .ok (some final)) :
    final.runId = state.runId ∧ ∀ event ∈ events, event.runId = state.runId := by
  induction events generalizing state with
  | nil =>
    simp only [foldEvents_nil, Except.ok.injEq, Option.some.injEq] at folded
    exact ⟨by rw [folded], by simp⟩
  | cons event rest ih =>
    obtain ⟨next, applied, folded⟩ := foldEvents_cons_ok.mp folded
    obtain ⟨_, run, _⟩ := applyRunEvent_some_ok.mp applied
    have sameRun := (applyRunEvent_sequence applied).2.2
    obtain ⟨last, each⟩ := ih folded
    have nextRun : next.runId = state.runId := sameRun.trans run
    refine ⟨last.trans nextRun, ?_⟩
    intro e member
    rcases List.mem_cons.mp member with rfl | member
    · exact run
    · exact (each e member).trans nextRun

theorem foldEvents_some {state : RunState} {events : List RunEvent} {final : Option RunState}
    (folded : foldEvents (some state) events = .ok final) : ∃ last, final = some last := by
  induction events generalizing state with
  | nil =>
    simp only [foldEvents_nil, Except.ok.injEq] at folded
    exact ⟨state, folded.symm⟩
  | cons event rest ih =>
    obtain ⟨next, _, folded⟩ := foldEvents_cons_ok.mp folded
    exact ih folded

theorem replayRun_ok {events : List RunEvent} {state : RunState} :
    replayRun events = .ok state ↔ foldEvents none events = .ok (some state) := by
  simp only [replayRun, bind_ok, requireSome_ok]
  constructor
  · rintro ⟨_, folded, rfl⟩; exact folded
  · intro folded; exact ⟨_, folded, rfl⟩

theorem replayRun_append_ok {events batch : List RunEvent} {state final : RunState}
    (replayed : replayRun events = .ok state) :
    replayRun (events ++ batch) = .ok final ↔
      foldEvents (some state) batch = .ok (some final) := by
  rw [replayRun_ok, foldEvents_append, replayRun_ok.mp replayed]
  rfl

theorem replayRun_nonempty {events : List RunEvent} {state : RunState}
    (replayed : replayRun events = .ok state) : events ≠ [] := by
  rintro rfl
  simp [replayRun, foldEvents, requireSome, bind, Except.bind] at replayed

theorem replayRun_sequence {events : List RunEvent} {state : RunState}
    (replayed : replayRun events = .ok state) :
    (∀ i (inside : i < events.length), (events[i]).sequence = i + 1) ∧
      state.sequence = events.length := by
  obtain ⟨each, last⟩ := foldEvents_sequence (replayRun_ok.mp replayed)
  refine ⟨fun i inside => ?_, ?_⟩
  · have := each i inside
    simp only [nextSequence, Option.map_none, Option.getD_none] at this
    omega
  · simp only [nextSequence, Option.map_some, Option.getD_some, Option.map_none,
      Option.getD_none] at last
    omega

theorem replayRun_runId {events : List RunEvent} {state : RunState}
    (replayed : replayRun events = .ok state) : ∀ event ∈ events, event.runId = state.runId := by
  cases events with
  | nil => simp
  | cons first rest =>
    obtain ⟨created, applied, folded⟩ := foldEvents_cons_ok.mp (replayRun_ok.mp replayed)
    obtain ⟨last, each⟩ := foldEvents_runId folded
    have start := (applyRunEvent_sequence applied).2.2
    intro e member
    rcases List.mem_cons.mp member with rfl | member
    · exact start.symm.trans last.symm
    · exact (each e member).trans last.symm

theorem foldEvents_valid {current final : Option RunState} {events : List RunEvent}
    (folded : foldEvents current events = .ok final) :
    ∀ event ∈ events, validRunEvent event = true := by
  induction events generalizing current with
  | nil => simp
  | cons event rest ih =>
    obtain ⟨state, applied, folded⟩ := foldEvents_cons_ok.mp folded
    intro e member
    rcases List.mem_cons.mp member with rfl | member
    · exact applyRunEvent_valid applied
    · exact ih folded e member

theorem replayRun_bounded {events : List RunEvent} {state : RunState}
    (replayed : replayRun events = .ok state) :
    ∀ event ∈ events, event.sequence ≤ maxSafeInteger := by
  intro event member
  have valid := foldEvents_valid (replayRun_ok.mp replayed) event member
  simp only [validRunEvent, positive, Bool.and_eq_true, decide_eq_true_eq] at valid
  exact valid.1.2

/-- Materialized payloads are exactly the events whose fold they were checked by. -/
theorem materializeFrom_ok {current final : Option RunState} {runId : String}
    {payloads : List RunEventPayload} {events : List RunEvent}
    (materialized : materializeFrom current runId payloads = .ok (events, final)) :
    events.map RunEvent.payload = payloads ∧ (∀ event ∈ events, event.runId = runId) ∧
      foldEvents current events = .ok final := by
  induction payloads generalizing current events with
  | nil =>
    simp only [materializeFrom, Except.ok.injEq, Prod.mk.injEq] at materialized
    obtain ⟨rfl, rfl⟩ := materialized
    simp
  | cons payload rest ih =>
    simp only [materializeFrom, bind_ok, pure_ok, Prod.mk.injEq, Prod.exists] at materialized
    obtain ⟨state, applied, tail, _, continued, rfl, rfl⟩ := materialized
    obtain ⟨payloads, runIds, folded⟩ := ih continued
    refine ⟨by simp [payloads], ?_, foldEvents_cons_ok.mpr ⟨state, applied, folded⟩⟩
    intro e member
    rcases List.mem_cons.mp member with rfl | member
    · rfl
    · exact runIds e member

theorem materializeEvents_ok {current : Option RunState} {runId : String}
    {payloads : List RunEventPayload} {events : List RunEvent} {state : RunState} :
    materializeEvents current runId payloads = .ok (events, state) ↔
      materializeFrom current runId payloads = .ok (events, some state) := by
  simp only [materializeEvents, bind_ok, requireSome_ok, pure_ok, Prod.mk.injEq, Prod.exists]
  constructor
  · rintro ⟨_, _, materialized, _, rfl, rfl, rfl⟩; exact materialized
  · intro materialized; exact ⟨_, _, materialized, _, rfl, rfl, rfl⟩

theorem materializeEvents_fold {current : Option RunState} {runId : String}
    {payloads : List RunEventPayload} {events : List RunEvent} {state : RunState}
    (materialized : materializeEvents current runId payloads = .ok (events, state)) :
    events.map RunEvent.payload = payloads ∧ (∀ event ∈ events, event.runId = runId) ∧
      foldEvents current events = .ok (some state) :=
  materializeFrom_ok (materializeEvents_ok.mp materialized)

end Anastom
