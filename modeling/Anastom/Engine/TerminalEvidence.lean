import Anastom.Engine.AttemptLifecycle

/-! What no event changes after the end of a node or of a run, and what a recorded
success says about the attempts behind it. -/
namespace Anastom
open RunEventPayload

/-- The statuses that end a node. -/
def NodeStatus.terminal (status : NodeStatus) : Bool :=
  [NodeStatus.succeeded, .failed, .cancelled].contains status

/-- A node after later events: only cleanup evidence of its last owned execution is new. -/
inductive NodeRunState.Frozen (node : NodeRunState) : NodeRunState → Prop
  | same : Frozen node node
  | cleanup (attempt : AttemptState) (plan : ExecutionPlanRef) (evidence : List CleanupEvidence)
      (current : node.current = some attempt) (planned : attempt.executionPlan = some plan)
      (owned : ∀ item ∈ evidence, item.executionId = plan.executionId) :
      Frozen node (node.updateCurrent fun attempt =>
        { attempt with cleanup := attempt.cleanup ++ evidence })

theorem NodeRunState.CurrentIs.live {node : NodeRunState} {number : Nat} {attempt : AttemptState}
    (current : node.CurrentIs number .running attempt) (coherent : node.Coherent) :
    node.status = .running :=
  coherent.running attempt current.1 current.2.2

/-- The node statuses in which an event may change its node. -/
def RunEventPayload.openStatuses : RunEventPayload → List NodeStatus
  | .nodeReady _ reason => reason.allowed
  | .attemptScheduled .. | .attemptPrepared .. | .attemptStartAuthorized .. | .attemptStarted .. =>
    [.ready]
  | .attemptOrphaned .. => [.ready, .running]
  | .nodeBlocked .. | .nodePaused .. => [.pending, .ready, .running]
  | .nodeCancelled .. => [.pending, .ready, .running, .blocked, .paused]
  | _ => [.running]

theorem RunEventPayload.openStatuses_live (payload : RunEventPayload) {status : NodeStatus}
    (member : status ∈ payload.openStatuses) : status.terminal = false := by
  unfold openStatuses at member
  split at member
  case h_1 reason => cases reason <;> cases status <;> simp_all [ReadyReason.allowed, NodeStatus.terminal]
  all_goals cases status <;> simp_all [NodeStatus.terminal]

/-- Every event but cleanup evidence needs its node open. -/
theorem RunEventPayload.Moves.open {payload : RunEventPayload} {state : RunState}
    {node next : NodeRunState} (moves : payload.Moves state node next) (coherent : node.Coherent) :
    (∃ number evidence, payload = .executionCleanupObserved node.id number evidence) ∨
      node.status ∈ payload.openStatuses := by
  obtain ⟨_, guard, f, change, rfl⟩ := moves
  cases payload
  case executionCleanupObserved nodeId number evidence =>
    obtain ⟨rfl, _⟩ := Prod.mk.inj (Option.some.inj change)
    exact .inl ⟨number, evidence, rfl⟩
  case commandCompleted nodeId number output =>
    obtain ⟨attempt, current⟩ := guard
    exact .inr (List.mem_singleton.mpr (current.live coherent))
  case attemptCancellationCompleted nodeId number outcome =>
    obtain ⟨attempt, _, current, _⟩ := guard
    exact .inr (List.mem_singleton.mpr (current.live coherent))
  case lateResultObserved nodeId number status =>
    obtain ⟨attempt, _, current, _⟩ := guard
    exact .inr (List.mem_singleton.mpr (current.live coherent))
  case nodePaused nodeId reason =>
    cases reason with
    | some reason => exact .inr guard.1
    | none =>
      have status : node.status ∈ [NodeStatus.pending, .ready] := guard
      exact .inr (List.mem_append_left [NodeStatus.running] status)
  case attemptOrphaned | nodeReady | nodeBlocked | nodeCancelled => exact .inr guard.1
  all_goals first
    | exact .inr (List.mem_singleton.mpr guard.1)
    | cases change

/-- A terminal node admits nothing but cleanup evidence. -/
theorem RunEventPayload.Moves.terminal {payload : RunEventPayload} {state : RunState}
    {node next : NodeRunState} (moves : payload.Moves state node next) (coherent : node.Coherent)
    (terminal : node.status.terminal = true) : node.Frozen next := by
  rcases moves.open coherent with ⟨number, evidence, rfl⟩ | status
  · obtain ⟨_, guard, f, change, rfl⟩ := moves
    obtain ⟨_, rfl⟩ := Prod.mk.inj (Option.some.inj change)
    obtain ⟨attempt, plan, current, _, _, planned, same, _⟩ := guard
    exact .cleanup attempt plan [evidence] current planned (by simpa using same.symm)
  · rw [payload.openStatuses_live status] at terminal
    cases terminal

namespace NodeRunState.Frozen
variable {node after final : NodeRunState}

theorem status (frozen : node.Frozen after) : after.status = node.status := by
  cases frozen <;> rfl

theorem trans (first : node.Frozen after) (second : after.Frozen final) : node.Frozen final := by
  cases first with
  | same => exact second
  | cleanup attempt plan evidence current planned owned =>
    cases second with
    | same => exact .cleanup attempt plan evidence current planned owned
    | cleanup last other more same planned' owned' =>
      have last_same : (node.updateCurrent fun attempt =>
          { attempt with cleanup := attempt.cleanup ++ evidence }).current =
          some { attempt with cleanup := attempt.cleanup ++ evidence } := by
        rw [NodeRunState.current, updateCurrent_attempts current, List.getLast?_concat]
      rw [last_same, Option.some.injEq] at same
      subst same
      rw [planned, Option.some.injEq] at planned'
      subst planned'
      rw [updateCurrent_updateCurrent]
      simp only [List.append_assoc]
      refine .cleanup attempt plan (evidence ++ more) current planned fun item member => ?_
      exact (List.mem_append.mp member).elim (owned item) (owned' item)

end NodeRunState.Frozen

/-- Later events leave a terminal node frozen. -/
theorem replayRun_frozen {events later : List RunEvent} {state final : RunState}
    (replayed : replayRun events = .ok state) (continued : replayRun (events ++ later) = .ok final)
    {id : String} {node : NodeRunState} (found : state.node? id = some node)
    (terminal : node.status.terminal = true) :
    ∃ after, final.node? id = some after ∧ node.Frozen after := by
  refine replayRun_extension (P := fun final => ∃ after, final.node? id = some after ∧
    node.Frozen after) replayed ⟨node, found, .same⟩ ?_ continued
  rintro history before event next earlier ⟨middle, present, frozen⟩ applied
  obtain ⟨_, _, _, _, accepted, rfl⟩ := applyRunEvent_step.mp applied
  obtain ⟨after, last, ⟨rfl, _⟩ | moves⟩ := effect_of_node accepted present
  · exact ⟨after, last, frozen⟩
  · refine ⟨after, last, frozen.trans (moves.terminal ?_ (frozen.status ▸ terminal))⟩
    exact replayRun_coherent earlier (Keyed.find_mem present)

/-- Only a succeeded attempt sets the output of its node, and no attempt follows it. -/
theorem RunEventPayload.Moves.output {payload : RunEventPayload} {state : RunState}
    {node next : NodeRunState} (moves : payload.Moves state node next) (coherent : node.Coherent) :
    (next.output = node.output ∧ (next.attempts.length = node.attempts.length ∨ node.output = none) ∧
      ∀ number output, payload ≠ .attemptSucceeded node.id number output) ∨
    ∃ output, payload = .attemptSucceeded node.id node.attempts.length output ∧
      next.output = some output ∧ next.attempts.length = node.attempts.length ∧
      node.output = none := by
  have lengths : next.attempts.length = node.attempts.length ∨ node.output = none := by
    cases moves.attempts with
    | same attempts => exact .inl (congrArg List.length attempts)
    | rewritten attempt after current _ attempts =>
      rw [attempts_of_current current, attempts]
      exact .inl (by simp)
    | scheduled runtimeId event attempts =>
      subst event
      have ready : node.status = .ready := moves.guard.1
      refine .inr (Option.not_isSome_iff_eq_none.mp fun output => ?_)
      obtain ⟨attempt, current, succeeded⟩ := coherent.output.mp output
      exact (coherent.idle (by simp [ready]) (by simp [ready]) attempt current).2 succeeded
  obtain ⟨_, guard, f, change, rfl⟩ := moves
  cases payload
  case attemptSucceeded nodeId number output =>
    obtain ⟨rfl, rfl⟩ := Prod.mk.inj (Option.some.inj change)
    obtain ⟨_, attempt, ⟨current, same, running⟩, _⟩ := guard
    have silent : node.output = none := by
      rw [← Option.not_isSome_iff_eq_none, coherent.output_iff current, running]
      simp
    rw [coherent.current_number current] at same
    exact .inr ⟨output, by rw [same], rfl, updateCurrent_length node _, silent⟩
  case runtimeEventObserved nodeId number event =>
    cases event <;> cases change
    all_goals exact .inl ⟨rfl, lengths, by simp⟩
  case nodePaused nodeId reason =>
    cases reason <;> cases change
    all_goals exact .inl ⟨rfl, lengths, by simp⟩
  all_goals cases change
  all_goals exact .inl ⟨rfl, lengths, by simp⟩

/-- The output of a node is what its last attempt's success recorded, and the history
records no other success of the node. -/
theorem replayRun_output {events : List RunEvent} {state : RunState}
    (replayed : replayRun events = .ok state) {id : String} {node : NodeRunState}
    (found : state.node? id = some node) (number : Nat) (output : JsonValue) :
    (∃ event ∈ events, event.payload = .attemptSucceeded id number output) ↔
      node.output = some output ∧ number = node.attempts.length := by
  refine replayRun_induction (P := fun events state => ∀ {id node}, state.node? id = some node →
    ∀ number output, (∃ event ∈ events, event.payload = .attemptSucceeded id number output) ↔
      node.output = some output ∧ number = node.attempts.length) ?_ ?_ replayed found number output
  · intro event state applied id node found number output
    have first := applyRunEvent_none_ok.mp applied
    rw [(createdState_nodes applied).2 node (Keyed.find_mem found)]
    refine iff_of_false ?_ (by simp [NodeRunState.fresh])
    rintro ⟨other, member, payload⟩
    rw [List.mem_singleton.mp member] at payload
    rw [payload] at first
    cases first.2
  · intro history state event next earlier recorded applied id node found number output
    obtain ⟨_, _, _, _, accepted, rfl⟩ := applyRunEvent_step.mp applied
    obtain ⟨before, present, ⟨rfl, other⟩ | moves⟩ := effect_node accepted found
    · rw [← recorded present number output]
      simp only [List.mem_append, List.mem_singleton, or_and_right, exists_or, exists_eq_left]
      refine or_iff_left fun payload => ?_
      rw [payload] at other
      exact other _ rfl
    · have key : before.id = id := Keyed.find_key present
      subst key
      have coherent := replayRun_coherent earlier (Keyed.find_mem present)
      simp only [List.mem_append, List.mem_singleton, or_and_right, exists_or, exists_eq_left]
      rw [recorded present number output]
      rcases moves.output coherent with ⟨same, length, other⟩ | ⟨value, payload, same, length, silent⟩
      · rw [same, or_iff_left (other number output)]
        rcases length with length | silent
        · rw [length]
        · simp [silent]
      · rw [payload, same, length, silent]
        simp [and_comm, eq_comm]

/-- The events that end a run. -/
def RunEventPayload.ends : RunEventPayload → Bool
  | .runCompleted _ | .runCancelled _ _ => true
  | _ => false

theorem ends_terminal {payload : RunEventPayload} (ends : payload.ends = true) (state : RunState) :
    (payload.effect state).status.terminal = true := by
  cases payload
  case runCompleted outcome => cases outcome <;> rfl
  case runCancelled => rfl
  all_goals cases ends

/-- The first event creates the run, with the nodes of the state. -/
def CreatesNodes (events : List RunEvent) (state : RunState) : Prop :=
  ∃ event rest workflowInstanceId workflowId workflowVersion nodeIds inputs,
    events = event :: rest ∧
    event.payload = .runCreated workflowInstanceId workflowId workflowVersion nodeIds inputs ∧
    ∀ nodeId, nodeId ∈ nodeIds ↔ ∃ node, state.node? nodeId = some node

theorem replayRun_createsNodes {events : List RunEvent} {state : RunState}
    (replayed : replayRun events = .ok state) : CreatesNodes events state := by
  refine replayRun_induction ?_ ?_ replayed
  · intro event state applied
    obtain ⟨_, created⟩ := applyRunEvent_none_ok.mp applied
    cases payload : event.payload <;> rw [payload] at created <;>
      simp only [createdState, require_bind_ok, pure_ok, reduceCtorEq] at created
    case runCreated workflowInstanceId workflowId workflowVersion nodeIds inputs =>
      obtain ⟨_, rfl⟩ := created
      refine ⟨event, [], workflowInstanceId, workflowId, workflowVersion, nodeIds, inputs, rfl,
        payload, fun nodeId => ?_⟩
      have names : (Keyed.key ∘ NodeRunState.fresh) = id := rfl
      rw [← Option.isSome_iff_exists, RunState.node?, Keyed.find_isSome, Keyed.keys, List.map_map,
        ← (Js.objectKeys_perm nodeIds).mem_iff]
      show _ ↔ nodeId ∈ (Js.objectKeys nodeIds).map (Keyed.key ∘ NodeRunState.fresh)
      rw [names, List.map_id]
  · rintro history state event next _ ⟨first, rest, workflowInstanceId, workflowId, workflowVersion,
      nodeIds, inputs, rfl, created, named⟩ applied
    obtain ⟨_, _, _, _, accepted, rfl⟩ := applyRunEvent_step.mp applied
    refine ⟨first, rest ++ [event], workflowInstanceId, workflowId, workflowVersion, nodeIds, inputs,
      rfl, created, fun nodeId => (named nodeId).trans ?_⟩
    constructor
    · rintro ⟨before, found⟩
      obtain ⟨node, present, _⟩ := effect_of_node accepted found
      exact ⟨node, present⟩
    · rintro ⟨node, found⟩
      obtain ⟨before, present, _⟩ := effect_node accepted found
      exact ⟨before, present⟩

/-- A run completes as succeeded only over succeeded nodes, none of them timed out. -/
theorem completed_succeeded {events : List RunEvent} {event : RunEvent} {state : RunState}
    (replayed : replayRun (events ++ [event]) = .ok state)
    (completes : event.payload = .runCompleted .succeeded) {node : NodeRunState}
    (member : node ∈ state.nodes) :
    node.status = .succeeded ∧
      ∃ attempt, node.current = some attempt ∧ attempt.status = .succeeded ∧ attempt.timeout = none := by
  have coherent := replayRun_coherent replayed member
  have succeeded : node.status = .succeeded := by
    rcases replayRun_concat_ok.mp replayed with ⟨_, created⟩ | ⟨before, _, applied⟩
    · have first := (applyRunEvent_none_ok.mp created).2
      rw [completes] at first
      cases first
    · obtain ⟨_, _, _, _, accepted, rfl⟩ := applyRunEvent_step.mp applied
      rw [completes] at accepted member
      exact accepted.2.1 rfl node member
  obtain ⟨attempt, current, status⟩ := coherent.finished succeeded
  exact ⟨succeeded, attempt, current, status, (coherent.succeeded attempt current status).2⟩

/-- No event is accepted after the end of a run. -/
theorem ended_rejects {events : List RunEvent} {event : RunEvent} {state : RunState}
    (replayed : replayRun (events ++ [event]) = .ok state) (ends : event.payload.ends = true)
    (further : RunEvent) (next : RunState) : applyRunEvent (some state) further ≠ .ok next := by
  intro applied
  have live := (applyRunEvent_step.mp applied).2.2.2.1
  rcases replayRun_concat_ok.mp replayed with ⟨_, created⟩ | ⟨before, _, last⟩
  · have first := (applyRunEvent_none_ok.mp created).2
    cases payload : event.payload <;> rw [payload] at ends first <;> first | cases first | cases ends
  · obtain ⟨_, _, _, _, _, rfl⟩ := applyRunEvent_step.mp last
    have terminal := ends_terminal ends before
    rw [show _ = false from live] at terminal
    cases terminal

/-- Evidence at the end of a node or a run is final: a terminal node stays as it is but for
cleanup evidence, its output is its last attempt's, a run succeeds only over nodes that
succeeded in time, and an ended run accepts nothing. -/
theorem replayRun_terminal_evidence {events : List RunEvent} {state : RunState}
    (replayed : replayRun events = .ok state) :
    (∀ later final, replayRun (events ++ later) = .ok final → ∀ node ∈ state.nodes,
      node.status.terminal = true → ∃ after, final.node? node.id = some after ∧ node.Frozen after) ∧
    (∀ node ∈ state.nodes,
      (node.output.isSome = true ↔
        ∃ attempt, node.current = some attempt ∧ attempt.status = .succeeded) ∧
      ∀ attempt output, node.current = some attempt → node.output = some output →
        ∀ value, (∃ event ∈ events, event.payload = .attemptSucceeded node.id attempt.number value) ↔
          value = output) ∧
    (∀ earlier event, events = earlier ++ [event] → event.payload = .runCompleted .succeeded →
      CreatesNodes events state ∧ ∀ node ∈ state.nodes, node.status = .succeeded ∧
        ∃ attempt, node.current = some attempt ∧ attempt.timeout = none) ∧
    (∀ earlier event, events = earlier ++ [event] → event.payload.ends = true →
      ∀ further next, applyRunEvent (some state) further ≠ .ok next) := by
  refine ⟨?_, ?_, ?_, ?_⟩
  · intro later final continued node member terminal
    exact replayRun_frozen replayed continued (replayRun_node? replayed member) terminal
  · intro node member
    have coherent := replayRun_coherent replayed member
    refine ⟨coherent.output, fun attempt output current recorded value => ?_⟩
    rw [replayRun_output replayed (replayRun_node? replayed member),
      coherent.current_number current, recorded]
    simp [eq_comm]
  · rintro earlier event rfl completes
    refine ⟨replayRun_createsNodes replayed, fun node member => ?_⟩
    obtain ⟨succeeded, attempt, current, _, timeout⟩ := completed_succeeded replayed completes member
    exact ⟨succeeded, attempt, current, timeout⟩
  · rintro earlier event rfl ends
    exact ended_rejects replayed ends

theorem completedRun_terminal_evidence :
    (∀ later final, replayRun (completedRun ++ later) = .ok final → ∀ node ∈ completedState.nodes,
      node.status.terminal = true → ∃ after, final.node? node.id = some after ∧ node.Frozen after) ∧
    (∀ node ∈ completedState.nodes,
      (node.output.isSome = true ↔
        ∃ attempt, node.current = some attempt ∧ attempt.status = .succeeded) ∧
      ∀ attempt output, node.current = some attempt → node.output = some output →
        ∀ value, (∃ event ∈ completedRun,
          event.payload = .attemptSucceeded node.id attempt.number value) ↔ value = output) ∧
    (∀ earlier event, completedRun = earlier ++ [event] →
      event.payload = .runCompleted .succeeded →
      CreatesNodes completedRun completedState ∧ ∀ node ∈ completedState.nodes,
        node.status = .succeeded ∧
          ∃ attempt, node.current = some attempt ∧ attempt.timeout = none) ∧
    (∀ earlier event, completedRun = earlier ++ [event] → event.payload.ends = true →
      ∀ further next, applyRunEvent (some completedState) further ≠ .ok next) :=
  replayRun_terminal_evidence completedRun_replayed

end Anastom
