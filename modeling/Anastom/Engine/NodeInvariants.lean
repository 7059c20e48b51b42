import Anastom.Engine.Transitions

/-! What holds of every node in every replayed history: attempts are numbered in order,
and the statuses of a node and of its last attempt move together. -/
namespace Anastom
open RunEventPayload

namespace Js

theorem objectKeys_perm (keys : List String) : (objectKeys keys).Perm keys := by
  unfold objectKeys
  refine (List.Perm.append (List.perm_insertionSort _ _) (List.Perm.refl _)).trans ?_
  have split := List.filter_append_perm (fun key => (arrayIndex? key).isSome) keys
  simpa using split

end Js

/-- A node before any event named it. -/
def NodeRunState.fresh (id : String) : NodeRunState := { id, status := .pending, attempts := [] }

/-- A creation lists each node of the workflow once, untouched. -/
theorem createdState_nodes {event : RunEvent} {state : RunState}
    (applied : applyRunEvent none event = .ok state) :
    Keyed.Distinct state.nodes ∧ ∀ node ∈ state.nodes, node = .fresh node.id := by
  obtain ⟨valid, created⟩ := applyRunEvent_none_ok.mp applied
  cases payload : event.payload <;> rw [payload] at created <;>
    simp only [createdState, require_bind_ok, pure_ok, reduceCtorEq] at created
  case runCreated workflowInstanceId workflowId workflowVersion nodeIds inputs =>
    obtain ⟨_, rfl⟩ := created
    have unique : nodeIds.Nodup := by
      simp only [validRunEvent, payload, EventValidation.payload, Bool.and_eq_true,
        decide_eq_true_eq] at valid
      exact valid.2.2
    constructor
    · unfold Keyed.Distinct Keyed.keys
      rw [List.map_map]
      have names : (Keyed.key ∘ fun id => (NodeRunState.fresh id)) = id := rfl
      show ((Js.objectKeys nodeIds).map (Keyed.key ∘ NodeRunState.fresh)).Nodup
      rw [names, List.map_id]
      exact (Js.objectKeys_perm nodeIds).nodup_iff.mpr unique
    · intro node member
      obtain ⟨id, _, rfl⟩ := List.mem_map.mp member
      rfl

/-- An accepted event takes a node from one value to the next. -/
structure RunEventPayload.Moves (payload : RunEventPayload) (state : RunState)
    (node next : NodeRunState) : Prop where
  found : state.node? node.id = some node
  guard : payload.nodeGuard state node
  change : ∃ f, payload.nodeChange = some (node.id, f) ∧ f node = next

theorem nodeChange_nodeId {payload : RunEventPayload} {nodeId : String}
    {f : NodeRunState → NodeRunState} (change : payload.nodeChange = some (nodeId, f)) :
    payload.nodeId? = some nodeId := by
  unfold nodeChange at change
  split at change <;> cases change <;> rfl

theorem nodeChange_id {payload : RunEventPayload} {nodeId : String}
    {f : NodeRunState → NodeRunState} (change : payload.nodeChange = some (nodeId, f))
    (node : NodeRunState) : (f node).id = node.id := by
  unfold nodeChange at change
  split at change <;> cases change <;> rfl

theorem RunEventPayload.Moves.id {payload : RunEventPayload} {state : RunState} {node next : NodeRunState}
    (moves : payload.Moves state node next) : next.id = node.id := by
  obtain ⟨f, change, rfl⟩ := moves.change
  exact nodeChange_id change node

/-- The nodes of the next state: the one the event changes, and all others as they were. -/
theorem effect_node? (payload : RunEventPayload) (state : RunState) (id : String) :
    (payload.effect state).node? id =
      match payload.nodeChange with
      | some (nodeId, f) => if nodeId = id then (state.node? id).map f else state.node? id
      | none => state.node? id := by
  unfold effect
  cases change : payload.nodeChange with
  | none => simp only [RunState.node?, runChange_nodes]
  | some entry =>
    obtain ⟨nodeId, f⟩ := entry
    simp only [RunState.updateNode, RunState.node?]
    rw [Keyed.find_modify fun other same => (nodeChange_id change other).trans same]
    split <;> rename_i same
    · rw [same, if_pos rfl]
    · rw [if_neg fun h => same h.symm]

theorem effect_changed {payload : RunEventPayload} {state : RunState} {id : String}
    {f : NodeRunState → NodeRunState} {node : NodeRunState}
    (change : payload.nodeChange = some (id, f)) (found : state.node? id = some node) :
    (payload.effect state).node? id = some (f node) := by
  rw [effect_node?, change, found]
  simp

/-- Where each node of the next state comes from. -/
theorem effect_node {payload : RunEventPayload} {state : RunState} {id : String}
    {node : NodeRunState} (accepted : payload.Accepts state)
    (found : (payload.effect state).node? id = some node) :
    ∃ before, state.node? id = some before ∧
      ((node = before ∧ ∀ f, payload.nodeChange ≠ some (id, f)) ∨
        payload.Moves state before node) := by
  rw [effect_node?] at found
  cases change : payload.nodeChange with
  | none =>
    rw [change] at found
    exact ⟨node, found, .inl ⟨rfl, by simp⟩⟩
  | some entry =>
    obtain ⟨nodeId, f⟩ := entry
    simp only [change] at found
    split at found
    · rename_i same
      subst same
      simp only [Accepts, nodeChange_nodeId change] at accepted
      obtain ⟨before, present, guard⟩ := accepted
      have key : before.id = nodeId := Keyed.find_key present
      rw [present, Option.map_some, Option.some.injEq] at found
      refine ⟨before, present, .inr ⟨by rw [key]; exact present, guard, f, ?_, found⟩⟩
      rw [key]
      exact change
    · rename_i other
      exact ⟨node, found, .inl ⟨rfl, by simp [other]⟩⟩

/-- What becomes of each node of the state. -/
theorem effect_of_node {payload : RunEventPayload} {state : RunState} {id : String}
    {before : NodeRunState} (accepted : payload.Accepts state)
    (found : state.node? id = some before) :
    ∃ node, (payload.effect state).node? id = some node ∧
      ((node = before ∧ ∀ f, payload.nodeChange ≠ some (id, f)) ∨
        payload.Moves state before node) := by
  have present : ∃ node, (payload.effect state).node? id = some node := by
    rw [effect_node?, found]
    split
    · split <;> exact ⟨_, rfl⟩
    · exact ⟨_, rfl⟩
  obtain ⟨node, present⟩ := present
  obtain ⟨other, same, origin⟩ := effect_node accepted present
  rw [found, Option.some.injEq] at same
  exact ⟨node, present, same ▸ origin⟩

/-- The current attempt after it is rewritten. -/
theorem updateCurrent_attempts {node : NodeRunState} {attempt : AttemptState}
    (current : node.current = some attempt) (f : AttemptState → AttemptState) :
    (node.updateCurrent f).attempts = node.attempts.dropLast ++ [f attempt] := by
  unfold NodeRunState.current at current
  simp [NodeRunState.updateCurrent, current]

theorem updateCurrent_updateCurrent (node : NodeRunState) (f g : AttemptState → AttemptState) :
    (node.updateCurrent f).updateCurrent g = node.updateCurrent fun attempt => g (f attempt) := by
  cases current : node.attempts.getLast? with
  | none => simp [NodeRunState.updateCurrent, List.getLast?_eq_none_iff.mp current]
  | some last => simp [NodeRunState.updateCurrent, current]

@[simp] theorem updateCurrent_length (node : NodeRunState) (f : AttemptState → AttemptState) :
    (node.updateCurrent f).attempts.length = node.attempts.length := by
  cases current : node.attempts.getLast? with
  | none => simp [NodeRunState.updateCurrent, List.getLast?_eq_none_iff.mp current]
  | some last =>
    have positive : node.attempts ≠ [] := fun empty => by simp [empty] at current
    have length := List.length_pos_iff.mpr positive
    simp only [NodeRunState.updateCurrent, current, Option.map_some, Option.toList_some,
      List.length_append, List.length_dropLast, List.length_singleton]
    omega

theorem attempts_of_current {node : NodeRunState} {attempt : AttemptState}
    (current : node.current = some attempt) :
    node.attempts = node.attempts.dropLast ++ [attempt] :=
  (List.dropLast_append_getLast? attempt current).symm

/-- What an attempt was started with. -/
structure AttemptState.SameStart (attempt after : AttemptState) : Prop where
  number : after.number = attempt.number
  runtimeId : after.runtimeId = attempt.runtimeId
  executionPlan : after.executionPlan = attempt.executionPlan
  execution : after.execution = attempt.execution
  workspaceCheckpoint : after.workspaceCheckpoint = attempt.workspaceCheckpoint

/-- How an event rewrites the last attempt of a node. -/
inductive RunEventPayload.AttemptStep (payload : RunEventPayload) (state : RunState)
    (nodeId : String) (attempt : AttemptState) : AttemptState → Prop
  | evidence {after : AttemptState} (same : attempt.SameStart after)
      (status : after.status = attempt.status) : AttemptStep payload state nodeId attempt after
  | prepared (execution : ExecutionPlanRef) (checkpoint : WorkspaceCheckpoint)
      (event : payload = .attemptPrepared nodeId attempt.number execution checkpoint)
      (waiting : attempt.status = .scheduled)
      (allowed : PrepareAllowed state nodeId attempt execution checkpoint) :
      AttemptStep payload state nodeId attempt { attempt with
        status := .prepared, executionPlan := some execution, workspaceCheckpoint := some checkpoint }
  | authorized (execution : PersistedExecutionRef) (waiting : attempt.status = .prepared)
      (planned : attempt.executionPlan = some execution.toExecutionPlanRef) :
      AttemptStep payload state nodeId attempt
        { attempt with status := .running, execution := some execution }
  | started (waiting : attempt.status = .scheduled) (unconfigured : state.runtimeDescriptor = none) :
      AttemptStep payload state nodeId attempt { attempt with status := .running }
  | orphaned {after : AttemptState} (same : attempt.SameStart after)
      (live : attempt.status ∈ [AttemptStatus.prepared, .running])
      (status : after.status = .orphaned) : AttemptStep payload state nodeId attempt after
  | ended {after : AttemptState} (same : attempt.SameStart after)
      (running : attempt.status = .running)
      (status : after.status ∈ [AttemptStatus.succeeded, .failed, .blocked, .cancelled]) :
      AttemptStep payload state nodeId attempt after

/-- What an event does to the attempts of its node: nothing, one more, or the last rewritten. -/
inductive RunEventPayload.AttemptsChange (payload : RunEventPayload) (state : RunState)
    (node next : NodeRunState) : Prop
  | same (attempts : next.attempts = node.attempts)
  | scheduled (runtimeId : String)
      (event : payload = .attemptScheduled node.id (node.attempts.length + 1) runtimeId)
      (attempts : next.attempts = node.attempts ++
        [{ number := node.attempts.length + 1, runtimeId, status := .scheduled }])
  | rewritten (attempt after : AttemptState) (current : node.current = some attempt)
      (step : payload.AttemptStep state node.id attempt after)
      (attempts : next.attempts = node.attempts.dropLast ++ [after])

theorem RunEventPayload.Moves.attempts {payload : RunEventPayload} {state : RunState}
    {node next : NodeRunState} (moves : payload.Moves state node next) :
    payload.AttemptsChange state node next := by
  obtain ⟨_, guard, f, change, rfl⟩ := moves
  have rewrite {attempt : AttemptState} {changed : NodeRunState} (g : AttemptState → AttemptState)
      (current : node.current = some attempt)
      (step : payload.AttemptStep state node.id attempt (g attempt))
      (attempts : changed.attempts = (node.updateCurrent g).attempts) :
      payload.AttemptsChange state node changed :=
    .rewritten attempt (g attempt) current step (attempts.trans (updateCurrent_attempts current g))
  cases payload
  case attemptScheduled nodeId number runtimeId =>
    obtain ⟨rfl, rfl⟩ := Prod.mk.inj (Option.some.inj change)
    obtain ⟨_, rfl, _⟩ := guard
    exact .scheduled runtimeId rfl rfl
  case attemptPrepared nodeId number execution checkpoint =>
    obtain ⟨rfl, rfl⟩ := Prod.mk.inj (Option.some.inj change)
    obtain ⟨_, attempt, ⟨current, rfl, status⟩, allowed⟩ := guard
    exact rewrite _ current (.prepared execution checkpoint rfl status allowed) rfl
  case attemptStartAuthorized nodeId number execution =>
    obtain ⟨rfl, rfl⟩ := Prod.mk.inj (Option.some.inj change)
    obtain ⟨_, attempt, ⟨current, _, status⟩, planned⟩ := guard
    exact rewrite _ current (.authorized execution status planned) rfl
  case attemptStarted nodeId number =>
    obtain ⟨rfl, rfl⟩ := Prod.mk.inj (Option.some.inj change)
    obtain ⟨_, unconfigured, attempt, current, _, status⟩ := guard
    exact rewrite _ current (.started status unconfigured) rfl
  case attemptOrphaned nodeId number record =>
    obtain ⟨rfl, rfl⟩ := Prod.mk.inj (Option.some.inj change)
    obtain ⟨_, ⟨attempt, _, current, _, live, _⟩, _⟩ := guard
    exact rewrite _ current (.orphaned ⟨rfl, rfl, rfl, rfl, rfl⟩ live rfl) rfl
  case attemptSucceeded | attemptFailed | attemptBlocked | attemptCancelled =>
    obtain ⟨rfl, rfl⟩ := Prod.mk.inj (Option.some.inj change)
    obtain ⟨_, attempt, ⟨current, _, status⟩, _⟩ := guard
    exact rewrite _ current (.ended ⟨rfl, rfl, rfl, rfl, rfl⟩ status (by simp)) rfl
  case attemptTimeoutRequested nodeId number =>
    obtain ⟨rfl, rfl⟩ := Prod.mk.inj (Option.some.inj change)
    obtain ⟨_, attempt, ⟨current, _⟩, _⟩ := guard
    exact rewrite _ current (.evidence ⟨rfl, rfl, rfl, rfl, rfl⟩ rfl) rfl
  case attemptCancellationCompleted | lateResultObserved =>
    obtain ⟨rfl, rfl⟩ := Prod.mk.inj (Option.some.inj change)
    obtain ⟨attempt, _, ⟨current, _⟩, _⟩ := guard
    exact rewrite _ current (.evidence ⟨rfl, rfl, rfl, rfl, rfl⟩ rfl) rfl
  case executionCleanupObserved nodeId number evidence =>
    obtain ⟨rfl, rfl⟩ := Prod.mk.inj (Option.some.inj change)
    obtain ⟨attempt, _, current, _⟩ := guard
    exact rewrite _ current (.evidence ⟨rfl, rfl, rfl, rfl, rfl⟩ rfl) rfl
  case runtimeEventObserved nodeId number event =>
    obtain ⟨_, attempt, ⟨current, _⟩, _⟩ := guard
    cases event <;> cases change
    all_goals exact rewrite _ current (.evidence ⟨rfl, rfl, rfl, rfl, rfl⟩ rfl) rfl
  case nodePaused nodeId reason =>
    cases reason <;> cases change
    all_goals exact .same rfl
  all_goals cases change
  all_goals exact .same rfl

/-- The status of a node and of its last attempt, the numbering of its attempts, and
the output, which only a succeeded attempt leaves. -/
structure NodeRunState.Coherent (node : NodeRunState) : Prop where
  numbers : node.attempts.map AttemptState.number = List.range' 1 node.attempts.length
  superseded : ∀ attempt ∈ node.attempts.dropLast,
    attempt.status ≠ .running ∧ attempt.status ≠ .succeeded
  running : ∀ attempt, node.current = some attempt → attempt.status = .running →
    node.status = .running
  succeeded : ∀ attempt, node.current = some attempt → attempt.status = .succeeded →
    node.status ∈ [NodeStatus.running, .succeeded] ∧ attempt.timeout = none
  output : node.output.isSome = true ↔
    ∃ attempt, node.current = some attempt ∧ attempt.status = .succeeded
  finished : node.status = .succeeded →
    ∃ attempt, node.current = some attempt ∧ attempt.status = .succeeded

namespace NodeRunState.Coherent
variable {node next : NodeRunState} {attempt after : AttemptState}

theorem fresh (id : String) : (NodeRunState.fresh id).Coherent := by
  constructor <;> simp [NodeRunState.fresh, NodeRunState.current]

/-- The current attempt is rewritten in place. -/
theorem replace (coherent : node.Coherent) (current : node.current = some attempt)
    (attempts : next.attempts = node.attempts.dropLast ++ [after])
    (number : after.number = attempt.number)
    (running : after.status = .running → next.status = .running)
    (succeeded : after.status = .succeeded →
      next.status ∈ [NodeStatus.running, .succeeded] ∧ after.timeout = none)
    (output : next.output.isSome = true ↔ after.status = .succeeded)
    (finished : next.status = .succeeded → after.status = .succeeded) : next.Coherent := by
  have last : next.current = some after := by simp [NodeRunState.current, attempts]
  have before := coherent.numbers
  rw [attempts_of_current current] at before
  constructor
  · rw [attempts]
    simpa [number] using before
  · intro other member
    rw [attempts, List.dropLast_concat] at member
    exact coherent.superseded other member
  all_goals simpa only [last, Option.some.injEq, forall_eq', exists_eq_left']

/-- Only the node's own fields change. -/
theorem keep (coherent : node.Coherent) (attempts : next.attempts = node.attempts)
    (output : next.output = node.output)
    (running : ∀ attempt, node.current = some attempt → attempt.status = .running →
      next.status = .running)
    (succeeded : ∀ attempt, node.current = some attempt → attempt.status = .succeeded →
      next.status ∈ [NodeStatus.running, .succeeded])
    (finished : next.status = .succeeded →
      ∃ attempt, node.current = some attempt ∧ attempt.status = .succeeded) : next.Coherent := by
  have last : next.current = node.current := by simp [NodeRunState.current, attempts]
  constructor
  · rw [attempts]
    exact coherent.numbers
  · rw [attempts]
    exact coherent.superseded
  · rw [last]
    exact running
  · rw [last]
    intro attempt current status
    exact ⟨succeeded attempt current status, (coherent.succeeded attempt current status).2⟩
  · rw [last, output]
    exact coherent.output
  · rw [last]
    exact finished

/-- A ready node gets one more attempt. -/
theorem schedule (coherent : node.Coherent) (ready : node.status = .ready) (runtimeId : String) :
    NodeRunState.Coherent { node with attempts := node.attempts ++
      [{ number := node.attempts.length + 1, runtimeId, status := .scheduled }] } := by
  have idle (attempt : AttemptState) (current : node.current = some attempt) :
      attempt.status ≠ .running ∧ attempt.status ≠ .succeeded := by
    constructor
    · intro status
      rw [coherent.running attempt current status] at ready
      cases ready
    · intro status
      have := (coherent.succeeded attempt current status).1
      simp [ready] at this
  have silent : node.output.isSome = false := by
    rw [← Bool.not_eq_true, coherent.output]
    rintro ⟨attempt, current, status⟩
    exact (idle attempt current).2 status
  constructor
  · rw [List.map_append, coherent.numbers, List.length_append, List.length_singleton,
      List.range'_concat]
    simp [Nat.add_comm]
  · intro other member
    simp only [List.dropLast_concat] at member
    cases current : node.current with
    | none =>
      have empty : node.attempts = [] := List.getLast?_eq_none_iff.mp current
      rw [empty] at member
      cases member
    | some attempt =>
      rw [attempts_of_current current] at member
      rcases List.mem_append.mp member with earlier | last
      · exact coherent.superseded other earlier
      · rw [List.mem_singleton.mp last]
        exact idle attempt current
  all_goals simp [NodeRunState.current, silent, ready]

/-- The last attempt carries the number of attempts. -/
theorem current_number (coherent : node.Coherent) (current : node.current = some attempt) :
    attempt.number = node.attempts.length := by
  have numbers := congrArg List.getLast? coherent.numbers
  unfold NodeRunState.current at current
  rw [List.getLast?_map, current, List.getLast?_range', Option.map_some] at numbers
  split at numbers
  · cases numbers
  · rw [Option.some.inj numbers]
    omega

theorem output_iff (coherent : node.Coherent) (current : node.current = some attempt) :
    node.output.isSome = true ↔ attempt.status = .succeeded := by
  rw [coherent.output, current]
  simp

/-- Evidence about the current attempt leaves its status. -/
theorem evidence (coherent : node.Coherent) (current : node.current = some attempt)
    {f : AttemptState → AttemptState} (number : (f attempt).number = attempt.number)
    (status : (f attempt).status = attempt.status)
    (timeout : attempt.status = .succeeded → (f attempt).timeout = attempt.timeout) :
    (node.updateCurrent f).Coherent := by
  refine coherent.replace current (updateCurrent_attempts current f) number ?_ ?_ ?_ ?_
  · rw [status]
    exact coherent.running attempt current
  · intro succeeded
    rw [status] at succeeded
    rw [timeout succeeded]
    exact coherent.succeeded attempt current succeeded
  · rw [status]
    exact coherent.output_iff current
  · intro finished
    obtain ⟨last, same, succeeded⟩ := coherent.finished finished
    rw [current, Option.some.injEq] at same
    rw [status, same]
    exact succeeded

/-- The current attempt moves on, but not to success. -/
theorem advance (coherent : node.Coherent) (current : node.current = some attempt)
    (attempts : next.attempts = node.attempts.dropLast ++ [after])
    (number : after.number = attempt.number) (before : attempt.status ≠ .succeeded)
    (unfinished : after.status ≠ .succeeded)
    (running : after.status = .running → next.status = .running)
    (output : next.output = node.output) (status : next.status ≠ .succeeded) : next.Coherent := by
  refine coherent.replace current attempts number running ?_ ?_ ?_
  · intro succeeded
    exact absurd succeeded unfinished
  · rw [output, coherent.output_iff current]
    exact iff_of_false before unfinished
  · intro finished
    exact absurd finished status

/-- A node whose last attempt neither runs nor succeeded takes another status. -/
theorem settle (coherent : node.Coherent) (attempts : next.attempts = node.attempts)
    (output : next.output = node.output)
    (idle : ∀ attempt, node.current = some attempt →
      attempt.status ≠ .running ∧ attempt.status ≠ .succeeded)
    (status : next.status ≠ .succeeded) : next.Coherent := by
  refine coherent.keep attempts output ?_ ?_ ?_
  · intro attempt current running
    exact absurd running (idle attempt current).1
  · intro attempt current succeeded
    exact absurd succeeded (idle attempt current).2
  · intro finished
    exact absurd finished status

theorem idle (coherent : node.Coherent) (stopped : node.status ≠ .running)
    (unfinished : node.status ≠ .succeeded) (attempt : AttemptState)
    (current : node.current = some attempt) :
    attempt.status ≠ .running ∧ attempt.status ≠ .succeeded := by
  constructor
  · intro running
    exact stopped (coherent.running attempt current running)
  · intro succeeded
    have status := (coherent.succeeded attempt current succeeded).1
    simp only [List.mem_cons, List.not_mem_nil, or_false] at status
    exact status.elim stopped unfinished

theorem idle_of_status (statuses : List AttemptStatus)
    (current : node.currentStatusIn statuses = true)
    (others : AttemptStatus.running ∉ statuses ∧ AttemptStatus.succeeded ∉ statuses)
    (attempt : AttemptState) (same : node.current = some attempt) :
    attempt.status ≠ .running ∧ attempt.status ≠ .succeeded := by
  simp only [NodeRunState.currentStatusIn, same, Option.any_some, List.contains_iff_mem] at current
  constructor <;> intro status <;> rw [status] at current
  · exact others.1 current
  · exact others.2 current

/-- Every event that changes a node keeps it coherent. -/
theorem step {payload : RunEventPayload} {state : RunState} (coherent : node.Coherent)
    (moves : payload.Moves state node next) : next.Coherent := by
  obtain ⟨_, guard, f, change, rfl⟩ := moves
  cases payload
  case commandCompleted nodeId number output =>
    obtain ⟨rfl, rfl⟩ := Prod.mk.inj (Option.some.inj change)
    exact coherent.keep rfl rfl coherent.running
      (fun attempt current status => (coherent.succeeded attempt current status).1)
      coherent.finished
  case attemptTimeoutRequested nodeId number =>
    obtain ⟨rfl, rfl⟩ := Prod.mk.inj (Option.some.inj change)
    obtain ⟨_, attempt, ⟨current, _, status⟩, _⟩ := guard
    exact coherent.evidence current rfl rfl (by simp [status])
  case attemptCancellationCompleted nodeId number outcome =>
    obtain ⟨rfl, rfl⟩ := Prod.mk.inj (Option.some.inj change)
    obtain ⟨attempt, _, ⟨current, _, status⟩, _⟩ := guard
    exact coherent.evidence current rfl rfl (by simp [status])
  case lateResultObserved nodeId number status =>
    obtain ⟨rfl, rfl⟩ := Prod.mk.inj (Option.some.inj change)
    obtain ⟨attempt, _, ⟨current, _, status⟩, _⟩ := guard
    exact coherent.evidence current rfl rfl (by simp [status])
  case executionCleanupObserved nodeId number evidence =>
    obtain ⟨rfl, rfl⟩ := Prod.mk.inj (Option.some.inj change)
    obtain ⟨attempt, _, current, _⟩ := guard
    exact coherent.evidence current rfl rfl (fun _ => rfl)
  case runtimeEventObserved nodeId number event =>
    obtain ⟨_, attempt, ⟨current, _, status⟩, _⟩ := guard
    cases event <;> cases change
    all_goals exact coherent.evidence current rfl rfl (fun _ => rfl)
  case attemptScheduled nodeId number runtimeId =>
    obtain ⟨rfl, rfl⟩ := Prod.mk.inj (Option.some.inj change)
    obtain ⟨ready, rfl, _⟩ := guard
    exact coherent.schedule ready runtimeId
  case attemptPrepared nodeId number execution checkpoint =>
    obtain ⟨rfl, rfl⟩ := Prod.mk.inj (Option.some.inj change)
    obtain ⟨ready, attempt, ⟨current, _, status⟩, _⟩ := guard
    exact coherent.advance current (updateCurrent_attempts current _) rfl (by simp [status])
      (by simp) (by simp) rfl (by simp [ready])
  case attemptStartAuthorized nodeId number execution =>
    obtain ⟨rfl, rfl⟩ := Prod.mk.inj (Option.some.inj change)
    obtain ⟨_, attempt, ⟨current, _, status⟩, _⟩ := guard
    exact coherent.advance current (updateCurrent_attempts current _) rfl (by simp [status])
      (by simp) (fun _ => rfl) rfl (by simp)
  case attemptStarted nodeId number =>
    obtain ⟨rfl, rfl⟩ := Prod.mk.inj (Option.some.inj change)
    obtain ⟨_, _, attempt, current, _, status⟩ := guard
    exact coherent.advance current (updateCurrent_attempts current _) rfl (by simp [status])
      (by simp) (fun _ => rfl) rfl (by simp)
  case attemptOrphaned nodeId number record =>
    obtain ⟨rfl, rfl⟩ := Prod.mk.inj (Option.some.inj change)
    obtain ⟨_, ⟨attempt, _, current, _, live, _⟩, _⟩ := guard
    refine coherent.advance current (updateCurrent_attempts current _) rfl ?_ (by simp) (by simp)
      rfl (by simp)
    intro status
    simp [status] at live
  case attemptSucceeded nodeId number output =>
    obtain ⟨rfl, rfl⟩ := Prod.mk.inj (Option.some.inj change)
    obtain ⟨running, attempt, ⟨current, _, status⟩, timeout⟩ := guard
    exact coherent.replace current (updateCurrent_attempts current _) rfl (by simp)
      (fun _ => ⟨by simp [running], timeout⟩) (by simp) (by simp)
  case attemptFailed nodeId number failure =>
    obtain ⟨rfl, rfl⟩ := Prod.mk.inj (Option.some.inj change)
    obtain ⟨running, attempt, ⟨current, _, status⟩, _⟩ := guard
    exact coherent.advance current (updateCurrent_attempts current _) rfl (by simp [status])
      (by simp) (by simp) rfl (by simp [running])
  case attemptBlocked nodeId number reason =>
    obtain ⟨rfl, rfl⟩ := Prod.mk.inj (Option.some.inj change)
    obtain ⟨running, attempt, ⟨current, _, status⟩, _⟩ := guard
    exact coherent.advance current (updateCurrent_attempts current _) rfl (by simp [status])
      (by simp) (by simp) rfl (by simp [running])
  case attemptCancelled nodeId number reason =>
    obtain ⟨rfl, rfl⟩ := Prod.mk.inj (Option.some.inj change)
    obtain ⟨running, attempt, ⟨current, _, status⟩, _⟩ := guard
    exact coherent.advance current (updateCurrent_attempts current _) rfl (by simp [status])
      (by simp) (by simp) rfl (by simp [running])
  case nodeReady nodeId reason =>
    obtain ⟨rfl, rfl⟩ := Prod.mk.inj (Option.some.inj change)
    refine coherent.settle rfl rfl ?_ (by simp)
    cases reason with
    | dependenciesSatisfied | resumed =>
      have status := List.mem_singleton.mp guard.1
      exact coherent.idle (by simp [status]) (by simp [status])
    | retry => exact idle_of_status [.failed] (guard.2.1 rfl) (by simp)
    | recovered => exact idle_of_status [.orphaned] (guard.2.2 rfl) (by simp)
  case nodeSucceeded nodeId =>
    obtain ⟨rfl, rfl⟩ := Prod.mk.inj (Option.some.inj change)
    obtain ⟨running, attempt, current, _, status⟩ := guard
    refine coherent.keep rfl rfl ?_ (by simp) fun _ => ⟨attempt, current, status⟩
    intro other same live
    rw [current, Option.some.injEq] at same
    rw [← same, status] at live
    cases live
  case nodeFailed nodeId failure =>
    obtain ⟨rfl, rfl⟩ := Prod.mk.inj (Option.some.inj change)
    obtain ⟨running, attempt, current, _, status⟩ := guard
    refine coherent.settle rfl rfl ?_ (by simp)
    exact idle_of_status [.failed] (by simp [NodeRunState.currentStatusIn, current, status]) (by simp)
  case nodeBlocked nodeId reason =>
    obtain ⟨rfl, rfl⟩ := Prod.mk.inj (Option.some.inj change)
    refine coherent.settle rfl rfl ?_ (by simp)
    by_cases running : node.status = .running
    · obtain ⟨attempt, current, _, status⟩ := guard.2 running
      exact idle_of_status [.blocked] (by simp [NodeRunState.currentStatusIn, current, status])
        (by simp)
    · refine coherent.idle running ?_
      intro succeeded
      have status := guard.1
      simp [succeeded] at status
  case nodePaused nodeId reason =>
    have stopped : node.status ∈ [NodeStatus.pending, .ready, .running] ∧
        (node.status = .running → node.currentStatusIn [.cancelled, .orphaned] = true) := by
      cases reason with
      | some reason => exact guard
      | none =>
        have status : node.status ∈ [NodeStatus.pending, .ready] := guard
        simp only [List.mem_cons, List.not_mem_nil, or_false] at status
        rcases status with status | status <;> simp [status]
    have rest : ∀ attempt, node.current = some attempt →
        attempt.status ≠ .running ∧ attempt.status ≠ .succeeded := by
      by_cases running : node.status = .running
      · exact idle_of_status [.cancelled, .orphaned] (stopped.2 running) (by simp)
      · refine coherent.idle running ?_
        intro succeeded
        simp [succeeded] at stopped
    cases reason <;> cases change
    all_goals exact coherent.settle rfl rfl rest (by simp)
  case nodeCancelled nodeId reason =>
    obtain ⟨rfl, rfl⟩ := Prod.mk.inj (Option.some.inj change)
    refine coherent.settle rfl rfl ?_ (by simp)
    by_cases running : node.status = .running
    · exact idle_of_status [.cancelled, .orphaned] (guard.2 running) (by simp)
    · refine coherent.idle running ?_
      intro succeeded
      have status := guard.1
      simp [succeeded] at status
  all_goals cases change

end NodeRunState.Coherent

/-- What every event that moves a node keeps holds of every node of a replayed run. -/
theorem replayRun_nodes {Inv : NodeRunState → Prop} (fresh : ∀ id, Inv (.fresh id))
    (step : ∀ {payload : RunEventPayload} {state : RunState} {node next : NodeRunState},
      payload.Moves state node next → Inv node → Inv next)
    {events : List RunEvent} {state : RunState} (replayed : replayRun events = .ok state) :
    ∀ {id node}, state.node? id = some node → Inv node := by
  refine replayRun_induction (P := fun _ state => ∀ {id node}, state.node? id = some node → Inv node)
    ?_ ?_ replayed
  · intro event state applied id node found
    rw [(createdState_nodes applied).2 node (Keyed.find_mem found)]
    exact fresh node.id
  · intro history state event next _ kept applied id node found
    obtain ⟨_, _, _, _, accepted, rfl⟩ := applyRunEvent_step.mp applied
    obtain ⟨before, present, ⟨rfl, _⟩ | moves⟩ := effect_node accepted found
    · exact kept present
    · exact step moves (kept present)

theorem replayRun_distinct {events : List RunEvent} {state : RunState}
    (replayed : replayRun events = .ok state) : Keyed.Distinct state.nodes := by
  refine replayRun_induction (P := fun _ state => Keyed.Distinct state.nodes) ?_ ?_ replayed
  · intro event state applied
    exact (createdState_nodes applied).1
  · intro history state event next _ distinct applied
    obtain ⟨_, _, _, _, _, payload⟩ := applyRunEvent_some_ok.mp applied
    unfold Keyed.Distinct
    rw [(applyPayload_same payload).nodes]
    exact distinct

/-- A node of the table is found under its id. -/
theorem replayRun_node? {events : List RunEvent} {state : RunState} {node : NodeRunState}
    (replayed : replayRun events = .ok state) (member : node ∈ state.nodes) :
    state.node? node.id = some node :=
  Keyed.find_of_mem (replayRun_distinct replayed) member

theorem replayRun_coherent {events : List RunEvent} {state : RunState} {node : NodeRunState}
    (replayed : replayRun events = .ok state) (member : node ∈ state.nodes) : node.Coherent :=
  replayRun_nodes NodeRunState.Coherent.fresh (fun moves coherent => coherent.step moves) replayed
    (replayRun_node? replayed member)

/-- An event adds at most one attempt to a node. -/
theorem RunEventPayload.AttemptsChange.length {payload : RunEventPayload} {state : RunState}
    {node next : NodeRunState} (change : payload.AttemptsChange state node next) :
    next.attempts.length = node.attempts.length ∨
      next.attempts.length = node.attempts.length + 1 ∧
        ∃ runtimeId, payload = .attemptScheduled node.id (node.attempts.length + 1) runtimeId := by
  cases change with
  | same attempts => exact .inl (congrArg List.length attempts)
  | scheduled runtimeId event attempts => exact .inr ⟨by simp [attempts], runtimeId, event⟩
  | rewritten attempt after current _ attempts =>
    refine .inl ?_
    rw [attempts, attempts_of_current current]
    simp

/-- Every attempt took an event of its own after the creation. -/
theorem replayRun_attempts {events : List RunEvent} {state : RunState} {id : String}
    {node : NodeRunState} (replayed : replayRun events = .ok state)
    (found : state.node? id = some node) : node.attempts.length < state.sequence := by
  revert id node
  refine replayRun_induction
    (P := fun _ state => ∀ {id node}, state.node? id = some node → node.attempts.length < state.sequence)
    ?_ ?_ replayed
  · intro event state applied id node found
    have sequence := createdState_sequence (applyRunEvent_none_ok.mp applied).2
    rw [(createdState_nodes applied).2 node (Keyed.find_mem found), sequence.1, sequence.2.1]
    exact Nat.one_pos
  · intro history state event next _ kept applied id node found
    obtain ⟨_, _, sequence, _, accepted, rfl⟩ := applyRunEvent_step.mp applied
    show node.attempts.length < event.sequence
    obtain ⟨before, present, ⟨rfl, _⟩ | moves⟩ := effect_node accepted found
    · have := kept present
      omega
    · have := kept present
      rcases moves.attempts.length with same | ⟨more, _⟩ <;> omega

end Anastom
