import Anastom.Engine.TerminalEvidence

/-! What starts an attempt: the run it starts in, and the evidence that must stand in the
history before it runs. -/
namespace Anastom
open RunEventPayload

/-- The events that give a node work. -/
def RunEventPayload.startsWork : RunEventPayload → Bool
  | .attemptScheduled .. | .attemptPrepared .. | .attemptStartAuthorized .. | .attemptStarted .. =>
    true
  | _ => false

/-- Whether an event opens the run or stops it. -/
def RunEventPayload.gate : RunEventPayload → Option Bool
  | .runCreated .. | .runResumed _ => some true
  | .runPaused _ | .runRecoveryBlocked _ _ | .runBlocked _ | .runCancelled _ _ | .runCompleted _ =>
    some false
  | _ => none

/-- The last event that opened or stopped the run opened it. -/
def openedBy (events : List RunEvent) : Bool :=
  (events.filterMap (·.payload.gate)).getLast? == some true

theorem openedBy_concat (history : List RunEvent) (event : RunEvent) :
    openedBy (history ++ [event]) = event.payload.gate.getD (openedBy history) := by
  unfold openedBy
  rw [List.filterMap_append]
  cases gate : event.payload.gate with
  | none => simp [gate]
  | some opens => cases opens <;> simp [gate]

/-- What an event does to the status of the run. -/
theorem effect_running (payload : RunEventPayload) (state : RunState)
    (accepted : payload.Accepts state) :
    (payload.effect state).status = .running ↔
      payload.gate.getD (decide (state.status = .running)) = true := by
  cases payload
  case runCompleted outcome => cases outcome <;> simp [effect, nodeChange, runChange, gate]
  case runtimeEventObserved nodeId number event =>
    cases event <;> simp [effect, nodeChange, runChange, gate]
  case nodePaused nodeId reason => cases reason <;> simp [effect, nodeChange, gate]
  case runCreated => exact absurd accepted id
  all_goals simp [effect, nodeChange, runChange, gate]

/-- A run is running exactly when the last event that opened or stopped it opened it. -/
theorem replayRun_running {events : List RunEvent} {state : RunState}
    (replayed : replayRun events = .ok state) :
    state.status = .running ↔ openedBy events = true := by
  refine replayRun_induction (P := fun events state => state.status = .running ↔
    openedBy events = true) ?_ ?_ replayed
  · intro event state applied
    obtain ⟨_, created⟩ := applyRunEvent_none_ok.mp applied
    rw [← List.nil_append [event], openedBy_concat]
    cases payload : event.payload <;> rw [payload] at created <;>
      simp only [createdState, require_bind_ok, pure_ok, reduceCtorEq] at created
    obtain ⟨_, rfl⟩ := created
    simp [gate]
  · intro history state event next _ open_iff applied
    obtain ⟨_, _, _, _, accepted, rfl⟩ := applyRunEvent_step.mp applied
    rw [openedBy_concat]
    refine (effect_running event.payload state accepted).trans ?_
    rw [show decide (state.status = .running) = openedBy history from
      Bool.eq_iff_iff.mpr (decide_eq_true_iff.trans open_iff)]

/-- Work starts only in a running run exactly when no start follows a stop of the run
before it is resumed. -/
theorem replayRun_starts_running {events : List RunEvent} {state : RunState}
    (replayed : replayRun events = .ok state) :
    Applied (fun before event => event.payload.startsWork = true → before.status = .running)
        events ↔
      Along (fun earlier event => event.payload.startsWork = true → openedBy earlier = true)
        events := by
  refine replayRun_induction (P := fun events _ =>
    Applied (fun before event => event.payload.startsWork = true → before.status = .running)
        events ↔
      Along (fun earlier event => event.payload.startsWork = true → openedBy earlier = true)
        events) ?_ ?_ replayed
  · intro event state applied
    refine iff_of_true (applied_single _ event) ?_
    rw [← List.nil_append [event], Along.concat]
    refine ⟨Along.nil, fun starts => ?_⟩
    have created := (applyRunEvent_none_ok.mp applied).2
    cases payload : event.payload <;> rw [payload] at created starts <;>
      first | cases created | cases starts
  · intro history state event next earlier same applied
    rw [applied_concat earlier, Along.concat, same, replayRun_running earlier]

/-- An attempt scheduled in a paused run. -/
def pausedRun : List RunEvent :=
  numbered "run" [.runCreated "instance" "workflow" "1.0.0" ["build"] [],
    .nodeReady "build" .dependenciesSatisfied, .runPaused none]

def pausedState : RunState :=
  { runId := "run", workflowInstanceId := "instance", workflowId := "workflow",
    workflowVersion := "1.0.0", status := .paused, sequence := 3, inputs := [],
    nodes := [{ id := "build", status := .ready, attempts := [] }] }

def scheduledWhilePaused : RunEvent :=
  { payload := .attemptScheduled "build" 1 "runtime", runId := "run", sequence := 4 }

def scheduledState : RunState :=
  { pausedState with
    sequence := 4
    nodes := [{ id := "build", status := .ready,
                attempts := [{ number := 1, runtimeId := "runtime", status := .scheduled }] }] }

theorem scheduledWhilePaused_starts :
    (∃ state, replayRun (pausedRun ++ [scheduledWhilePaused]) = .ok state) ∧
    ¬ Applied (fun before event => event.payload.startsWork = true → before.status = .running)
      (pausedRun ++ [scheduledWhilePaused]) := by
  refine ⟨⟨scheduledState, by decide +kernel⟩, fun applied => ?_⟩
  have paused : replayRun pausedRun = .ok pausedState := by decide +kernel
  have running := ((applied_concat paused).mp applied).2 rfl
  cases running

theorem completedRun_starts_running :
    Applied (fun before event => event.payload.startsWork = true → before.status = .running)
        completedRun ↔
      Along (fun earlier event => event.payload.startsWork = true → openedBy earlier = true)
        completedRun :=
  replayRun_starts_running completedRun_replayed

def RunEventPayload.descriptor? : RunEventPayload → Option RuntimeDescriptor
  | .runtimeConfigured descriptor => some descriptor
  | _ => none

def RunEventPayload.negotiation? : RunEventPayload → Option RuntimeNegotiation
  | .runtimeNegotiated negotiation => some negotiation
  | _ => none

/-- The plan of an attempt names its run, and its kind and runtime fit the attempt. -/
structure PlanFits (state : RunState) (attempt : AttemptState) (plan : ExecutionPlanRef) : Prop where
  runId : plan.runId = state.runId
  kind : plan.kind = .command ↔ attempt.runtimeId = "command"
  runtime : attempt.runtimeId ≠ "command" →
    ∃ descriptor, state.runtimeDescriptor = some descriptor ∧
      descriptor.runtimeId = attempt.runtimeId

/-- The evidence of an attempt at each stage of its start. -/
structure AttemptState.Staged (state : RunState) (attempt : AttemptState) : Prop where
  scheduled : attempt.status = .scheduled → attempt.executionPlan = none ∧
    attempt.execution = none ∧ attempt.workspaceCheckpoint = none
  prepared : attempt.status = .prepared → attempt.execution = none
  started : attempt.status ∈ [AttemptStatus.running, .succeeded, .failed, .blocked, .cancelled] →
    state.runtimeDescriptor.isSome = true → attempt.execution.isSome = true
  execution : ∀ execution, attempt.execution = some execution →
    attempt.executionPlan = some execution.toExecutionPlanRef
  plan : ∀ plan, attempt.executionPlan = some plan → PlanFits state attempt plan

/-- What later events keep of an attempt. -/
structure AttemptState.Keeps (attempt after : AttemptState) : Prop where
  runtimeId : after.runtimeId = attempt.runtimeId
  executionPlan : ∀ plan, attempt.executionPlan = some plan → after.executionPlan = some plan
  execution : ∀ execution, attempt.execution = some execution → after.execution = some execution
  workspaceCheckpoint : ∀ checkpoint, attempt.workspaceCheckpoint = some checkpoint →
    after.workspaceCheckpoint = some checkpoint

namespace AttemptState
variable {payload : RunEventPayload} {state : RunState} {nodeId : String}
  {attempt after final : AttemptState}

theorem Keeps.refl (attempt : AttemptState) : attempt.Keeps attempt :=
  ⟨rfl, fun _ => id, fun _ => id, fun _ => id⟩

theorem Keeps.trans (first : attempt.Keeps after) (second : after.Keeps final) :
    attempt.Keeps final where
  runtimeId := second.runtimeId.trans first.runtimeId
  executionPlan plan set := second.executionPlan plan (first.executionPlan plan set)
  execution execution set := second.execution execution (first.execution execution set)
  workspaceCheckpoint checkpoint set :=
    second.workspaceCheckpoint checkpoint (first.workspaceCheckpoint checkpoint set)

theorem SameStart.keeps (same : attempt.SameStart after) : attempt.Keeps after where
  runtimeId := same.runtimeId
  executionPlan _ set := same.executionPlan.trans set
  execution _ set := same.execution.trans set
  workspaceCheckpoint _ set := same.workspaceCheckpoint.trans set

/-- Each step fills only what was absent. -/
theorem Staged.keeps (staged : attempt.Staged state)
    (step : payload.AttemptStep state nodeId attempt after) : attempt.Keeps after := by
  cases step with
  | evidence same status => exact same.keeps
  | orphaned same live status => exact same.keeps
  | ended same running status => exact same.keeps
  | started waiting unconfigured => exact ⟨rfl, fun _ => id, fun _ => id, fun _ => id⟩
  | prepared execution checkpoint event waiting allowed =>
    obtain ⟨plan, _, absent⟩ := staged.scheduled waiting
    exact ⟨rfl, by simp [plan], fun _ => id, by simp [absent]⟩
  | authorized execution waiting planned =>
    have absent := staged.prepared waiting
    exact ⟨rfl, fun _ => id, by simp [absent], fun _ => id⟩

theorem SameStart.planFits (same : attempt.SameStart after) {plan : ExecutionPlanRef}
    (fits : PlanFits state attempt plan) : PlanFits state after plan where
  runId := fits.runId
  kind := same.runtimeId ▸ fits.kind
  runtime := same.runtimeId ▸ fits.runtime

theorem SameStart.staged (same : attempt.SameStart after) (staged : attempt.Staged state)
    (scheduled : after.status = .scheduled → attempt.status = .scheduled)
    (prepared : after.status = .prepared → attempt.status = .prepared)
    (started : after.status ∈ [AttemptStatus.running, .succeeded, .failed, .blocked, .cancelled] →
      attempt.status ∈ [AttemptStatus.running, .succeeded, .failed, .blocked, .cancelled]) :
    after.Staged state := by
  constructor
  · intro status
    rw [same.executionPlan, same.execution, same.workspaceCheckpoint]
    exact staged.scheduled (scheduled status)
  · intro status
    rw [same.execution]
    exact staged.prepared (prepared status)
  · intro status
    rw [same.execution]
    exact staged.started (started status)
  · rw [same.execution, same.executionPlan]
    exact staged.execution
  · rw [same.executionPlan]
    exact fun plan set => same.planFits (staged.plan plan set)

theorem Staged.step (staged : attempt.Staged state)
    (step : payload.AttemptStep state nodeId attempt after) : after.Staged state := by
  cases step with
  | evidence same status => exact same.staged staged (status ▸ id) (status ▸ id) (status ▸ id)
  | orphaned same live status =>
    exact same.staged staged (by simp [status]) (by simp [status]) (by simp [status])
  | ended same running status =>
    refine same.staged staged ?_ ?_ fun _ => by simp [running]
    · intro scheduled
      simp [scheduled] at status
    · intro prepared
      simp [prepared] at status
  | started waiting unconfigured =>
    obtain ⟨plan, execution, _⟩ := staged.scheduled waiting
    constructor <;> simp [unconfigured, plan, execution]
  | prepared execution checkpoint event waiting allowed =>
    obtain ⟨_, absent, _⟩ := staged.scheduled waiting
    refine ⟨by simp, fun _ => absent, by simp, by simp [absent], ?_⟩
    intro plan set
    obtain rfl := Option.some.inj set
    refine ⟨allowed.runId, ?_, allowed.runtime⟩
    rw [allowed.kind]
    split <;> simp_all
  | authorized execution waiting planned =>
    refine ⟨by simp, by simp, by simp, ?_, ?_⟩
    · intro reference set
      obtain rfl := Option.some.inj set
      exact planned
    · intro plan set
      exact ⟨(staged.plan plan set).runId, (staged.plan plan set).kind, (staged.plan plan set).runtime⟩

end AttemptState

/-- What later events keep of a run. -/
structure RunState.Keeps (state after : RunState) : Prop where
  runId : after.runId = state.runId
  attempts : ∀ {id node}, state.node? id = some node → ∃ next, after.node? id = some next ∧
    ∀ {index : Nat} {attempt : AttemptState}, node.attempts[index]? = some attempt →
      ∃ later, next.attempts[index]? = some later ∧ attempt.Keeps later
  descriptor : ∀ descriptor, state.runtimeDescriptor = some descriptor →
    after.runtimeDescriptor = some descriptor
  negotiation : ∀ negotiation, state.runtimeNegotiation = some negotiation →
    after.runtimeNegotiation = some negotiation
  configured : ∀ {id node}, state.node? id = some node → node.attempts ≠ [] →
    after.runtimeDescriptor = state.runtimeDescriptor

/-- Every attempt of the run stands at its stage. -/
def RunState.Staged (state : RunState) : Prop :=
  ∀ {id node}, state.node? id = some node → ∀ attempt ∈ node.attempts, attempt.Staged state

theorem RunState.Keeps.refl (state : RunState) : state.Keeps state where
  runId := rfl
  attempts found := ⟨_, found, fun present => ⟨_, present, .refl _⟩⟩
  descriptor _ := id
  negotiation _ := id
  configured _ _ := rfl

theorem RunState.Keeps.trans {state after final : RunState} (first : state.Keeps after)
    (second : after.Keeps final) : state.Keeps final where
  runId := second.runId.trans first.runId
  attempts found := by
    obtain ⟨next, present, kept⟩ := first.attempts found
    obtain ⟨last, final_present, carried⟩ := second.attempts present
    refine ⟨last, final_present, fun attempt_present => ?_⟩
    obtain ⟨middle, middle_present, keeps⟩ := kept attempt_present
    obtain ⟨later, later_present, more⟩ := carried middle_present
    exact ⟨later, later_present, keeps.trans more⟩
  descriptor _ set := second.descriptor _ (first.descriptor _ set)
  negotiation _ set := second.negotiation _ (first.negotiation _ set)
  configured {id node} found some_attempt := by
    obtain ⟨next, present, kept⟩ := first.attempts found
    rw [← first.configured found some_attempt]
    refine second.configured present fun empty => ?_
    obtain ⟨attempt, rest, attempts⟩ := List.exists_cons_of_ne_nil some_attempt
    have head : node.attempts[0]? = some attempt := by rw [attempts]; rfl
    obtain ⟨later, later_present, _⟩ := kept head
    rw [empty] at later_present
    cases later_present

/-- The descriptor is recorded once, before any attempt, for the negotiated runtime. -/
theorem effect_descriptor {payload : RunEventPayload} {state : RunState}
    (accepted : payload.Accepts state) :
    (payload.descriptor? = none ∧
      (payload.effect state).runtimeDescriptor = state.runtimeDescriptor) ∨
    ∃ descriptor, payload = .runtimeConfigured descriptor ∧ state.runtimeDescriptor = none ∧
      (payload.effect state).runtimeDescriptor = some descriptor := by
  cases payload
  case runtimeConfigured descriptor => exact .inr ⟨descriptor, rfl, accepted.1, rfl⟩
  case runCompleted outcome => cases outcome <;> exact .inl ⟨rfl, rfl⟩
  case nodePaused nodeId reason => cases reason <;> exact .inl ⟨rfl, rfl⟩
  case runtimeEventObserved nodeId number event => cases event <;> exact .inl ⟨rfl, rfl⟩
  all_goals exact .inl ⟨rfl, rfl⟩

theorem effect_negotiation {payload : RunEventPayload} {state : RunState}
    (accepted : payload.Accepts state) :
    (payload.negotiation? = none ∧
      (payload.effect state).runtimeNegotiation = state.runtimeNegotiation) ∨
    ∃ negotiation, payload = .runtimeNegotiated negotiation ∧ state.runtimeNegotiation = none ∧
      (payload.effect state).runtimeNegotiation = some negotiation := by
  cases payload
  case runtimeNegotiated negotiation => exact .inr ⟨negotiation, rfl, accepted.1, rfl⟩
  case runCompleted outcome => cases outcome <;> exact .inl ⟨rfl, rfl⟩
  case nodePaused nodeId reason => cases reason <;> exact .inl ⟨rfl, rfl⟩
  case runtimeEventObserved nodeId number event => cases event <;> exact .inl ⟨rfl, rfl⟩
  all_goals exact .inl ⟨rfl, rfl⟩

/-- The attempts before a change are found at their index after it. -/
theorem RunEventPayload.AttemptsChange.keeps {payload : RunEventPayload} {state : RunState}
    {node next : NodeRunState} (change : payload.AttemptsChange state node next)
    (staged : ∀ attempt ∈ node.attempts, attempt.Staged state) {index : Nat}
    {attempt : AttemptState} (present : node.attempts[index]? = some attempt) :
    ∃ later, next.attempts[index]? = some later ∧ attempt.Keeps later := by
  cases change with
  | same attempts => exact ⟨attempt, attempts ▸ present, .refl _⟩
  | scheduled runtimeId event attempts =>
    refine ⟨attempt, ?_, .refl _⟩
    rw [attempts, List.getElem?_append_left (List.getElem?_eq_some_iff.mp present).1]
    exact present
  | rewritten last after current step attempts =>
    rw [attempts]
    rw [attempts_of_current current] at present
    by_cases early : index < node.attempts.dropLast.length
    · rw [List.getElem?_append_left early] at present ⊢
      exact ⟨attempt, present, .refl _⟩
    · have bound := (List.getElem?_eq_some_iff.mp present).1
      rw [List.length_append, List.length_singleton] at bound
      have final : index = node.attempts.dropLast.length := by omega
      rw [final, List.getElem?_concat_length, Option.some.injEq] at present
      subst present
      refine ⟨after, by rw [final, List.getElem?_concat_length], ?_⟩
      exact (staged last (List.mem_of_getLast? current)).keeps step

theorem effect_keeps {payload : RunEventPayload} {state : RunState} (staged : state.Staged)
    (accepted : payload.Accepts state) : state.Keeps (payload.effect state) where
  runId := effect_runId payload state
  attempts found := by
    obtain ⟨next, present, ⟨rfl, _⟩ | moves⟩ := effect_of_node accepted found
    · exact ⟨next, present, fun attempt_present => ⟨_, attempt_present, .refl _⟩⟩
    · exact ⟨next, present, moves.attempts.keeps (staged found)⟩
  descriptor descriptor set := by
    rcases effect_descriptor accepted with ⟨_, same⟩ | ⟨_, _, absent, _⟩
    · rw [same, set]
    · rw [set] at absent
      cases absent
  negotiation negotiation set := by
    rcases effect_negotiation accepted with ⟨_, same⟩ | ⟨_, _, absent, _⟩
    · rw [same, set]
    · rw [set] at absent
      cases absent
  configured found some_attempt := by
    rcases effect_descriptor accepted with ⟨_, same⟩ | ⟨_, rfl, _⟩
    · exact same
    · exact absurd (accepted.2.1 _ (Keyed.find_mem found)) some_attempt

/-- The stage of an attempt depends on the run's id and its descriptor alone. -/
theorem AttemptState.Staged.transport {state after : RunState} {attempt : AttemptState}
    (staged : attempt.Staged state) (runId : after.runId = state.runId)
    (descriptor : after.runtimeDescriptor = state.runtimeDescriptor) : attempt.Staged after where
  scheduled := staged.scheduled
  prepared := staged.prepared
  started := descriptor ▸ staged.started
  execution := staged.execution
  plan plan set := by
    obtain ⟨run, kind, runtime⟩ := staged.plan plan set
    exact ⟨run.trans runId.symm, kind, descriptor ▸ runtime⟩

theorem RunEventPayload.AttemptsChange.staged {payload : RunEventPayload} {state : RunState}
    {node next : NodeRunState} (change : payload.AttemptsChange state node next)
    (staged : ∀ attempt ∈ node.attempts, attempt.Staged state) :
    ∀ attempt ∈ next.attempts, attempt.Staged state := by
  cases change with
  | same attempts => rwa [attempts]
  | scheduled runtimeId event attempts =>
    rw [attempts, List.forall_mem_append, List.forall_mem_singleton]
    exact ⟨staged, by constructor <;> simp⟩
  | rewritten last after current step attempts =>
    rw [attempts, List.forall_mem_append, List.forall_mem_singleton]
    refine ⟨fun attempt member => staged attempt (List.dropLast_subset _ member), ?_⟩
    exact (staged last (List.mem_of_getLast? current)).step step

theorem effect_staged {payload : RunEventPayload} {state : RunState} (staged : state.Staged)
    (accepted : payload.Accepts state) : (payload.effect state).Staged := by
  intro id node found attempt member
  obtain ⟨before, present, origin⟩ := effect_node accepted found
  have local_staged : attempt.Staged state := by
    rcases origin with ⟨rfl, _⟩ | moves
    · exact staged present attempt member
    · exact moves.attempts.staged (staged present) attempt member
  refine local_staged.transport (effect_runId payload state) ?_
  rcases effect_descriptor accepted with ⟨_, same⟩ | ⟨_, rfl, _⟩
  · exact same
  · rcases origin with ⟨rfl, _⟩ | ⟨_, _, _, change, _⟩
    · rw [accepted.2.1 _ (Keyed.find_mem present)] at member
      cases member
    · cases change

theorem replayRun_staged {events : List RunEvent} {state : RunState}
    (replayed : replayRun events = .ok state) : state.Staged := by
  refine replayRun_induction (P := fun _ state => state.Staged) ?_ ?_ replayed
  · intro event state applied id node found attempt member
    rw [(createdState_nodes applied).2 node (Keyed.find_mem found)] at member
    cases member
  · intro history state event next _ staged applied id node found attempt member
    obtain ⟨_, _, _, _, accepted, rfl⟩ := applyRunEvent_step.mp applied
    exact (effect_staged staged accepted found attempt member).transport rfl rfl

/-- Every longer history keeps the evidence of a shorter one. -/
theorem replayRun_keeps {earlier later : List RunEvent} {before state : RunState}
    (first : replayRun earlier = .ok before) (replayed : replayRun (earlier ++ later) = .ok state) :
    before.Keeps state := by
  refine replayRun_extension (P := fun state => before.Keeps state) first (.refl before) ?_ replayed
  intro history middle event next middle_replayed keeps applied
  obtain ⟨_, _, _, _, accepted, rfl⟩ := applyRunEvent_step.mp applied
  have step := effect_keeps (replayRun_staged middle_replayed) accepted
  exact keeps.trans ⟨step.runId, step.attempts, step.descriptor, step.negotiation, step.configured⟩

/-- The history records the descriptor and the negotiation of the state, each once. -/
theorem replayRun_records {events : List RunEvent} {state : RunState}
    (replayed : replayRun events = .ok state) :
    events.filterMap (·.payload.descriptor?) = state.runtimeDescriptor.toList ∧
    events.filterMap (·.payload.negotiation?) = state.runtimeNegotiation.toList ∧
    (∀ descriptor negotiation, state.runtimeDescriptor = some descriptor →
      state.runtimeNegotiation = some negotiation →
      descriptor.runtimeId = negotiation.runtimeId) := by
  refine replayRun_induction (P := fun events state =>
    events.filterMap (·.payload.descriptor?) = state.runtimeDescriptor.toList ∧
    events.filterMap (·.payload.negotiation?) = state.runtimeNegotiation.toList ∧
    (∀ descriptor negotiation, state.runtimeDescriptor = some descriptor →
      state.runtimeNegotiation = some negotiation →
      descriptor.runtimeId = negotiation.runtimeId)) ?_ ?_ replayed
  · intro event state applied
    obtain ⟨_, created⟩ := applyRunEvent_none_ok.mp applied
    cases payload : event.payload <;> rw [payload] at created <;>
      simp only [createdState, require_bind_ok, pure_ok, reduceCtorEq] at created
    obtain ⟨_, rfl⟩ := created
    simp [payload, descriptor?, negotiation?]
  · rintro history state event next _ ⟨descriptors, negotiations, agree⟩ applied
    obtain ⟨_, _, _, _, accepted, rfl⟩ := applyRunEvent_step.mp applied
    rw [List.filterMap_append, List.filterMap_append, descriptors, negotiations]
    rcases effect_descriptor accepted with ⟨silent, same⟩ | ⟨descriptor, payload, absent, recorded⟩
    · rcases effect_negotiation accepted with
        ⟨quiet, kept⟩ | ⟨negotiation, payload, absent, recorded⟩
      · simp only [List.filterMap_cons, silent, quiet, List.filterMap_nil, List.append_nil]
        exact ⟨by rw [same], by rw [kept], by rw [same, kept]; exact agree⟩
      · rw [payload] at accepted same recorded
        simp only [same, recorded, absent, payload, List.filterMap_cons, descriptor?, negotiation?]
        refine ⟨by simp, by simp, fun descriptor other set same => ?_⟩
        rw [← Option.some.inj same]
        exact accepted.2.2 descriptor set
    · rcases effect_negotiation accepted with ⟨quiet, kept⟩ | ⟨_, other, _⟩
      · rw [payload] at accepted kept recorded
        simp only [kept, recorded, absent, payload, List.filterMap_cons, descriptor?, negotiation?]
        refine ⟨by simp, by simp, fun other negotiation same set => ?_⟩
        rw [← Option.some.inj same]
        exact (accepted.2.2 negotiation set).symm
      · rw [payload] at other
        cases other

/-- The runtime is recorded before any attempt. -/
theorem replayRun_records_first {events : List RunEvent} {state : RunState}
    (replayed : replayRun events = .ok state) :
    Applied (fun before event => (event.payload.descriptor?.isSome = true ∨
      event.payload.negotiation?.isSome = true) → ∀ node ∈ before.nodes, node.attempts = [])
      events := by
  refine replayRun_induction (P := fun events _ =>
    Applied (fun before event => (event.payload.descriptor?.isSome = true ∨
      event.payload.negotiation?.isSome = true) → ∀ node ∈ before.nodes, node.attempts = [])
      events) ?_ ?_ replayed
  · exact fun event _ _ => applied_single _ event
  · intro history state event next earlier first applied
    obtain ⟨_, _, _, _, accepted, rfl⟩ := applyRunEvent_step.mp applied
    refine (applied_concat earlier).mpr ⟨first, fun records => ?_⟩
    rcases effect_descriptor accepted with ⟨silent, _⟩ | ⟨_, payload, _⟩
    · rcases effect_negotiation accepted with ⟨quiet, _⟩ | ⟨_, payload, _⟩
      · simp [silent, quiet] at records
      · rw [payload] at accepted
        exact accepted.2.1
    · rw [payload] at accepted
      exact accepted.2.1

/-- An attempt that ever ran carries its plan and its execution, which agree. -/
theorem replayRun_ran {earlier later : List RunEvent} {before state : RunState}
    (first : replayRun earlier = .ok before) (replayed : replayRun (earlier ++ later) = .ok state)
    (configured : state.runtimeDescriptor.isSome = true) {id : String} {node : NodeRunState}
    (found : before.node? id = some node) {index : Nat} {attempt : AttemptState}
    (present : node.attempts[index]? = some attempt) (running : attempt.status = .running) :
    ∃ final last, state.node? id = some final ∧ final.attempts[index]? = some last ∧
      ∃ plan execution, last.executionPlan = some plan ∧ last.execution = some execution ∧
        execution.toExecutionPlanRef = plan ∧ PlanFits state last plan := by
  have keeps := replayRun_keeps first replayed
  obtain ⟨final, final_found, kept⟩ := keeps.attempts found
  obtain ⟨last, last_present, same⟩ := kept present
  have some_attempt : node.attempts ≠ [] := by
    rintro empty
    rw [empty] at present
    cases present
  rw [keeps.configured found some_attempt] at configured
  have member := List.mem_of_getElem? present
  obtain ⟨execution, set⟩ := Option.isSome_iff_exists.mp
    ((replayRun_staged first found attempt member).started (by simp [running]) configured)
  have last_set := same.execution execution set
  have staged := replayRun_staged replayed final_found last (List.mem_of_getElem? last_present)
  have planned := staged.execution execution last_set
  exact ⟨final, last, final_found, last_present, execution.toExecutionPlanRef, execution, planned,
    last_set, rfl, staged.plan _ planned⟩

/-- In a history with a configured runtime every attempt that is or ever was running carries
a plan and an execution that agree and fit the run; the runtime is recorded once, before any
attempt; and what is recorded of a start never changes. -/
theorem replayRun_start_evidence {events : List RunEvent} {state : RunState}
    (replayed : replayRun events = .ok state)
    (configured : ∃ event ∈ events, ∃ descriptor, event.payload = .runtimeConfigured descriptor) :
    (∀ earlier later before, events = earlier ++ later → replayRun earlier = .ok before →
      ∀ id node, before.node? id = some node → ∀ (index : Nat) (attempt : AttemptState),
        node.attempts[index]? = some attempt → attempt.status = .running →
        ∃ final last, state.node? id = some final ∧ final.attempts[index]? = some last ∧
          ∃ plan execution, last.executionPlan = some plan ∧ last.execution = some execution ∧
            execution.toExecutionPlanRef = plan ∧ PlanFits state last plan) ∧
    (events.filterMap (·.payload.descriptor?) = state.runtimeDescriptor.toList ∧
      events.filterMap (·.payload.negotiation?) = state.runtimeNegotiation.toList ∧
      ∀ descriptor negotiation, state.runtimeDescriptor = some descriptor →
        state.runtimeNegotiation = some negotiation →
        descriptor.runtimeId = negotiation.runtimeId) ∧
    Applied (fun before event => (event.payload.descriptor?.isSome = true ∨
      event.payload.negotiation?.isSome = true) → ∀ node ∈ before.nodes, node.attempts = [])
      events ∧
    (∀ earlier later before, events = earlier ++ later → replayRun earlier = .ok before →
      before.Keeps state) := by
  have descriptor : state.runtimeDescriptor.isSome = true := by
    obtain ⟨event, member, descriptor, payload⟩ := configured
    have recorded : descriptor ∈ events.filterMap (·.payload.descriptor?) :=
      List.mem_filterMap.mpr ⟨event, member, by rw [payload]; rfl⟩
    rw [(replayRun_records replayed).1, Option.mem_toList] at recorded
    exact Option.isSome_of_mem recorded
  refine ⟨?_, replayRun_records replayed, replayRun_records_first replayed, ?_⟩
  · rintro earlier later before rfl first id node found index attempt present running
    exact replayRun_ran first replayed descriptor found present running
  · rintro earlier later before rfl first
    exact replayRun_keeps first replayed

def sampleDigest : String := "sha256:" ++ String.ofList (List.replicate 64 '0')

def samplePlan : ExecutionPlanRef :=
  { runId := "run", executionId := "execution", kind := .runtime, generation := 1,
    planDigest := sampleDigest }

def sampleCheckpoint : WorkspaceCheckpoint :=
  { workspaceId := "workspace", baseCommit := "base", headCommit := "head",
    diffDigest := sampleDigest, changedFiles := [], ignoredDigest := sampleDigest,
    ignoredEntryCount := 0, ignoredByteCount := 0,
    ownership := { repositoryRoot := "/repo", repositoryCommonDirectory := "/repo/.git",
                   workspacePath := "/work", workspaceGitDirectory := "/repo/.git/work",
                   branch := "branch", manifestDigest := sampleDigest,
                   registrationDigest := sampleDigest },
    diffArtifactId := none }

def sampleDescriptor : RuntimeDescriptor :=
  { runtimeId := "agent", configurationVersion := "1", configuration := [] }

def sampleExecution : PersistedExecutionRef := { samplePlan with manifestDigest := sampleDigest }

/-- A run whose attempt is prepared and then authorized. -/
def configuredRun : List RunEvent :=
  numbered "run" [.runCreated "instance" "workflow" "1.0.0" ["build"] [],
    .runtimeConfigured sampleDescriptor, .nodeReady "build" .dependenciesSatisfied,
    .attemptScheduled "build" 1 "agent", .attemptPrepared "build" 1 samplePlan sampleCheckpoint,
    .attemptStartAuthorized "build" 1 sampleExecution]

def configuredState : RunState :=
  { runId := "run", workflowInstanceId := "instance", workflowId := "workflow",
    workflowVersion := "1.0.0", status := .running, sequence := 6, inputs := [],
    runtimeDescriptor := some sampleDescriptor
    nodes := [{ id := "build", status := .running,
                attempts := [{ number := 1, runtimeId := "agent", status := .running,
                               executionPlan := some samplePlan, execution := some sampleExecution,
                               workspaceCheckpoint := some sampleCheckpoint }] }] }

theorem configuredRun_replayed : replayRun configuredRun = .ok configuredState := by
  decide +kernel

theorem configuredRun_start_evidence :
    (∀ earlier later before, configuredRun = earlier ++ later → replayRun earlier = .ok before →
      ∀ id node, before.node? id = some node → ∀ (index : Nat) (attempt : AttemptState),
        node.attempts[index]? = some attempt → attempt.status = .running →
        ∃ final last, configuredState.node? id = some final ∧ final.attempts[index]? = some last ∧
          ∃ plan execution, last.executionPlan = some plan ∧ last.execution = some execution ∧
            execution.toExecutionPlanRef = plan ∧ PlanFits configuredState last plan) ∧
    (configuredRun.filterMap (·.payload.descriptor?) = configuredState.runtimeDescriptor.toList ∧
      configuredRun.filterMap (·.payload.negotiation?) =
        configuredState.runtimeNegotiation.toList ∧
      ∀ descriptor negotiation, configuredState.runtimeDescriptor = some descriptor →
        configuredState.runtimeNegotiation = some negotiation →
        descriptor.runtimeId = negotiation.runtimeId) ∧
    Applied (fun before event => (event.payload.descriptor?.isSome = true ∨
      event.payload.negotiation?.isSome = true) → ∀ node ∈ before.nodes, node.attempts = [])
      configuredRun ∧
    (∀ earlier later before, configuredRun = earlier ++ later → replayRun earlier = .ok before →
      before.Keeps configuredState) :=
  replayRun_start_evidence configuredRun_replayed
    ⟨_, List.mem_cons_of_mem _ List.mem_cons_self, sampleDescriptor, rfl⟩

end Anastom
