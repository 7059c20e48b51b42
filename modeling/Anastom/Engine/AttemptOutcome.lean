import Anastom.Engine.ActiveAttempt
import Anastom.Engine.WorkflowEngine

/-! How an attempt starts in a scheduled graph, and the batches that end it: each is
accepted, and leaves the graph scheduled again or the run ended. -/
namespace Anastom
open RunEventPayload WorkflowEngine
variable {workflow : WorkflowDefinition} {start state : RunState} {nodeId id reason : String}
  {number : Nat} {timeout : Option TimeoutState} {usageSeen : Bool}

/-- The next attempt of a ready node in a scheduled graph. -/
structure RunState.Selected (workflow : WorkflowDefinition) (start : RunState) (nodeId : String)
    (number : Nat) : Prop extends start.Scheduled workflow where
  node : ∃ node, start.node? nodeId = some node ∧ node.status = .ready ∧
    node.attempts.length + 1 = number

namespace RunState.Selected

theorem known (selected : start.Selected workflow nodeId number) : nodeId ∈ workflow.nodeOrder := by
  obtain ⟨node, found, _⟩ := selected.node
  exact (selected.named nodeId).mp ⟨node, found⟩

theorem open' (selected : start.Selected workflow nodeId number) : ¬ start.HasSucceeded nodeId := by
  rintro ⟨other, found, succeeded⟩
  obtain ⟨node, present, ready, _⟩ := selected.node
  rw [present, Option.some.injEq] at found
  rw [← found, ready] at succeeded
  cases succeeded

/-- A selected node has its needs, and the attempt fits its budget. -/
theorem ready (selected : start.Selected workflow nodeId number) :
    NeedsSucceeded workflow start nodeId ∧ number ≤ workflow.maxAttempts nodeId := by
  obtain ⟨node, found, ready, count⟩ := selected.node
  have name := node?_id found
  cases selected.rests found with
  | pending status _ => rw [ready] at status; cases status
  | ready _ needs budget => exact ⟨name ▸ needs, by rw [name] at budget; omega⟩
  | succeeded status _ => rw [ready] at status; cases status

/-- The node as it is selected: nothing has changed yet. -/
theorem idle (selected : start.Selected workflow nodeId number) :
    start.Holding nodeId (fun node => node.status = .ready ∧ node.attempts.length + 1 = number)
      start := by
  obtain ⟨node, found, ready, count⟩ := selected.node
  refine ⟨rfl, selected.status, selected.unconfigured, node, fun id => ?_, ready, count⟩
  by_cases same : id = nodeId
  · rw [if_pos same, same, found]
  · rw [if_neg same]

theorem scheduled (selected : start.Selected workflow nodeId number) (runtimeId : String) :
    start.Holding nodeId (fun node => node.status = .ready ∧ node.attempts.length = number ∧
        node.current = some { number, runtimeId, status := .scheduled })
      (start.after (.attemptScheduled nodeId number runtimeId)) := by
  refine selected.idle.change rfl ?_
  rintro node ⟨ready, count⟩
  exact ⟨ready, by simp [count], by simp [NodeRunState.current]⟩

theorem admits_schedule (selected : start.Selected workflow nodeId number)
    (numbered : positive number = true) (runtimeId : String) :
    start.AdmitsAll [.attemptScheduled nodeId number runtimeId, .attemptStarted nodeId number] := by
  have scheduled := selected.scheduled runtimeId
  refine ⟨selected.idle.admits numbered rfl ?_, scheduled.admits numbered rfl ?_, trivial⟩
  · rintro node ⟨ready, count⟩
    exact ⟨ready, count.symm, by simp [scheduledRuntimeMatches, selected.unconfigured]⟩
  · rintro node ⟨ready, _, current⟩
    exact ⟨ready, scheduled.unconfigured, _, current, rfl, rfl⟩

/-- Then its attempt executes. -/
theorem executes (selected : start.Selected workflow nodeId number) (runtimeId : String) :
    start.Holding nodeId (NodeRunState.Executes number none false)
      (start.afterAll [.attemptScheduled nodeId number runtimeId,
        .attemptStarted nodeId number]) := by
  refine (selected.scheduled runtimeId).change rfl ?_
  rintro node ⟨ready, count, current⟩
  constructor
  case status => rfl
  case count => exact (updateCurrent_length node _).trans count
  case current =>
    refine ⟨{ number, runtimeId, status := .running }, ⟨?_, rfl, rfl⟩, rfl, fun _ => rfl⟩
    have moved := updateCurrent_current node fun attempt => { attempt with status := .running }
    rw [current] at moved
    exact moved

end RunState.Selected

/-- The last attempt of a node has ended while the node itself still runs. -/
structure NodeRunState.Stopped (number : Nat) (outcome : AttemptStatus) (node : NodeRunState) :
    Prop where
  status : node.status = .running
  count : node.attempts.length = number
  current : ∃ attempt, node.CurrentIs number outcome attempt

theorem NodeRunState.Executes.stop {node next : NodeRunState} {outcome : AttemptStatus}
    (executes : node.Executes number timeout usageSeen) (g : AttemptState → AttemptState)
    (ends : ∀ attempt, (g attempt).number = attempt.number ∧ (g attempt).status = outcome)
    (running : next.status = node.status)
    (attempts : next.attempts = (node.updateCurrent g).attempts) : next.Stopped number outcome where
  status := running.trans executes.status
  count := by rw [attempts, updateCurrent_length, executes.count]
  current := by
    obtain ⟨attempt, ⟨current, named, _⟩, _⟩ := executes.current
    refine ⟨g attempt, ?_, (ends attempt).1.trans named, (ends attempt).2⟩
    have moved := updateCurrent_current node g
    rw [current] at moved
    simpa [NodeRunState.current, attempts] using moved

namespace RunState.Active

theorem fail (active : start.Active nodeId number timeout usageSeen state)
    (failure : ExecutionFailure) : start.Holding nodeId (NodeRunState.Stopped number .failed)
      (state.after (.attemptFailed nodeId number failure)) :=
  active.change rfl fun _ executes => executes.stop
    (fun attempt => { attempt with status := .failed, failure := some failure })
    (fun _ => ⟨rfl, rfl⟩) rfl rfl

theorem admits_fail (active : start.Active nodeId number timeout usageSeen state)
    {failure : ExecutionFailure} (due : ∀ requested ∈ timeout,
      failure.category = .budgetExhausted ∧ requested.cancellation.isSome = true) :
    state.Admits (.attemptFailed nodeId number failure) := by
  refine active.admits active.numbered rfl fun node executes => ?_
  obtain ⟨attempt, current, timed, _⟩ := executes.current
  exact ⟨executes.status, attempt, current, timed ▸ due⟩

theorem succeed (active : start.Active nodeId number timeout usageSeen state) (output : JsonValue) :
    start.Holding nodeId (NodeRunState.Stopped number .succeeded)
      (state.after (.attemptSucceeded nodeId number output)) :=
  active.change rfl fun _ executes => executes.stop
    (fun attempt => { attempt with status := .succeeded }) (fun _ => ⟨rfl, rfl⟩) rfl rfl

theorem admits_succeed (active : start.Active nodeId number none usageSeen state)
    {output : JsonValue} : state.Admits (.attemptSucceeded nodeId number output) := by
  refine active.admits active.numbered rfl fun node executes => ?_
  obtain ⟨attempt, current, timed, _⟩ := executes.current
  exact ⟨executes.status, attempt, current, timed⟩

theorem block (active : start.Active nodeId number timeout usageSeen state) (reason : String) :
    start.Holding nodeId (NodeRunState.Stopped number .blocked)
      (state.after (.attemptBlocked nodeId number reason)) :=
  active.change rfl fun _ executes => executes.stop
    (fun attempt => { attempt with status := .blocked }) (fun _ => ⟨rfl, rfl⟩) rfl rfl

theorem admits_block (active : start.Active nodeId number none usageSeen state) :
    state.Admits (.attemptBlocked nodeId number reason) := by
  refine active.admits active.numbered rfl fun node executes => ?_
  obtain ⟨attempt, current, timed, _⟩ := executes.current
  exact ⟨executes.status, attempt, current, timed⟩

theorem cancel (active : start.Active nodeId number timeout usageSeen state) (reason : String) :
    start.Holding nodeId (NodeRunState.Stopped number .cancelled)
      (state.after (.attemptCancelled nodeId number reason)) :=
  active.change rfl fun _ executes => executes.stop
    (fun attempt => { attempt with status := .cancelled }) (fun _ => ⟨rfl, rfl⟩) rfl rfl

theorem admits_cancel (active : start.Active nodeId number none usageSeen state) :
    state.Admits (.attemptCancelled nodeId number reason) := by
  refine active.admits active.numbered rfl fun node executes => ?_
  obtain ⟨attempt, current, timed, _⟩ := executes.current
  exact ⟨executes.status, attempt, current, timed⟩

end RunState.Active
end Anastom
