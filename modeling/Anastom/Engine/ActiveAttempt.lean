import Anastom.Engine.Graph

/-! One attempt of a run while it executes: the evidence it may record at any time, and the
batches that finish it. -/
namespace Anastom
open RunEventPayload
variable {workflow : WorkflowDefinition} {start state : RunState} {nodeId id : String}
  {number : Nat} {timeout after : Option TimeoutState} {usageSeen seen : Bool}
  {payload : RunEventPayload}

theorem updateCurrent_current (node : NodeRunState) (f : AttemptState → AttemptState) :
    (node.updateCurrent f).current = node.current.map f := by
  cases current : node.attempts.getLast? with
  | none =>
    have empty := List.getLast?_eq_none_iff.mp current
    simp [NodeRunState.current, NodeRunState.updateCurrent, empty]
  | some last => simp [NodeRunState.current, NodeRunState.updateCurrent, current]

/-- The last attempt of the node is running, with this timeout evidence so far. -/
structure NodeRunState.Executes (number : Nat) (timeout : Option TimeoutState) (usageSeen : Bool)
    (node : NodeRunState) : Prop where
  status : node.status = .running
  count : node.attempts.length = number
  current : ∃ attempt, node.CurrentIs number .running attempt ∧ attempt.timeout = timeout ∧
    (usageSeen = false → attempt.usage = none)

theorem NodeRunState.Executes.update {node : NodeRunState}
    (executes : node.Executes number timeout usageSeen) (g : AttemptState → AttemptState)
    (keeps : ∀ attempt, (g attempt).number = attempt.number ∧ (g attempt).status = attempt.status)
    (evidence : ∀ attempt, attempt.timeout = timeout → (usageSeen = false → attempt.usage = none) →
      (g attempt).timeout = after ∧ (seen = false → (g attempt).usage = none)) :
    (node.updateCurrent g).Executes number after seen where
  status := executes.status
  count := by rw [updateCurrent_length, executes.count]
  current := by
    obtain ⟨attempt, ⟨current, named, running⟩, timed, used⟩ := executes.current
    obtain ⟨timed, used⟩ := evidence attempt timed used
    refine ⟨g attempt, ⟨?_, (keeps attempt).1.trans named, (keeps attempt).2.trans running⟩,
      timed, used⟩
    rw [updateCurrent_current, current]
    rfl

/-- A running graph in which only one node differs from `start`, and how it stands. -/
structure RunState.Holding (start : RunState) (nodeId : String) (P : NodeRunState → Prop)
    (state : RunState) : Prop where
  runId : state.runId = start.runId
  status : state.status = .running
  unconfigured : state.runtimeDescriptor = none
  node : ∃ node, start.OnlyNode nodeId node state ∧ P node

namespace RunState.Holding
variable {P Q : NodeRunState → Prop}

theorem live (holding : start.Holding nodeId P state) : state.status.terminal = false := by
  rw [holding.status]
  rfl

theorem admits (holding : start.Holding nodeId P state)
    (valid : EventValidation.payload payload = true) (about : payload.nodeId? = some nodeId)
    (guard : ∀ node, P node → payload.nodeGuard state node) : state.Admits payload := by
  obtain ⟨node, only, holds⟩ := holding.node
  refine ⟨valid, holding.live, ?_⟩
  simp only [Accepts, about]
  exact ⟨node, only.here, guard node holds⟩

/-- An event about the node changes it alone. -/
theorem change (holding : start.Holding nodeId P state) {f : NodeRunState → NodeRunState}
    (change : payload.nodeChange = some (nodeId, f)) (changed : ∀ node, P node → Q (f node)) :
    start.Holding nodeId Q (state.after payload) := by
  have effect : payload.effect state = state.updateNode nodeId f := by
    simp only [RunEventPayload.effect, change]
  obtain ⟨node, only, holds⟩ := holding.node
  constructor
  case runId => rw [after_runId, holding.runId]
  case status => rw [after_status, effect]; exact holding.status
  case unconfigured =>
    show (payload.effect state).runtimeDescriptor = none
    rw [effect]
    exact holding.unconfigured
  case node => exact ⟨f node, only.change change, changed node holds⟩

/-- An event about the run leaves the node as it is. -/
theorem keep (holding : start.Holding nodeId P state) (unchanged : payload.nodeChange = none)
    (status : (payload.runChange state).status = state.status)
    (descriptor : (payload.runChange state).runtimeDescriptor = state.runtimeDescriptor) :
    start.Holding nodeId P (state.after payload) := by
  have effect : payload.effect state = payload.runChange state := by
    simp only [RunEventPayload.effect, unchanged]
  obtain ⟨node, only, holds⟩ := holding.node
  constructor
  case runId => rw [after_runId, holding.runId]
  case status => rw [after_status, effect, status, holding.status]
  case unconfigured =>
    show (payload.effect state).runtimeDescriptor = none
    rw [effect, descriptor, holding.unconfigured]
  case node => exact ⟨node, only.keep unchanged, holds⟩

end RunState.Holding

/-- An attempt of one node is running; all other nodes are as they were at `start`. -/
structure RunState.Active (start : RunState) (nodeId : String) (number : Nat)
    (timeout : Option TimeoutState) (usageSeen : Bool) (state : RunState) : Prop
    extends start.Holding nodeId (NodeRunState.Executes number timeout usageSeen) state where
  numbered : positive number = true

/-- Whether an observation reports the attempt's usage. -/
def reportsUsage : RuntimeEvent → Bool
  | .usage _ => true
  | _ => false

namespace RunState.Active

/-- Evidence about the attempt changes it alone. -/
theorem record (active : start.Active nodeId number timeout usageSeen state)
    {f : NodeRunState → NodeRunState} (change : payload.nodeChange = some (nodeId, f))
    (executes : ∀ node, node.Executes number timeout usageSeen → (f node).Executes number after seen) :
    start.Active nodeId number after seen (state.after payload) :=
  ⟨active.change change executes, active.numbered⟩

/-- Evidence about the run leaves the attempt as it is. -/
theorem keepRun (active : start.Active nodeId number timeout usageSeen state)
    (unchanged : payload.nodeChange = none)
    (status : (payload.runChange state).status = state.status)
    (descriptor : (payload.runChange state).runtimeDescriptor = state.runtimeDescriptor) :
    start.Active nodeId number timeout usageSeen (state.after payload) :=
  ⟨active.keep unchanged status descriptor, active.numbered⟩

theorem admits_artifact (active : start.Active nodeId number timeout usageSeen state)
    {artifact : ArtifactRef} (valid : artifact.valid = true)
    (producer : artifact.producer = { runId := start.runId, nodeId, attempt := number }) :
    state.Admits (.artifactProduced nodeId number artifact) := by
  refine active.admits ?_ rfl fun node executes => ?_
  · simp [EventValidation.payload, active.numbered, valid]
  · obtain ⟨attempt, ⟨current, named, running⟩, _⟩ := executes.current
    refine ⟨⟨attempt, current, named, .inl ⟨executes.status, running⟩⟩, ?_⟩
    rw [producer, active.runId]

theorem admits_workspace (active : start.Active nodeId number timeout usageSeen state)
    {headCommit diffArtifactId : String} {changedFiles : List String}
    (recorded : state.hasArtifact diffArtifactId = true) :
    state.Admits (.workspaceObserved nodeId number headCommit changedFiles diffArtifactId) := by
  refine active.admits active.numbered rfl fun node executes => ?_
  obtain ⟨attempt, current, _⟩ := executes.current
  exact ⟨⟨attempt, current⟩, recorded⟩

theorem admits_command (active : start.Active nodeId number timeout usageSeen state)
    {output : CommandReport} (valid : output.valid = true) :
    state.Admits (.commandCompleted nodeId number output) := by
  refine active.admits ?_ rfl fun node executes => ?_
  · simp [EventValidation.payload, active.numbered, valid]
  · obtain ⟨attempt, current, _⟩ := executes.current
    exact ⟨attempt, current⟩

theorem record_command (active : start.Active nodeId number timeout usageSeen state)
    (output : CommandReport) : start.Active nodeId number timeout usageSeen
      (state.after (.commandCompleted nodeId number output)) :=
  active.record rfl fun _ executes => ⟨executes.status, executes.count, executes.current⟩

theorem admits_observation (active : start.Active nodeId number timeout usageSeen state)
    {event : RuntimeEvent} (valid : event.valid = true)
    (first : reportsUsage event = true → usageSeen = false) :
    state.Admits (.runtimeEventObserved nodeId number event) := by
  refine active.admits ?_ rfl fun node executes => ?_
  · simp [EventValidation.payload, active.numbered, valid]
  · obtain ⟨attempt, current, _, unused⟩ := executes.current
    refine ⟨executes.status, attempt, current, ?_⟩
    rintro value rfl
    exact unused (first rfl)

theorem record_observation (active : start.Active nodeId number timeout usageSeen state)
    (event : RuntimeEvent) : start.Active nodeId number timeout (usageSeen || reportsUsage event)
      (state.after (.runtimeEventObserved nodeId number event)) := by
  cases event with
  | usage value =>
    exact active.record rfl fun _ executes => executes.update _ (fun _ => ⟨rfl, rfl⟩)
      fun attempt timed _ => ⟨timed, by simp [reportsUsage]⟩
  | metadata value =>
    exact active.record rfl fun _ executes => executes.update _ (fun _ => ⟨rfl, rfl⟩)
      fun attempt timed unused => ⟨timed, by simpa [reportsUsage] using unused⟩
  | started | log _ _ | completed _ =>
    show start.Active nodeId number timeout (usageSeen || false) _
    rw [Bool.or_false]
    exact active.keepRun rfl rfl rfl

theorem admits_timeout (active : start.Active nodeId number none usageSeen state) :
    state.Admits (.attemptTimeoutRequested nodeId number) := by
  refine active.admits active.numbered rfl fun node executes => ?_
  obtain ⟨attempt, current, timed, _⟩ := executes.current
  exact ⟨executes.status, attempt, current, timed⟩

theorem record_timeout (active : start.Active nodeId number timeout usageSeen state) :
    start.Active nodeId number (some { cancellation := none, lateStatus := none }) usageSeen
      (state.after (.attemptTimeoutRequested nodeId number)) :=
  active.record rfl fun _ executes => executes.update _ (fun _ => ⟨rfl, rfl⟩)
    fun _ _ unused => ⟨rfl, unused⟩

theorem admits_cancellation {requested : TimeoutState} {outcome : CancellationOutcome}
    (active : start.Active nodeId number (some requested) usageSeen state)
    (unanswered : requested.cancellation = none) :
    state.Admits (.attemptCancellationCompleted nodeId number outcome) := by
  refine active.admits active.numbered rfl fun node executes => ?_
  obtain ⟨attempt, current, timed, _⟩ := executes.current
  exact ⟨attempt, requested, current, timed, unanswered⟩

theorem record_cancellation {requested : TimeoutState}
    (active : start.Active nodeId number (some requested) usageSeen state)
    (outcome : CancellationOutcome) :
    start.Active nodeId number (some { requested with cancellation := some outcome }) usageSeen
      (state.after (.attemptCancellationCompleted nodeId number outcome)) :=
  active.record rfl fun _ executes => executes.update _ (fun _ => ⟨rfl, rfl⟩)
    fun attempt timed unused => ⟨by simp [timed], unused⟩

theorem admits_late {cancelled : TimeoutState} {status : ResultStatus}
    (active : start.Active nodeId number (some cancelled) usageSeen state)
    (answered : cancelled.cancellation.isSome = true) (first : cancelled.lateStatus = none) :
    state.Admits (.lateResultObserved nodeId number status) := by
  refine active.admits active.numbered rfl fun node executes => ?_
  obtain ⟨attempt, current, timed, _⟩ := executes.current
  exact ⟨attempt, cancelled, current, timed, answered, first⟩

theorem record_late {cancelled : TimeoutState}
    (active : start.Active nodeId number (some cancelled) usageSeen state) (status : ResultStatus) :
    start.Active nodeId number (some { cancelled with lateStatus := some status }) usageSeen
      (state.after (.lateResultObserved nodeId number status)) :=
  active.record rfl fun _ executes => executes.update _ (fun _ => ⟨rfl, rfl⟩)
    fun attempt timed unused => ⟨by simp [timed], unused⟩

end RunState.Active
end Anastom
