import Anastom.Engine.Batches
import Anastom.Engine.Scheduling

/-! The graph of a run as a sequential driver finds it between two attempts and while one
attempt runs: which nodes wait, which are ready, and what each step of the driver makes
of them. -/
namespace Anastom
open RunEventPayload
variable {workflow : WorkflowDefinition} {start state : RunState} {nodeId id : String}

def WorkflowDefinition.maxAttempts (workflow : WorkflowDefinition) (id : String) : Nat :=
  ((workflow.node? id).map fun node => node.attemptBudget.maxAttempts).getD 0

/-- The attempts of a node; none for an unknown one. -/
def RunState.attemptsOf (state : RunState) (id : String) : Nat :=
  ((state.node? id).map fun node => node.attempts.length).getD 0

/-- A node that no attempt is running for. -/
inductive NodeRunState.Rests (workflow : WorkflowDefinition) (state : RunState)
    (node : NodeRunState) : Prop
  | pending (status : node.status = .pending) (attempts : node.attempts = [])
  | ready (status : node.status = .ready) (needs : NeedsSucceeded workflow state node.id)
      (budget : node.attempts.length < workflow.maxAttempts node.id)
  | succeeded (status : node.status = .succeeded) (needs : NeedsSucceeded workflow state node.id)

/-- A running graph whose nodes all rest. -/
structure RunState.Resting (workflow : WorkflowDefinition) (state : RunState) : Prop where
  status : state.status = .running
  unconfigured : state.runtimeDescriptor = none
  named : ∀ id, (∃ node, state.node? id = some node) ↔ id ∈ workflow.nodeOrder
  rests : ∀ {id node}, state.node? id = some node → node.Rests workflow state

/-- A resting graph in which every node that may run is ready, and one is left to run. -/
structure RunState.Scheduled (workflow : WorkflowDefinition) (state : RunState) : Prop
    extends state.Resting workflow where
  waiting : ∀ {id node}, state.node? id = some node → node.status = .pending →
    ¬ NeedsSucceeded workflow state id
  unfinished : ∃ id node, state.node? id = some node ∧ node.status ≠ .succeeded

/-- A run that no longer runs; it has succeeded exactly when each of its nodes has. -/
structure RunState.Ended (state : RunState) : Prop where
  status : state.status ≠ .running
  succeeded : state.status = .succeeded ↔
    ∀ {id node}, state.node? id = some node → node.status = .succeeded

theorem node?_id {node : NodeRunState} (found : state.node? id = some node) : node.id = id :=
  Keyed.find_key found

/-- Acyclic dependencies always leave a ready node in a scheduled graph. -/
theorem RunState.Scheduled.ready (scheduled : state.Scheduled workflow)
    (formed : workflow.WellFormed) : findReadyNodes workflow state ≠ [] := by
  obtain ⟨id, node, found, open'⟩ := scheduled.unfinished
  obtain ⟨finished, ordered, complete⟩ := formed.acyclic
  have inOrder := (scheduled.named id).mp ⟨node, found⟩
  let done (id : String) : Prop := id ∈ workflow.nodeOrder → state.HasSucceeded id
  have failing : ¬ done id := by
    intro succeeded
    obtain ⟨other, present, status⟩ := succeeded inOrder
    rw [found, Option.some.injEq] at present
    exact open' (present ▸ status)
  -- The first open node in dependency order has all its needs, so it is ready.
  obtain ⟨first, _, notYet, needs⟩ := ordered.first_failing (P := done) (complete inOrder) failing
  obtain ⟨inOrder, notYet⟩ := Classical.not_imp.mp notYet
  obtain ⟨node, found⟩ := (scheduled.named first).mpr inOrder
  have available : NeedsSucceeded workflow state first := by
    intro need needed
    refine needs need needed ?_
    obtain ⟨definition, present⟩ := formed.present first inOrder
    refine formed.closed present need ?_
    simpa [WorkflowDefinition.needs, present] using needed
  have ready : first ∈ findReadyNodes workflow state := by
    refine mem_findReadyNodes.mpr ⟨inOrder, node, found, ?_⟩
    cases scheduled.rests found with
    | pending status _ => exact absurd available (scheduled.waiting found status)
    | ready status _ _ => exact status
    | succeeded status _ => exact absurd ⟨node, found, status⟩ notYet
  exact List.ne_nil_of_mem ready

/-- Only this node differs from `start`. -/
def RunState.OnlyNode (start : RunState) (nodeId : String) (node : NodeRunState)
    (state : RunState) : Prop :=
  ∀ id, state.node? id = if id = nodeId then some node else start.node? id

namespace RunState.OnlyNode
variable {node : NodeRunState}

theorem here (only : start.OnlyNode nodeId node state) : state.node? nodeId = some node := by
  rw [only nodeId, if_pos rfl]

theorem elsewhere (only : start.OnlyNode nodeId node state) (other : id ≠ nodeId) :
    state.node? id = start.node? id := by
  rw [only id, if_neg other]

/-- The same with further changes of the node. -/
theorem change (only : start.OnlyNode nodeId node state) {payload : RunEventPayload}
    {f : NodeRunState → NodeRunState} (change : payload.nodeChange = some (nodeId, f)) :
    start.OnlyNode nodeId (f node) (state.after payload) := by
  intro id
  rw [after_node?, effect_node?, change, only id]
  by_cases same : id = nodeId
  · subst same
    simp
  · have different : nodeId ≠ id := fun h => same h.symm
    simp [same, different]

/-- The same after an event about the run. -/
theorem keep (only : start.OnlyNode nodeId node state) {payload : RunEventPayload}
    (unchanged : payload.nodeChange = none) :
    start.OnlyNode nodeId node (state.after payload) := by
  intro id
  rw [after_node?, effect_node?, unchanged, only id]

/-- A node that had not succeeded takes no success away. -/
theorem hasSucceeded (only : start.OnlyNode nodeId node state)
    (before : ¬ start.HasSucceeded nodeId) (earlier : start.HasSucceeded id) :
    state.HasSucceeded id := by
  have other : id ≠ nodeId := fun same => before (same ▸ earlier)
  obtain ⟨found, present, status⟩ := earlier
  exact ⟨found, (only.elsewhere other).trans present, status⟩

theorem hasSucceeded_iff (only : start.OnlyNode nodeId node state)
    (before : ¬ start.HasSucceeded nodeId) (after : node.status ≠ .succeeded) :
    state.HasSucceeded id ↔ start.HasSucceeded id := by
  refine ⟨fun later => ?_, only.hasSucceeded before⟩
  obtain ⟨found, present, status⟩ := later
  have other : id ≠ nodeId := by
    rintro rfl
    rw [only.here, Option.some.injEq] at present
    exact after (present ▸ status)
  exact ⟨found, (only.elsewhere other).symm.trans present, status⟩

theorem needsSucceeded (only : start.OnlyNode nodeId node state)
    (before : ¬ start.HasSucceeded nodeId) (earlier : NeedsSucceeded workflow start id) :
    NeedsSucceeded workflow state id :=
  fun need needed => only.hasSucceeded before (earlier need needed)

/-- A resting graph rests again once its one changed node does. -/
theorem resting (only : start.OnlyNode nodeId node state) (rested : start.Resting workflow)
    (known : nodeId ∈ workflow.nodeOrder) (before : ¬ start.HasSucceeded nodeId)
    (status : state.status = .running) (unconfigured : state.runtimeDescriptor = none)
    (rests : node.Rests workflow state) : state.Resting workflow where
  status := status
  unconfigured := unconfigured
  named id := by
    by_cases same : id = nodeId
    · subst same
      exact iff_of_true ⟨node, only.here⟩ known
    · rw [only.elsewhere same]
      exact rested.named id
  rests {id found} present := by
    by_cases same : id = nodeId
    · subst same
      rw [only.here, Option.some.injEq] at present
      exact present ▸ rests
    · rw [only.elsewhere same] at present
      have name := node?_id present
      cases rested.rests present with
      | pending status attempts => exact .pending status attempts
      | ready status needs budget =>
        exact .ready status (only.needsSucceeded before needs) budget
      | succeeded status needs => exact .succeeded status (only.needsSucceeded before needs)

end RunState.OnlyNode
end Anastom
