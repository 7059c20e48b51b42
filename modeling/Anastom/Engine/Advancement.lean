import Anastom.Engine.AttemptOutcome
import Mathlib.Algebra.Order.BigOperators.Group.List
import Mathlib.Algebra.Order.Group.Nat

/-! What follows the end of an attempt: the node is retried or has failed, the graph moves on,
or the run ends. Every tick that keeps the run alive uses up one attempt of its budget. -/
namespace Anastom
open RunEventPayload WorkflowEngine
variable {workflow : WorkflowDefinition} {start state : RunState} {nodeId id reason : String}
  {number : Nat} {timeout : Option TimeoutState} {usageSeen : Bool}

theorem mem_ids {p : NodeRunState → Bool} (distinct : Keyed.Distinct state.nodes) :
    id ∈ (state.nodes.filter p).map (·.id) ↔ ∃ node, state.node? id = some node ∧ p node = true := by
  simp only [List.mem_map, List.mem_filter]
  constructor
  · rintro ⟨node, ⟨member, holds⟩, rfl⟩
    exact ⟨node, Keyed.find_of_mem distinct member, holds⟩
  · rintro ⟨node, found, holds⟩
    exact ⟨node, ⟨Keyed.find_mem found, holds⟩, node?_id found⟩

theorem nodup_ids {p : NodeRunState → Bool} (distinct : Keyed.Distinct state.nodes) :
    ((state.nodes.filter p).map (·.id)).Nodup :=
  List.Nodup.sublist (List.Sublist.map _ List.filter_sublist) distinct

/-- The other nodes change in the same way; the one that is held does not. -/
theorem RunState.Holding.family {P : NodeRunState → Prop}
    {change : NodeRunState → NodeRunState} {guard : NodeRunState → Prop}
    {payload : String → RunEventPayload} {ids : List String}
    (holding : start.Holding nodeId P state) (like : NodeFamily change guard payload)
    (distinct : ids.Nodup)
    (others : ∀ id ∈ ids, id ≠ nodeId ∧ ∃ node, start.node? id = some node ∧ guard node) :
    state.AdmitsAll (ids.map payload) ∧ (state.afterAll (ids.map payload)).status = .running ∧
      ∃ node, (state.afterAll (ids.map payload)).node? nodeId = some node ∧ P node := by
  obtain ⟨held, only, holds⟩ := holding.node
  refine ⟨like.admitsAll distinct holding.live fun id member => ?_, ?_, held, ?_, holds⟩
  · obtain ⟨other, node, found, guarded⟩ := others id member
    exact ⟨node, (only.elsewhere other).trans found, guarded⟩
  · obtain ⟨nodes, same⟩ := @NodeFamily.afterAll_eq state change guard payload ids like
    rw [same]
    exact holding.status
  · rw [like.afterAll_node? distinct nodeId, if_neg fun member => (others nodeId member).1 rfl]
    exact only.here

/-- An event of the run that ends it otherwise than in success, with a node that has not
succeeded. -/
theorem RunState.Ended.close {payload : RunEventPayload} {status : RunStatus} {node : NodeRunState}
    (unchanged : payload.nodeChange = none) (closes : (payload.runChange state).status = status)
    (otherwise : status ≠ .running ∧ status ≠ .succeeded) (found : state.node? id = some node)
    (unsucceeded : node.status ≠ .succeeded) : (state.after payload).Ended := by
  have effect : payload.effect state = payload.runChange state := by
    simp only [RunEventPayload.effect, unchanged]
  have nodes : (state.after payload).node? id = some node := by
    rw [after_node?, effect_node?, unchanged]
    exact found
  constructor
  case status => rw [after_status, effect, closes]; exact otherwise.1
  case succeeded =>
    rw [after_status, effect, closes]
    exact iff_of_false otherwise.2 fun all => unsucceeded (all nodes)

theorem blockedNodePayloads_map (state : RunState) (nodeId reason : String) :
    blockedNodePayloads state nodeId reason = ((state.nodes.filter fun node => node.id != nodeId &&
      (node.status == .pending || node.status == .ready)).map (·.id)).map (.nodeBlocked · reason) := by
  simp only [blockedNodePayloads, List.map_map]
  rfl

theorem cancellablePayloads_map (state : RunState) (nodeId reason : String) :
    cancellablePayloads state nodeId reason = ((state.nodes.filter fun node =>
      node.status != .succeeded && node.status != .failed && node.id != nodeId).map (·.id)).map
        (.nodeCancelled · reason) := by
  simp only [cancellablePayloads, List.map_map]
  rfl

namespace RunState.Holding
variable {P : NodeRunState → Prop} {held : RunState}

/-- Blocking the other open nodes, as `held` lists them. -/
theorem blockOthers (holding : start.Holding nodeId P state)
    (before : ∃ node, start.OnlyNode nodeId node held) (distinct : Keyed.Distinct held.nodes)
    (reason : String) :
    let batch := blockedNodePayloads held nodeId reason
    state.AdmitsAll batch ∧ (state.afterAll batch).status = .running ∧
      ∃ node, (state.afterAll batch).node? nodeId = some node ∧ P node := by
  intro batch
  obtain ⟨_, only⟩ := before
  simp only [batch, blockedNodePayloads_map]
  refine holding.family (nodeBlocked_family reason) (nodup_ids distinct) fun id member => ?_
  obtain ⟨node, found, open'⟩ := (mem_ids distinct).mp member
  simp only [Bool.and_eq_true, bne_iff_ne, ne_eq, Bool.or_eq_true, beq_iff_eq] at open'
  obtain ⟨other, open'⟩ := open'
  rw [node?_id found] at other
  refine ⟨other, node, (only.elsewhere other).symm.trans found, ?_, ?_⟩
  · rcases open' with status | status <;> simp [status]
  · rcases open' with status | status <;> simp [status]

/-- Cancelling the other unfinished nodes, as `held` lists them. -/
theorem cancelOthers (holding : start.Holding nodeId P state) (rested : start.Resting workflow)
    (before : ∃ node, start.OnlyNode nodeId node held) (distinct : Keyed.Distinct held.nodes)
    (reason : String) :
    let batch := cancellablePayloads held nodeId reason
    state.AdmitsAll batch ∧ (state.afterAll batch).status = .running ∧
      ∃ node, (state.afterAll batch).node? nodeId = some node ∧ P node := by
  intro batch
  obtain ⟨_, only⟩ := before
  simp only [batch, cancellablePayloads_map]
  refine holding.family (nodeCancelled_family reason) (nodup_ids distinct) fun id member => ?_
  obtain ⟨node, found, open'⟩ := (mem_ids distinct).mp member
  simp only [Bool.and_eq_true, bne_iff_ne, ne_eq] at open'
  obtain ⟨⟨unsucceeded, _⟩, other⟩ := open'
  rw [node?_id found] at other
  have earlier := (only.elsewhere other).symm.trans found
  refine ⟨other, node, earlier, ?_⟩
  cases rested.rests earlier with
  | pending status _ => simp [status]
  | ready status _ _ => simp [status]
  | succeeded status _ => exact absurd status unsucceeded

end RunState.Holding

theorem RunState.Active.only (active : start.Active nodeId number timeout usageSeen state) :
    ∃ node, start.OnlyNode nodeId node state := by
  obtain ⟨node, only, _⟩ := active.node
  exact ⟨node, only⟩

/-- One attempt more of one node. -/
def RunState.Attempted (start : RunState) (nodeId : String) (state : RunState) : Prop :=
  ∀ id, state.attemptsOf id = start.attemptsOf id + if id = nodeId then 1 else 0

theorem RunState.Holding.attempted {P : NodeRunState → Prop}
    (holding : start.Holding nodeId P state) (selected : start.Selected workflow nodeId number)
    (count : ∀ node, P node → node.attempts.length = number) : start.Attempted nodeId state := by
  obtain ⟨node, only, holds⟩ := holding.node
  obtain ⟨earlier, found, _, next⟩ := selected.node
  intro id
  by_cases same : id = nodeId
  · subst same
    simp only [attemptsOf, only.here, found, Option.map_some, Option.getD_some, if_pos]
    rw [count node holds, next]
  · simp only [attemptsOf, only.elsewhere same, if_neg same, Nat.add_zero]

namespace RunState.Active

/-- A blocked attempt blocks its node, the open nodes and the run. -/
theorem finishBlocked (active : start.Active nodeId number timeout usageSeen state)
    (distinct : Keyed.Distinct state.nodes) (reason : String) :
    let batch := [.attemptBlocked nodeId number reason, .nodeBlocked nodeId reason] ++
      blockedNodePayloads state nodeId reason ++ [.runBlocked reason]
    (timeout = none → state.AdmitsAll batch) ∧ (state.afterAll batch).Ended := by
  intro batch
  have stopped := active.block reason
  have blocked : start.Holding nodeId (fun node => node.status = .blocked)
      (state.afterAll [.attemptBlocked nodeId number reason, .nodeBlocked nodeId reason]) :=
    stopped.change rfl fun _ _ => rfl
  obtain ⟨others, running, node, found, status⟩ :=
    blocked.blockOthers active.only distinct reason
  constructor
  · rintro rfl
    refine admitsAll_append.mpr ⟨admitsAll_append.mpr ⟨?_, others⟩, ?_⟩
    · refine ⟨active.admits_block, stopped.admits rfl rfl fun node stopped => ?_, trivial⟩
      refine ⟨by simp [stopped.status], fun _ => ?_⟩
      rw [stopped.count]
      exact stopped.current
    · rw [afterAll_append]
      exact ⟨⟨rfl, by rw [running]; rfl, running⟩, trivial⟩
  · rw [afterAll_append, afterAll_append]
    exact Ended.close rfl rfl ⟨nofun, nofun⟩ found (by rw [status]; decide)

/-- A cancelled attempt cancels its node, the unfinished nodes and the run. -/
theorem finishCancelled (active : start.Active nodeId number timeout usageSeen state)
    (rested : start.Resting workflow) (distinct : Keyed.Distinct state.nodes) (reason : String) :
    let batch := [.attemptCancelled nodeId number reason, .nodeCancelled nodeId reason] ++
      cancellablePayloads state nodeId reason ++ [.runCancelled none reason]
    (timeout = none → state.AdmitsAll batch) ∧ (state.afterAll batch).Ended := by
  intro batch
  have stopped := active.cancel reason
  have cancelled : start.Holding nodeId (fun node => node.status = .cancelled)
      (state.afterAll [.attemptCancelled nodeId number reason, .nodeCancelled nodeId reason]) :=
    stopped.change rfl fun _ _ => rfl
  obtain ⟨others, running, node, found, status⟩ :=
    cancelled.cancelOthers rested active.only distinct reason
  constructor
  · rintro rfl
    refine admitsAll_append.mpr ⟨admitsAll_append.mpr ⟨?_, others⟩, ?_⟩
    · refine ⟨active.admits_cancel, stopped.admits rfl rfl fun node stopped => ?_, trivial⟩
      obtain ⟨attempt, current, _, ended⟩ := stopped.current
      exact ⟨by simp [stopped.status],
        fun _ => by simp [NodeRunState.currentStatusIn, current, ended]⟩
    · rw [afterAll_append]
      exact ⟨⟨rfl, by rw [running]; rfl, List.mem_cons.mpr (.inl running), by rintro ⟨⟩⟩, trivial⟩
  · rw [afterAll_append, afterAll_append]
    exact Ended.close rfl rfl ⟨by rintro ⟨⟩, by rintro ⟨⟩⟩ found (by rw [status]; decide)

end RunState.Active

namespace RunState.Holding

/-- A node that has failed. -/
theorem failNode (stopped : start.Holding nodeId (NodeRunState.Stopped number .failed) state)
    (failure : ExecutionFailure) : state.AdmitsAll [.nodeFailed nodeId failure] ∧
      start.Holding nodeId (fun node => node.status = .failed)
        (state.afterAll [.nodeFailed nodeId failure]) := by
  refine ⟨⟨stopped.admits rfl rfl fun node stopped => ⟨stopped.status, ?_⟩, trivial⟩,
    stopped.change rfl fun _ _ => rfl⟩
  rw [stopped.count]
  exact stopped.current

/-- A failed node blocks the open nodes and fails the run. -/
theorem finishFailed (failed : start.Holding nodeId (fun node => node.status = .failed) state)
    (distinct : Keyed.Distinct state.nodes) :
    let batch := blockedNodePayloads state nodeId reason ++ [.runCompleted .failed]
    state.AdmitsAll batch ∧ (state.afterAll batch).Ended := by
  intro batch
  have before : ∃ node, start.OnlyNode nodeId node state := by
    obtain ⟨node, only, _⟩ := failed.node
    exact ⟨node, only⟩
  obtain ⟨others, running, node, found, status⟩ :=
    failed.blockOthers before distinct reason
  constructor
  · refine admitsAll_append.mpr ⟨others, ⟨rfl, by rw [running]; rfl, running, by simp, ?_⟩, trivial⟩
    exact fun _ => ⟨node, Keyed.find_mem found, status⟩
  · rw [afterAll_append]
    exact Ended.close rfl rfl ⟨nofun, nofun⟩ found (by rw [status]; decide)

/-- A node whose attempt failed within its budget is scheduled again. -/
theorem retryNode (stopped : start.Holding nodeId (NodeRunState.Stopped number .failed) state)
    (selected : start.Selected workflow nodeId number)
    (budget : number < workflow.maxAttempts nodeId) :
    state.AdmitsAll [.nodeReady nodeId .retry] ∧
      (state.afterAll [.nodeReady nodeId .retry]).Scheduled workflow ∧
      start.Attempted nodeId (state.afterAll [.nodeReady nodeId .retry]) := by
  have ready : start.Holding nodeId (fun node => node.status = .ready ∧ node.attempts.length = number)
      (state.afterAll [.nodeReady nodeId .retry]) :=
    stopped.change rfl fun node stopped => ⟨rfl, stopped.count⟩
  obtain ⟨node, only, status, count⟩ := ready.node
  have name := node?_id only.here
  have same (id : String) := @OnlyNode.hasSucceeded_iff start _ nodeId id node only selected.open'
    (by rw [status]; decide)
  refine ⟨⟨stopped.admits rfl rfl fun node stopped => ?_, trivial⟩, ?_⟩
  · obtain ⟨attempt, current, _, ended⟩ := stopped.current
    exact ⟨by simp [ReadyReason.allowed, stopped.status],
      fun _ => by simp [NodeRunState.currentStatusIn, current, ended], by simp⟩
  · refine ⟨⟨only.resting selected.toResting selected.known selected.open' ready.status
      ready.unconfigured (.ready status ?_ ?_), ?_, nodeId, node, only.here, by rw [status]; decide⟩,
      ready.attempted selected fun _ held => held.2⟩
    · exact name ▸ only.needsSucceeded selected.open' selected.ready.1
    · rw [name, count]
      exact budget
    · intro id found present pending needs
      have other : id ≠ nodeId := by
        rintro rfl
        rw [only.here, Option.some.injEq] at present
        rw [← present, status] at pending
        cases pending
      exact selected.waiting ((only.elsewhere other).symm.trans present) pending
        fun need needed => (same need).mp (needs need needed)

end RunState.Holding

/-- The nodes that need nothing more become ready. -/
def readyPayloads (workflow : WorkflowDefinition) (state : RunState) : List RunEventPayload :=
  (findExecutableNodes workflow state).map (.nodeReady · .dependenciesSatisfied)

namespace RunState.Resting
variable {node : NodeRunState}

theorem after_ready (formed : workflow.WellFormed) (id : String) :
    (state.afterAll (readyPayloads workflow state)).node? id =
      if id ∈ findExecutableNodes workflow state
      then (state.node? id).map fun node => { node with status := .ready, pauseReason := none }
      else state.node? id :=
  nodeReady_family.afterAll_node? (formed.distinct.filter _) id

/-- A node afterwards: as it was, or ready where it was pending. -/
theorem before_ready (formed : workflow.WellFormed)
    (found : (state.afterAll (readyPayloads workflow state)).node? id = some node) :
    ∃ before, state.node? id = some before ∧ before.attempts = node.attempts ∧
      (id ∉ findExecutableNodes workflow state ∧ before = node ∨
        id ∈ findExecutableNodes workflow state ∧ before.status = .pending ∧ node.status = .ready) := by
  rw [after_ready formed] at found
  split at found
  · rename_i executable
    obtain ⟨before, present, rfl⟩ := Option.map_eq_some_iff.mp found
    obtain ⟨_, ⟨other, same, pending⟩, _⟩ := mem_findExecutableNodes.mp executable
    rw [present, Option.some.injEq] at same
    exact ⟨before, present, rfl, .inr ⟨executable, same ▸ pending, rfl⟩⟩
  · rename_i resting
    exact ⟨node, found, rfl, .inl ⟨resting, rfl⟩⟩

theorem ready_hasSucceeded (formed : workflow.WellFormed) :
    (state.afterAll (readyPayloads workflow state)).HasSucceeded id ↔ state.HasSucceeded id := by
  constructor
  · rintro ⟨node, found, succeeded⟩
    obtain ⟨before, present, _, ⟨_, rfl⟩ | ⟨_, _, ready⟩⟩ := before_ready formed found
    · exact ⟨before, present, succeeded⟩
    · rw [ready] at succeeded
      cases succeeded
  · rintro ⟨node, found, succeeded⟩
    have kept : id ∉ findExecutableNodes workflow state := by
      intro executable
      obtain ⟨_, ⟨other, same, pending⟩, _⟩ := mem_findExecutableNodes.mp executable
      rw [found, Option.some.injEq] at same
      rw [← same, succeeded] at pending
      cases pending
    exact ⟨node, by rw [after_ready formed, if_neg kept, found], succeeded⟩

theorem ready_needs (formed : workflow.WellFormed) :
    NeedsSucceeded workflow (state.afterAll (readyPayloads workflow state)) id ↔
      NeedsSucceeded workflow state id :=
  forall₂_congr fun _ _ => ready_hasSucceeded formed

theorem ready_attempts (formed : workflow.WellFormed) (id : String) :
    (state.afterAll (readyPayloads workflow state)).attemptsOf id = state.attemptsOf id := by
  unfold attemptsOf
  rw [after_ready formed]
  split
  · rw [Option.map_map]
    rfl
  · rfl

theorem admits_ready (rested : state.Resting workflow) (formed : workflow.WellFormed) :
    state.AdmitsAll (readyPayloads workflow state) := by
  refine nodeReady_family.admitsAll (formed.distinct.filter _) (by rw [rested.status]; rfl) ?_
  intro id executable
  exact (mem_findExecutableNodes.mp executable).2.1

theorem makeReady (rested : state.Resting workflow) (formed : workflow.WellFormed) :
    (state.afterAll (readyPayloads workflow state)).Resting workflow := by
  obtain ⟨nodes, same⟩ := @NodeFamily.afterAll_eq state _ _ _ (findExecutableNodes workflow state)
    nodeReady_family
  have whole : state.afterAll (readyPayloads workflow state) = { state with nodes, sequence := _ } := same
  constructor
  case status => rw [whole]; exact rested.status
  case unconfigured => rw [whole]; exact rested.unconfigured
  case named =>
    intro id
    rw [← rested.named id]
    constructor
    · rintro ⟨node, found⟩
      obtain ⟨before, present, _⟩ := before_ready formed found
      exact ⟨before, present⟩
    · rintro ⟨node, found⟩
      rw [after_ready formed, found]
      split <;> exact ⟨_, rfl⟩
  case rests =>
    intro id node found
    have name := node?_id found
    obtain ⟨before, present, attempts, ⟨_, rfl⟩ | ⟨executable, pending, ready⟩⟩ :=
      before_ready formed found
    · cases rested.rests present with
      | pending status attempts => exact .pending status attempts
      | ready status needs budget => exact .ready status ((ready_needs formed).mpr needs) budget
      | succeeded status needs => exact .succeeded status ((ready_needs formed).mpr needs)
    · obtain ⟨inOrder, _, _, needs⟩ := mem_findExecutableNodes.mp executable
      obtain ⟨definition, defined⟩ := formed.present id inOrder
      have budget := formed.budget defined
      refine .ready ready (name ▸ (ready_needs formed).mpr needs) ?_
      cases rested.rests present with
      | pending _ none =>
        rw [← attempts, none, name, WorkflowDefinition.maxAttempts, defined]
        exact budget
      | ready status _ _ => rw [status] at pending; cases pending
      | succeeded status _ => rw [status] at pending; cases pending

/-- After that, a node still pending lacks a need. -/
theorem waiting (rested : state.Resting workflow) (formed : workflow.WellFormed)
    (found : (state.afterAll (readyPayloads workflow state)).node? id = some node)
    (pending : node.status = .pending) :
    ¬ NeedsSucceeded workflow (state.afterAll (readyPayloads workflow state)) id := by
  intro needs
  obtain ⟨before, present, _, ⟨kept, rfl⟩ | ⟨_, _, ready⟩⟩ := before_ready formed found
  · have inOrder := (rested.named id).mp ⟨before, present⟩
    obtain ⟨definition, defined⟩ := formed.present id inOrder
    exact kept (mem_findExecutableNodes.mpr ⟨inOrder, ⟨before, present, pending⟩,
      by rw [defined]; rfl, (ready_needs formed).mp needs⟩)
  · rw [ready] at pending
    cases pending

/-- A resting graph with an unfinished node is scheduled once the others are ready. -/
theorem schedule (rested : state.Resting workflow) (formed : workflow.WellFormed)
    (unfinished : (state.afterAll (readyPayloads workflow state)).nodes.all
      (·.status == .succeeded) = false)
    (distinct : Keyed.Distinct (state.afterAll (readyPayloads workflow state)).nodes) :
    (state.afterAll (readyPayloads workflow state)).Scheduled workflow where
  toResting := rested.makeReady formed
  waiting := rested.waiting formed
  unfinished := by
    obtain ⟨node, member, open'⟩ := List.all_eq_false.mp unfinished
    exact ⟨node.id, node, Keyed.find_of_mem distinct member, by simpa using open'⟩

/-- A run whose nodes have all succeeded completes. -/
theorem complete (rested : state.Resting workflow)
    (finished : state.nodes.all (·.status == .succeeded) = true) :
    state.AdmitsAll [.runCompleted .succeeded] ∧
      (state.afterAll [.runCompleted .succeeded]).Ended := by
  have all : ∀ node ∈ state.nodes, node.status = .succeeded := by simpa using finished
  refine ⟨⟨⟨rfl, by rw [rested.status]; rfl, rested.status, fun _ => all, nofun⟩, trivial⟩, ?_⟩
  constructor
  case status => exact nofun
  case succeeded => exact iff_of_true rfl fun found => all _ (Keyed.find_mem found)

end RunState.Resting

/-- A succeeded attempt completes its node. -/
theorem RunState.Active.finishNode (active : start.Active nodeId number timeout usageSeen state)
    (selected : start.Selected workflow nodeId number) (output : JsonValue) :
    let batch := [.attemptSucceeded nodeId number output, .nodeSucceeded nodeId]
    (timeout = none → state.AdmitsAll batch) ∧ (state.afterAll batch).Resting workflow ∧
      start.Holding nodeId (fun node => node.attempts.length = number) (state.afterAll batch) := by
  intro batch
  have stopped := active.succeed output
  have done : start.Holding nodeId
      (fun node => node.status = .succeeded ∧ node.attempts.length = number)
      (state.afterAll batch) := stopped.change rfl fun _ stopped => ⟨rfl, stopped.count⟩
  obtain ⟨node, only, status, count⟩ := done.node
  refine ⟨?_, ?_, done.runId, done.status, done.unconfigured, node, only, count⟩
  · rintro rfl
    refine ⟨active.admits_succeed, stopped.admits rfl rfl fun node stopped => ?_, trivial⟩
    refine ⟨stopped.status, ?_⟩
    rw [stopped.count]
    exact stopped.current
  · refine only.resting selected.toResting selected.known selected.open' done.status
      done.unconfigured (.succeeded status ?_)
    rw [node?_id only.here]
    exact only.needsSucceeded selected.open' selected.ready.1

theorem findExecutableNodes_congr {other : RunState} (same : ∀ id, state.node? id = other.node? id) :
    findExecutableNodes workflow state = findExecutableNodes workflow other := by
  simp only [findExecutableNodes, same]

/-- An event of the run that leaves its status alone leaves the graph at rest. -/
theorem RunState.Resting.keepRun {payload : RunEventPayload} (rested : state.Resting workflow)
    (unchanged : payload.nodeChange = none)
    (status : (payload.runChange state).status = state.status)
    (descriptor : (payload.runChange state).runtimeDescriptor = state.runtimeDescriptor) :
    (state.after payload).Resting workflow := by
  have effect : payload.effect state = payload.runChange state := by
    simp only [RunEventPayload.effect, unchanged]
  have same (id : String) : (state.after payload).node? id = state.node? id := by
    rw [after_node?, effect_node?, unchanged]
  constructor
  case status => rw [after_status, effect, status, rested.status]
  case unconfigured =>
    show (payload.effect state).runtimeDescriptor = none
    rw [effect, descriptor, rested.unconfigured]
  case named => intro id; rw [same, rested.named id]
  case rests =>
    intro id node found
    have succeeded (id : String) : (state.after payload).HasSucceeded id ↔ state.HasSucceeded id := by
      unfold RunState.HasSucceeded
      rw [same]
    have needs (id : String) : NeedsSucceeded workflow (state.after payload) id ↔
        NeedsSucceeded workflow state id := forall₂_congr fun need _ => succeeded need
    cases rested.rests ((same id).symm.trans found) with
    | pending status attempts => exact .pending status attempts
    | ready status earlier budget => exact .ready status ((needs _).mpr earlier) budget
    | succeeded status earlier => exact .succeeded status ((needs _).mpr earlier)

/-- The state of a run that was just created. -/
def createdRun (workflow : WorkflowDefinition) (runId rootId : String)
    (inputs : List (String × JsonValue)) : RunState :=
  { runId, workflowInstanceId := rootId, workflowId := workflow.metadata.id
    workflowVersion := workflow.metadata.version, status := .running, sequence := 1, inputs
    nodes := (Js.objectKeys workflow.nodeOrder).map NodeRunState.fresh }

section creation
variable {runId rootId : String} {inputs : List (String × JsonValue)} {events : List RunEvent}

theorem materializeEvents_created (formed : workflow.WellFormed) :
    materializeEvents none runId [.runCreated rootId workflow.metadata.id
        workflow.metadata.version workflow.nodeOrder inputs] = .ok (events, state) ↔
      events = [⟨.runCreated rootId workflow.metadata.id workflow.metadata.version
        workflow.nodeOrder inputs, runId, 1⟩] ∧ createdRun workflow runId rootId inputs = state := by
  have valid : validRunEvent ⟨.runCreated rootId workflow.metadata.id workflow.metadata.version
      workflow.nodeOrder inputs, runId, 1⟩ = true := by
    have nonempty := formed.nonempty
    simp only [validRunEvent, EventValidation.payload, Bool.and_eq_true, Bool.not_eq_true',
      List.isEmpty_eq_false_iff, decide_eq_true_eq]
    exact ⟨by decide, nonempty, formed.distinct⟩
  have applied (next : RunState) : applyRunEvent none ⟨.runCreated rootId workflow.metadata.id
      workflow.metadata.version workflow.nodeOrder inputs, runId, 1⟩ = .ok next ↔
      createdRun workflow runId rootId inputs = next := by
    rw [applyRunEvent_none_ok]
    simp only [valid, true_and, createdState, require_bind_ok, pure_ok, beq_self_eq_true]
    exact Iff.rfl
  have sequence : nextSequence none = 1 := rfl
  rw [materializeEvents_ok]
  simp only [materializeFrom, bind_ok, pure_ok, Prod.mk.injEq, Prod.exists, sequence, applied,
    Except.ok.injEq]
  constructor
  · rintro ⟨_, rfl, _, _, ⟨rfl, rfl⟩, rfl, same⟩
    exact ⟨rfl, Option.some.inj same⟩
  · rintro ⟨rfl, rfl⟩
    exact ⟨_, rfl, _, _, ⟨rfl, rfl⟩, rfl, rfl⟩

theorem createdRun_node? {node : NodeRunState} :
    (createdRun workflow runId rootId inputs).node? id = some node ↔
      id ∈ workflow.nodeOrder ∧ node = .fresh id := by
  have named : id ∈ Js.objectKeys workflow.nodeOrder ↔ id ∈ workflow.nodeOrder :=
    (Js.objectKeys_perm workflow.nodeOrder).mem_iff
  constructor
  · intro found
    obtain ⟨key, member, rfl⟩ := List.mem_map.mp (Keyed.find_mem found)
    have name : key = id := node?_id found
    subst name
    exact ⟨named.mp member, rfl⟩
  · rintro ⟨member, rfl⟩
    have key : id ∈ Keyed.keys (createdRun workflow runId rootId inputs).nodes :=
      List.mem_map.mpr ⟨.fresh id, List.mem_map.mpr ⟨id, named.mpr member, rfl⟩, rfl⟩
    obtain ⟨node, found⟩ := Option.isSome_iff_exists.mp (Keyed.find_isSome.mpr key)
    obtain ⟨key, _, rfl⟩ := List.mem_map.mp (Keyed.find_mem found)
    have name : key = id := node?_id found
    rw [← name] at found ⊢
    exact found

theorem createdRun_resting : (createdRun workflow runId rootId inputs).Resting workflow where
  status := rfl
  unconfigured := rfl
  named id := by simp [createdRun_node?]
  rests found := by
    obtain ⟨_, rfl⟩ := createdRun_node?.mp found
    exact .pending rfl rfl

/-- What a run records of its boundaries before its first nodes are ready. -/
def boundaryPayloads (negotiation : Option RuntimeNegotiation) (workspace : Option WorkspaceRef) :
    List RunEventPayload :=
  (negotiation.map RunEventPayload.runtimeNegotiated).toList ++
    (workspace.map RunEventPayload.workspaceAssigned).toList

theorem createdRun_boundary {negotiation : Option RuntimeNegotiation}
    {workspace : Option WorkspaceRef}
    (valid : ∀ n ∈ negotiation, n.capabilities.valid = true) :
    let created := createdRun workflow runId rootId inputs
    created.AdmitsAll (boundaryPayloads negotiation workspace) ∧
      (created.afterAll (boundaryPayloads negotiation workspace)).Resting workflow ∧
      ∀ id, (created.afterAll (boundaryPayloads negotiation workspace)).node? id =
        created.node? id := by
  intro created
  have rested : created.Resting workflow := createdRun_resting
  have untouched : ∀ node ∈ created.nodes, node.attempts = [] := by
    intro node member
    obtain ⟨key, _, rfl⟩ := List.mem_map.mp member
    rfl
  have negotiated (n : RuntimeNegotiation) (member : n ∈ negotiation) :
      created.Admits (.runtimeNegotiated n) := ⟨valid n member, rfl, rfl, untouched, nofun⟩
  cases negotiation with
  | none =>
    cases workspace with
    | none => exact ⟨trivial, rested, fun _ => rfl⟩
    | some workspace =>
      exact ⟨⟨⟨rfl, rfl, rfl, rfl⟩, trivial⟩, rested.keepRun rfl rfl rfl, fun _ => rfl⟩
  | some n =>
    have first : (created.after (.runtimeNegotiated n)).Resting workflow :=
      rested.keepRun rfl rfl rfl
    cases workspace with
    | none => exact ⟨⟨negotiated n rfl, trivial⟩, first, fun _ => rfl⟩
    | some workspace =>
      exact ⟨⟨negotiated n rfl, ⟨rfl, rfl, rfl, rfl⟩, trivial⟩, first.keepRun rfl rfl rfl,
        fun _ => rfl⟩

end creation

/-- The attempts the nodes of a workflow have left. -/
def remaining (workflow : WorkflowDefinition) (state : RunState) : Nat :=
  (workflow.nodeOrder.map fun id => workflow.maxAttempts id - state.attemptsOf id).sum

theorem remaining_le (workflow : WorkflowDefinition) (state : RunState) :
    remaining workflow state ≤ (workflow.nodeOrder.map workflow.maxAttempts).sum :=
  List.sum_le_sum fun _ _ => Nat.sub_le _ _

/-- A selected attempt is one of those left. -/
theorem RunState.Attempted.remaining_lt (attempted : start.Attempted nodeId state)
    (selected : start.Selected workflow nodeId number) :
    remaining workflow state < remaining workflow start := by
  obtain ⟨node, found, _, next⟩ := selected.node
  have budget := selected.ready.2
  have before : start.attemptsOf nodeId + 1 = number := by
    simp only [attemptsOf, found, Option.map_some, Option.getD_some, next]
  refine List.sum_lt_sum _ _ (fun id _ => ?_) ⟨nodeId, selected.known, ?_⟩
  · rw [attempted id]
    omega
  · rw [attempted nodeId, if_pos rfl]
    omega

/-- A graph with a ready node has attempts left. -/
theorem RunState.Scheduled.remaining_pos (scheduled : state.Scheduled workflow)
    (formed : workflow.WellFormed) : 0 < remaining workflow state := by
  obtain ⟨id, ready⟩ := List.exists_mem_of_ne_nil _ (scheduled.ready formed)
  obtain ⟨inOrder, node, found, status⟩ := mem_findReadyNodes.mp ready
  have budget : state.attemptsOf id < workflow.maxAttempts id := by
    have name := node?_id found
    rw [RunState.attemptsOf, found, ← name]
    cases scheduled.rests found with
    | pending other _ => rw [status] at other; cases other
    | ready _ _ budget => exact budget
    | succeeded other _ => rw [status] at other; cases other
  have term : workflow.maxAttempts id - state.attemptsOf id ≤ remaining workflow state :=
    List.single_le_sum (fun _ _ => Nat.zero_le _) _ (List.mem_map.mpr ⟨id, inOrder, rfl⟩)
  omega

end Anastom
