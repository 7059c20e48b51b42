import Anastom.Engine.NodeInvariants

/-! The life of an attempt over whole histories: which attempts can be live, what a
stopped run leaves behind, and what no later event changes. -/
namespace Anastom
open RunEventPayload

/-- Only the last attempt of a running node runs. -/
theorem NodeRunState.Coherent.running_last {node : NodeRunState} (coherent : node.Coherent)
    {attempt : AttemptState} (member : attempt ∈ node.attempts) (running : attempt.status = .running) :
    node.status = .running ∧ node.current = some attempt := by
  cases current : node.current with
  | none =>
    rw [List.getLast?_eq_none_iff.mp current] at member
    cases member
  | some last =>
    rw [attempts_of_current current] at member
    rcases List.mem_append.mp member with earlier | same
    · exact absurd running (coherent.superseded attempt earlier).1
    · rw [List.mem_singleton.mp same] at running ⊢
      exact ⟨coherent.running last current running, rfl⟩

/-- The events that stop a run and require its nodes to have stopped. -/
def RunEventPayload.stops : RunEventPayload → Bool
  | .runPaused (some _) | .runCancelled (some _) _ | .runCompleted .succeeded => true
  | _ => false

/-- What an accepted stop requires, and leaves unchanged. -/
theorem stops_idle {payload : RunEventPayload} {state : RunState} (stops : payload.stops = true)
    (accepted : payload.Accepts state) :
    (payload.effect state).nodes = state.nodes ∧ ∀ node ∈ state.nodes, node.status ≠ .running := by
  unfold RunEventPayload.stops at stops
  split at stops
  · exact ⟨rfl, accepted.2 rfl⟩
  · refine ⟨rfl, fun node member running => ?_⟩
    have status := accepted.2 rfl node member
    simp [running] at status
  · refine ⟨rfl, fun node member running => ?_⟩
    have status := accepted.2.1 rfl node member
    rw [running] at status
    cases status
  · cases stops

/-- In every replayed history a running attempt is the last one of a running node, so
none is left when the run pauses for a reason, is cancelled by an operation or succeeds. -/
theorem replayRun_running_attempts {events : List RunEvent} {state : RunState}
    (replayed : replayRun events = .ok state) :
    (∀ node ∈ state.nodes, ∀ attempt ∈ node.attempts, attempt.status = .running →
      node.status = .running ∧ node.current = some attempt) ∧
    (∀ earlier event, events = earlier ++ [event] → event.payload.stops = true →
      ∀ node ∈ state.nodes, ∀ attempt ∈ node.attempts, attempt.status ≠ .running) := by
  refine ⟨fun node member attempt => (replayRun_coherent replayed member).running_last, ?_⟩
  rintro earlier event rfl stops node member attempt present running
  have status := ((replayRun_coherent replayed member).running_last present running).1
  rcases replayRun_concat_ok.mp replayed with ⟨_, created⟩ | ⟨before, _, applied⟩
  · rw [(createdState_nodes created).2 node member] at status
    cases status
  · obtain ⟨_, _, _, _, accepted, rfl⟩ := applyRunEvent_step.mp applied
    obtain ⟨same, idle⟩ := stops_idle stops accepted
    exact idle node (same ▸ member) status

/-- The history of consecutive payloads. -/
def numbered (runId : String) (payloads : List RunEventPayload) : List RunEvent :=
  payloads.zipIdx.map fun (payload, index) => { payload, runId, sequence := index + 1 }

/-- A run of one node, from its creation to its success. -/
def completedRun : List RunEvent :=
  numbered "run" [.runCreated "instance" "workflow" "1.0.0" ["build"] [],
    .nodeReady "build" .dependenciesSatisfied, .attemptScheduled "build" 1 "runtime",
    .attemptStarted "build" 1, .attemptSucceeded "build" 1 .null, .nodeSucceeded "build",
    .runCompleted .succeeded]

def completedState : RunState :=
  { runId := "run", workflowInstanceId := "instance", workflowId := "workflow",
    workflowVersion := "1.0.0", status := .succeeded, sequence := 7, inputs := [],
    nodes := [{ id := "build", status := .succeeded, output := some .null,
                attempts := [{ number := 1, runtimeId := "runtime", status := .succeeded }] }] }

theorem completedRun_replayed : replayRun completedRun = .ok completedState := by decide +kernel

theorem completedRun_running_attempts :
    (∀ node ∈ completedState.nodes, ∀ attempt ∈ node.attempts, attempt.status = .running →
      node.status = .running ∧ node.current = some attempt) ∧
    (∀ earlier event, completedRun = earlier ++ [event] → event.payload.stops = true →
      ∀ node ∈ completedState.nodes, ∀ attempt ∈ node.attempts, attempt.status ≠ .running) :=
  replayRun_running_attempts completedRun_replayed

/-- The statuses that end an attempt. -/
def AttemptStatus.terminal (status : AttemptStatus) : Bool :=
  [AttemptStatus.succeeded, .failed, .blocked, .cancelled, .orphaned].contains status

/-- The attempt recovery inspects: the last one of a node, when it is prepared or running. -/
def currentOwnedAttempt (state : RunState) : Option (String × AttemptState) :=
  state.nodes.findSome? fun node => (node.current.filter fun attempt =>
    attempt.status == .prepared || attempt.status == .running).map fun attempt => (node.id, attempt)

/-- The attempts of a node are numbered in order, and only the last one can be live. -/
structure NodeRunState.AttemptsOrdered (node : NodeRunState) : Prop where
  numbers : node.attempts.map AttemptState.number = List.range' 1 node.attempts.length
  superseded : ∀ attempt ∈ node.attempts.dropLast, attempt.status.terminal = true
  live : ∀ (index : Nat) (attempt : AttemptState), node.attempts[index]? = some attempt →
    attempt.status.terminal = false →
    index + 1 = node.attempts.length ∧ node.current = some attempt

/-- Every node keeps its attempts in order, and recovery sees only a live last attempt. -/
structure RunState.AttemptsOrdered (state : RunState) : Prop where
  nodes : ∀ node ∈ state.nodes, node.AttemptsOrdered
  seen : ∀ nodeId attempt, currentOwnedAttempt state = some (nodeId, attempt) →
    ∃ node ∈ state.nodes, node.id = nodeId ∧ node.current = some attempt ∧
      attempt.status.terminal = false

/-- An attempt is scheduled over one that is still scheduled or prepared. -/
def RunEventPayload.hides (payload : RunEventPayload) (state : RunState) : Bool :=
  match payload with
  | .attemptScheduled nodeId _ _ =>
    (state.node? nodeId).any fun node => node.currentStatusIn [.scheduled, .prepared]
  | _ => false

/-- Only the last attempt of each node can be live. -/
def RunState.Superseded (state : RunState) : Prop :=
  ∀ {id node}, state.node? id = some node →
    ∀ attempt ∈ node.attempts.dropLast, attempt.status.terminal = true

theorem currentOwnedAttempt_some {state : RunState} {nodeId : String} {attempt : AttemptState}
    (owned : currentOwnedAttempt state = some (nodeId, attempt)) :
    ∃ node ∈ state.nodes, node.id = nodeId ∧ node.current = some attempt ∧
      (attempt.status = .prepared ∨ attempt.status = .running) := by
  obtain ⟨node, member, found⟩ := List.exists_of_findSome?_eq_some owned
  obtain ⟨last, kept, same⟩ := Option.map_eq_some_iff.mp found
  obtain ⟨rfl, rfl⟩ := Prod.mk.inj same
  obtain ⟨current, status⟩ := Option.filter_eq_some_iff.mp kept
  exact ⟨node, member, rfl, current, by simpa using status⟩

theorem attemptsOrdered_iff {events : List RunEvent} {state : RunState}
    (replayed : replayRun events = .ok state) : state.AttemptsOrdered ↔ state.Superseded := by
  constructor
  · intro ordered id node found
    exact (ordered.nodes node (Keyed.find_mem found)).superseded
  · intro superseded
    refine ⟨fun node member => ?_, ?_⟩
    · have earlier := superseded (replayRun_node? replayed member)
      refine ⟨(replayRun_coherent replayed member).numbers, earlier, ?_⟩
      intro index attempt present live
      cases current : node.current with
      | none =>
        rw [List.getLast?_eq_none_iff.mp current] at present
        cases present
      | some last =>
        have attempts := attempts_of_current current
        have length : node.attempts.length = node.attempts.dropLast.length + 1 := by
          rw [attempts]
          simp
        by_cases early : index < node.attempts.dropLast.length
        · rw [attempts, List.getElem?_append_left early] at present
          have terminal := earlier attempt (List.mem_of_getElem? present)
          rw [live] at terminal
          cases terminal
        · have bound := (List.getElem?_eq_some_iff.mp present).1
          have final : index = node.attempts.dropLast.length := by omega
          rw [attempts, final, List.getElem?_concat_length, Option.some.injEq] at present
          exact ⟨by omega, congrArg some present⟩
    · intro nodeId attempt owned
      obtain ⟨node, member, same, current, status⟩ := currentOwnedAttempt_some owned
      exact ⟨node, member, same, current, by rcases status with status | status <;> rw [status] <;> rfl⟩

/-- A superseded attempt stays superseded, as it is. -/
theorem RunEventPayload.AttemptsChange.superseded {payload : RunEventPayload} {state : RunState}
    {node next : NodeRunState} (change : payload.AttemptsChange state node next) {attempt : AttemptState}
    (member : attempt ∈ node.attempts.dropLast) : attempt ∈ next.attempts.dropLast := by
  cases change with
  | same attempts => rwa [attempts]
  | scheduled runtimeId event attempts =>
    rw [attempts, List.dropLast_concat]
    exact List.dropLast_subset _ member
  | rewritten last after current _ attempts => rwa [attempts, List.dropLast_concat]

/-- All attempts of a ready node are over, unless the last one waits for its start. -/
theorem NodeRunState.Coherent.ready_terminal {node : NodeRunState} (coherent : node.Coherent)
    (ready : node.status = .ready) :
    (∀ attempt ∈ node.attempts, attempt.status.terminal = true) ↔
      (∀ attempt ∈ node.attempts.dropLast, attempt.status.terminal = true) ∧
        node.currentStatusIn [.scheduled, .prepared] = false := by
  cases current : node.current with
  | none =>
    rw [List.getLast?_eq_none_iff.mp current]
    simp [NodeRunState.currentStatusIn, current]
  | some last =>
    have idle := coherent.idle (by simp [ready]) (by simp [ready]) last current
    have waiting : last.status.terminal = true ↔
        [AttemptStatus.scheduled, .prepared].contains last.status = false := by
      revert idle
      cases last.status <;> simp [AttemptStatus.terminal]
    rw [attempts_of_current current, List.dropLast_concat, List.forall_mem_append,
      List.forall_mem_singleton, waiting]
    simp only [NodeRunState.currentStatusIn, current, Option.any_some]

/-- One event keeps all superseded attempts terminal unless it hides a live one. -/
theorem superseded_step {state : RunState} {payload : RunEventPayload}
    (coherent : ∀ {id node}, state.node? id = some node → node.Coherent)
    (accepted : payload.Accepts state) :
    (payload.effect state).Superseded ↔ state.Superseded ∧ payload.hides state = false := by
  constructor
  · intro superseded
    have kept : state.Superseded := by
      intro id before found attempt member
      obtain ⟨node, present, ⟨rfl, _⟩ | moves⟩ := effect_of_node accepted found
      · exact superseded present attempt member
      · exact superseded present attempt (moves.attempts.superseded member)
    refine ⟨kept, ?_⟩
    cases payload
    case attemptScheduled nodeId number runtimeId =>
      obtain ⟨node, found, ready, rfl, _⟩ := accepted
      have ended : ∀ attempt ∈ node.attempts, attempt.status.terminal = true := by
        intro attempt member
        refine superseded (effect_changed rfl found) attempt ?_
        simpa using member
      simp only [hides, found, Option.any_some]
      exact (((coherent found).ready_terminal ready).mp ended).2
    all_goals rfl
  · rintro ⟨superseded, visible⟩ id node found attempt member
    obtain ⟨before, present, ⟨rfl, _⟩ | moves⟩ := effect_node accepted found
    · exact superseded present attempt member
    · cases moves.attempts with
      | same attempts =>
        rw [attempts] at member
        exact superseded present attempt member
      | rewritten last after current _ attempts =>
        rw [attempts, List.dropLast_concat] at member
        exact superseded present attempt member
      | scheduled runtimeId event attempts =>
        rw [attempts, List.dropLast_concat] at member
        subst event
        obtain ⟨same, ⟨ready, _⟩, _⟩ := moves
        simp only [hides, same, Option.any_some] at visible
        exact ((coherent same).ready_terminal ready).mpr ⟨superseded same, visible⟩ attempt member

/-- A history keeps its attempts in order exactly when it never schedules an attempt over
one that is still scheduled or prepared. -/
theorem replayRun_attempts_ordered {events : List RunEvent} {state : RunState}
    (replayed : replayRun events = .ok state) :
    state.AttemptsOrdered ↔
      Applied (fun before event => event.payload.hides before = false) events := by
  rw [attemptsOrdered_iff replayed]
  refine replayRun_induction (P := fun events state => state.Superseded ↔
    Applied (fun before event => event.payload.hides before = false) events) ?_ ?_ replayed
  · intro event state applied
    refine iff_of_true ?_ (applied_single _ event)
    intro id node found attempt member
    rw [(createdState_nodes applied).2 node (Keyed.find_mem found)] at member
    cases member
  · intro history state event next earlier ordered applied
    obtain ⟨_, _, _, _, accepted, rfl⟩ := applyRunEvent_step.mp applied
    rw [applied_concat earlier, ← ordered]
    refine Iff.trans ?_ (superseded_step (fun found => ?_) accepted)
    · exact Iff.rfl
    · exact replayRun_coherent earlier (Keyed.find_mem found)

/-- A second attempt scheduled while the first one still waits. -/
def rescheduledRun : List RunEvent :=
  numbered "run" [.runCreated "instance" "workflow" "1.0.0" ["build"] [],
    .nodeReady "build" .dependenciesSatisfied, .attemptScheduled "build" 1 "runtime",
    .attemptScheduled "build" 2 "runtime"]

def rescheduledState : RunState :=
  { runId := "run", workflowInstanceId := "instance", workflowId := "workflow",
    workflowVersion := "1.0.0", status := .running, sequence := 4, inputs := [],
    nodes := [{ id := "build", status := .ready,
                attempts := [{ number := 1, runtimeId := "runtime", status := .scheduled },
                  { number := 2, runtimeId := "runtime", status := .scheduled }] }] }

theorem rescheduledRun_not_ordered :
    replayRun rescheduledRun = .ok rescheduledState ∧ ¬ rescheduledState.AttemptsOrdered := by
  refine ⟨by decide +kernel, fun ordered => ?_⟩
  have ended := (ordered.nodes _ List.mem_cons_self).superseded _ List.mem_cons_self
  cases ended

/-- A run whose first attempt fails and whose second one runs. -/
def retriedRun : List RunEvent :=
  numbered "run" [.runCreated "instance" "workflow" "1.0.0" ["build"] [],
    .nodeReady "build" .dependenciesSatisfied, .attemptScheduled "build" 1 "runtime",
    .attemptStarted "build" 1, .attemptFailed "build" 1 ⟨.tool, "exit code 1"⟩,
    .nodeReady "build" .retry, .attemptScheduled "build" 2 "runtime", .attemptStarted "build" 2]

def retriedState : RunState :=
  { runId := "run", workflowInstanceId := "instance", workflowId := "workflow",
    workflowVersion := "1.0.0", status := .running, sequence := 8, inputs := [],
    nodes := [{ id := "build", status := .running, failure := some ⟨.tool, "exit code 1"⟩,
                attempts := [{ number := 1, runtimeId := "runtime", status := .failed,
                               failure := some ⟨.tool, "exit code 1"⟩ },
                  { number := 2, runtimeId := "runtime", status := .running }] }] }

theorem retriedRun_checked : replayRun retriedRun = .ok retriedState ∧
    Applied (fun before event => event.payload.hides before = false) retriedRun := by
  decide +kernel

theorem retriedRun_attempts_ordered : retriedState.AttemptsOrdered :=
  (replayRun_attempts_ordered retriedRun_checked.1).mpr retriedRun_checked.2

end Anastom
