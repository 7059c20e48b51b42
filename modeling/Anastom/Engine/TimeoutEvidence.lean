import Anastom.Engine.AttemptLifecycle

/-! The timeout of an attempt beside its own life: the request, the outcome of the
cancellation and a late result are recorded in this order and once each, and an attempt
that timed out can only run on, be orphaned, or fail for its budget. -/
namespace Anastom
open RunEventPayload

inductive TimeoutRecord where
  | requested
  | cancelled (outcome : CancellationOutcome)
  | late (status : ResultStatus)
  deriving DecidableEq, Repr

/-- What an event records about the timeout of an attempt. -/
def RunEventPayload.timeoutRecord (nodeId : String) (number : Nat) :
    RunEventPayload → Option TimeoutRecord
  | .attemptTimeoutRequested node attempt =>
    if node = nodeId ∧ attempt = number then some .requested else none
  | .attemptCancellationCompleted node attempt outcome =>
    if node = nodeId ∧ attempt = number then some (.cancelled outcome) else none
  | .lateResultObserved node attempt status =>
    if node = nodeId ∧ attempt = number then some (.late status) else none
  | _ => none

/-- The records of a history about one attempt, in order. -/
def timeoutRecords (nodeId : String) (number : Nat) (events : List RunEvent) :
    List TimeoutRecord :=
  events.filterMap fun event => event.payload.timeoutRecord nodeId number

theorem timeoutRecords_concat (nodeId : String) (number : Nat) (history : List RunEvent)
    (event : RunEvent) : timeoutRecords nodeId number (history ++ [event]) =
      timeoutRecords nodeId number history ++
        (event.payload.timeoutRecord nodeId number).toList := by
  unfold timeoutRecords
  rw [List.filterMap_append]
  cases record : event.payload.timeoutRecord nodeId number with
  | none => simp [record]
  | some record' => simp [record]

/-- The records that an attempt keeps. -/
def AttemptState.timeoutRecords (attempt : AttemptState) : List TimeoutRecord :=
  match attempt.timeout with
  | none => []
  | some timeout => .requested :: ((timeout.cancellation.map .cancelled).toList ++
      (timeout.lateStatus.map .late).toList)

/-- What holds of an attempt that timed out. -/
structure AttemptState.TimedOut (attempt : AttemptState) (timeout : TimeoutState) : Prop where
  status : attempt.status ∈ [AttemptStatus.running, .failed, .orphaned]
  failed : attempt.status = .failed → timeout.cancellation.isSome = true ∧
    ∃ failure, attempt.failure = some failure ∧ failure.category = .budgetExhausted
  late : timeout.lateStatus.isSome = true → timeout.cancellation.isSome = true

/-- The records of a timeout in the order in which they are written. -/
inductive TimeoutRecord.InOrder : List TimeoutRecord → Prop
  | none : InOrder []
  | requested : InOrder [.requested]
  | cancelled (outcome : CancellationOutcome) : InOrder [.requested, .cancelled outcome]
  | late (outcome : CancellationOutcome) (status : ResultStatus) :
    InOrder [.requested, .cancelled outcome, .late status]

def AttemptState.TimedOutIf (attempt : AttemptState) : Prop :=
  ∀ timeout, attempt.timeout = some timeout → attempt.TimedOut timeout

theorem AttemptState.TimedOutIf.inOrder {attempt : AttemptState} (timedOut : attempt.TimedOutIf) :
    TimeoutRecord.InOrder attempt.timeoutRecords := by
  unfold AttemptState.timeoutRecords
  cases pending : attempt.timeout with
  | none => exact .none
  | some timeout =>
    have late := (timedOut timeout pending).late
    obtain ⟨cancellation, lateStatus⟩ := timeout
    cases cancellation with
    | none =>
      cases lateStatus with
      | none => exact .requested
      | some status => cases late rfl
    | some outcome =>
      cases lateStatus with
      | none => exact .cancelled outcome
      | some status => exact .late outcome status

/-- What an event does to the attempts of its node and to their timeouts. -/
inductive RunEventPayload.TimeoutChange (payload : RunEventPayload) (node next : NodeRunState) :
    Prop
  | same (attempts : next.attempts = node.attempts)
      (silent : ∀ number, payload.timeoutRecord node.id number = none)
  | scheduled (runtimeId : String)
      (attempts : next.attempts = node.attempts ++
        [{ number := node.attempts.length + 1, runtimeId, status := .scheduled }])
      (silent : ∀ number, payload.timeoutRecord node.id number = none)
  | rewritten (attempt after : AttemptState) (current : node.current = some attempt)
      (attempts : next.attempts = node.attempts.dropLast ++ [after])
      (number : after.number = attempt.number)
      (others : ∀ number, number ≠ attempt.number → payload.timeoutRecord node.id number = none)
      (kept : attempt.TimedOutIf → after.TimedOutIf ∧ after.timeoutRecords =
        attempt.timeoutRecords ++ (payload.timeoutRecord node.id attempt.number).toList)

theorem RunEventPayload.Moves.timeouts {payload : RunEventPayload} {state : RunState}
    {node next : NodeRunState} (moves : payload.Moves state node next) :
    payload.TimeoutChange node next := by
  obtain ⟨_, guard, f, change, rfl⟩ := moves
  -- an event that says nothing about timeouts rewrites the current attempt
  have quiet {attempt : AttemptState} {changed : NodeRunState} (g : AttemptState → AttemptState)
      (current : node.current = some attempt)
      (attempts : changed.attempts = (node.updateCurrent g).attempts)
      (number : (g attempt).number = attempt.number)
      (timeout : (g attempt).timeout = attempt.timeout)
      (silent : ∀ number, payload.timeoutRecord node.id number = none)
      (kept : ∀ timeout, attempt.timeout = some timeout → attempt.TimedOut timeout →
        (g attempt).TimedOut timeout) : payload.TimeoutChange node changed := by
    refine .rewritten attempt (g attempt) current
      (attempts.trans (updateCurrent_attempts current g)) number (fun n _ => silent n) ?_
    intro timedOut
    refine ⟨fun pending same => ?_, ?_⟩
    · rw [timeout] at same
      exact kept pending same (timedOut pending same)
    · rw [silent, AttemptState.timeoutRecords, AttemptState.timeoutRecords, timeout]
      simp
  have untimed {attempt after : AttemptState} (absent : attempt.timeout = none) (timeout)
      (pending : attempt.timeout = some timeout) : attempt.TimedOut timeout →
      after.TimedOut timeout := by
    rw [absent] at pending
    cases pending
  have same_status {attempt after : AttemptState} (status : after.status = attempt.status)
      (failure : after.failure = attempt.failure) (timeout) (_ : attempt.timeout = some timeout)
      (timedOut : attempt.TimedOut timeout) : after.TimedOut timeout := by
    refine ⟨status ▸ timedOut.status, fun failed => ?_, timedOut.late⟩
    rw [failure]
    exact timedOut.failed (status ▸ failed)
  cases payload
  case attemptTimeoutRequested nodeId number =>
    obtain ⟨rfl, rfl⟩ := Prod.mk.inj (Option.some.inj change)
    obtain ⟨_, attempt, ⟨current, rfl, status⟩, absent⟩ := guard
    refine .rewritten attempt _ current (updateCurrent_attempts current _) rfl ?_ fun _ => ⟨?_, ?_⟩
    · intro number other
      simp [timeoutRecord, Ne.symm other]
    · intro timeout pending
      obtain rfl := Option.some.inj pending
      exact ⟨by simp [status], by simp [status], by simp⟩
    · simp [AttemptState.timeoutRecords, absent, timeoutRecord]
  case attemptCancellationCompleted nodeId number outcome =>
    obtain ⟨rfl, rfl⟩ := Prod.mk.inj (Option.some.inj change)
    obtain ⟨attempt, timeout, ⟨current, rfl, status⟩, pending, absent⟩ := guard
    refine .rewritten attempt _ current (updateCurrent_attempts current _) rfl ?_ ?_
    · intro number other
      simp [timeoutRecord, Ne.symm other]
    · intro timedOut
      -- no result is late before the cancellation
      have early : timeout.lateStatus = none := by
        by_contra late
        have cancelled := (timedOut timeout pending).late (Option.isSome_iff_ne_none.mpr late)
        simp [absent] at cancelled
      refine ⟨fun after same => ?_, ?_⟩
      · simp only [pending, Option.map_some, Option.some.injEq] at same
        subst same
        exact ⟨by simp [status], by simp [status], by simp⟩
      · simp [AttemptState.timeoutRecords, pending, absent, early, timeoutRecord]
  case lateResultObserved nodeId number late =>
    obtain ⟨rfl, rfl⟩ := Prod.mk.inj (Option.some.inj change)
    obtain ⟨attempt, timeout, ⟨current, rfl, status⟩, pending, cancelled, absent⟩ := guard
    refine .rewritten attempt _ current (updateCurrent_attempts current _) rfl ?_ ?_
    · intro number other
      simp [timeoutRecord, Ne.symm other]
    · intro timedOut
      refine ⟨fun after same => ?_, ?_⟩
      · simp only [pending, Option.map_some, Option.some.injEq] at same
        subst same
        exact ⟨by simp [status], by simp [status], fun _ => cancelled⟩
      · simp [AttemptState.timeoutRecords, pending, absent, timeoutRecord]
  case attemptScheduled nodeId number runtimeId =>
    obtain ⟨rfl, rfl⟩ := Prod.mk.inj (Option.some.inj change)
    obtain ⟨_, rfl, _⟩ := guard
    exact .scheduled runtimeId rfl fun _ => rfl
  case attemptPrepared nodeId number execution checkpoint =>
    obtain ⟨rfl, rfl⟩ := Prod.mk.inj (Option.some.inj change)
    obtain ⟨_, attempt, ⟨current, _, status⟩, _⟩ := guard
    refine quiet _ current rfl rfl rfl (fun _ => rfl) fun timeout _ timedOut => ?_
    have live := timedOut.status
    simp [status] at live
  case attemptStartAuthorized nodeId number execution =>
    obtain ⟨rfl, rfl⟩ := Prod.mk.inj (Option.some.inj change)
    obtain ⟨_, attempt, ⟨current, _, status⟩, _⟩ := guard
    refine quiet _ current rfl rfl rfl (fun _ => rfl) fun timeout _ timedOut => ?_
    have live := timedOut.status
    simp [status] at live
  case attemptStarted nodeId number =>
    obtain ⟨rfl, rfl⟩ := Prod.mk.inj (Option.some.inj change)
    obtain ⟨_, _, attempt, current, _, status⟩ := guard
    refine quiet _ current rfl rfl rfl (fun _ => rfl) fun timeout _ timedOut => ?_
    have live := timedOut.status
    simp [status] at live
  case attemptOrphaned nodeId number record =>
    obtain ⟨rfl, rfl⟩ := Prod.mk.inj (Option.some.inj change)
    obtain ⟨_, ⟨attempt, _, current, _⟩, _⟩ := guard
    refine quiet _ current rfl rfl rfl (fun _ => rfl) fun timeout _ timedOut => ?_
    exact ⟨by simp, by simp, timedOut.late⟩
  case attemptSucceeded | attemptBlocked | attemptCancelled =>
    obtain ⟨rfl, rfl⟩ := Prod.mk.inj (Option.some.inj change)
    obtain ⟨_, attempt, ⟨current, _⟩, absent⟩ := guard
    exact quiet _ current rfl rfl rfl (fun _ => rfl) (untimed absent)
  case attemptFailed nodeId number failure =>
    obtain ⟨rfl, rfl⟩ := Prod.mk.inj (Option.some.inj change)
    obtain ⟨_, attempt, ⟨current, _⟩, allowed⟩ := guard
    refine quiet _ current rfl rfl rfl (fun _ => rfl) fun timeout pending timedOut => ?_
    obtain ⟨category, cancelled⟩ := allowed timeout pending
    exact ⟨by simp, fun _ => ⟨cancelled, failure, rfl, category⟩, timedOut.late⟩
  case executionCleanupObserved nodeId number evidence =>
    obtain ⟨rfl, rfl⟩ := Prod.mk.inj (Option.some.inj change)
    obtain ⟨attempt, _, current, _⟩ := guard
    exact quiet _ current rfl rfl rfl (fun _ => rfl) (same_status rfl rfl)
  case runtimeEventObserved nodeId number event =>
    obtain ⟨_, attempt, ⟨current, _⟩, _⟩ := guard
    cases event <;> cases change
    all_goals exact quiet _ current rfl rfl rfl (fun _ => rfl) (same_status rfl rfl)
  case nodePaused nodeId reason =>
    cases reason <;> cases change
    all_goals exact .same rfl fun _ => rfl
  all_goals cases change
  all_goals exact .same rfl fun _ => rfl

/-- A history records of the attempts of a node what they keep, and of no others. -/
structure NodeRunState.TimeoutsRecorded (events : List RunEvent) (node : NodeRunState) : Prop where
  recorded : ∀ attempt ∈ node.attempts,
    timeoutRecords node.id attempt.number events = attempt.timeoutRecords
  timedOut : ∀ attempt ∈ node.attempts, attempt.TimedOutIf
  absent : ∀ number, number ∉ node.attempts.map AttemptState.number →
    timeoutRecords node.id number events = []

theorem NodeRunState.Coherent.numbers_nodup {node : NodeRunState} (coherent : node.Coherent) :
    (node.attempts.map AttemptState.number).Nodup := by
  rw [coherent.numbers]
  exact List.nodup_range' 1

namespace NodeRunState.TimeoutsRecorded
variable {history : List RunEvent} {event : RunEvent} {node next : NodeRunState}

/-- An event about other attempts. -/
theorem keep (recorded : node.TimeoutsRecorded history)
    (silent : ∀ number, event.payload.timeoutRecord node.id number = none) :
    node.TimeoutsRecorded (history ++ [event]) := by
  have same (number : Nat) : timeoutRecords node.id number (history ++ [event]) =
      timeoutRecords node.id number history := by
    rw [timeoutRecords_concat, silent, Option.toList_none, List.append_nil]
  refine ⟨fun attempt member => ?_, recorded.timedOut, fun number absent => ?_⟩
  · rw [same, recorded.recorded attempt member]
  · rw [same, recorded.absent number absent]

theorem step {state : RunState} (recorded : node.TimeoutsRecorded history)
    (coherent : node.Coherent) (moves : event.payload.Moves state node next) :
    next.TimeoutsRecorded (history ++ [event]) := by
  have id := moves.id
  cases moves.timeouts with
  | same attempts silent =>
    have kept := recorded.keep silent
    constructor
    · rw [id, attempts]
      exact kept.recorded
    · rw [attempts]
      exact kept.timedOut
    · rw [id, attempts]
      exact kept.absent
  | scheduled runtimeId attempts silent =>
    have kept := recorded.keep silent
    have new : node.attempts.length + 1 ∉ node.attempts.map AttemptState.number := by
      rw [coherent.numbers, List.mem_range'_1]
      omega
    constructor
    · rw [id, attempts, List.forall_mem_append, List.forall_mem_singleton]
      exact ⟨kept.recorded, kept.absent _ new⟩
    · rw [attempts, List.forall_mem_append, List.forall_mem_singleton]
      exact ⟨kept.timedOut, fun timeout pending => by cases pending⟩
    · intro number absent
      rw [attempts, List.map_append, List.mem_append, not_or] at absent
      rw [id]
      exact kept.absent number absent.1
  | rewritten attempt after current attempts number others kept =>
    have split := attempts_of_current current
    have member : attempt ∈ node.attempts := List.mem_of_getLast? current
    obtain ⟨timedOut, records⟩ := kept (recorded.timedOut attempt member)
    have distinct := coherent.numbers_nodup
    rw [split, List.map_append, List.nodup_append] at distinct
    constructor
    · rw [id, attempts, List.forall_mem_append, List.forall_mem_singleton]
      constructor
      · intro other earlier
        have apart : other.number ≠ attempt.number :=
          distinct.2.2 _ (List.mem_map_of_mem earlier) _ List.mem_cons_self
        rw [timeoutRecords_concat, others _ apart, Option.toList_none, List.append_nil]
        exact recorded.recorded other (List.dropLast_subset _ earlier)
      · rw [number, timeoutRecords_concat, recorded.recorded attempt member, records]
    · rw [attempts, List.forall_mem_append, List.forall_mem_singleton]
      refine ⟨fun other earlier => ?_, timedOut⟩
      exact recorded.timedOut other (List.dropLast_subset _ earlier)
    · intro other absent
      rw [attempts, List.map_append, List.map_singleton, number, ← List.map_singleton,
        ← List.map_append, ← split] at absent
      have apart : other ≠ attempt.number := by
        rintro rfl
        exact absent (List.mem_map_of_mem member)
      rw [id, timeoutRecords_concat, others _ apart, Option.toList_none, List.append_nil]
      exact recorded.absent other absent

end NodeRunState.TimeoutsRecorded

theorem timeoutRecord_nodeId {payload : RunEventPayload} {nodeId : String} {number : Nat}
    {record : TimeoutRecord} (records : payload.timeoutRecord nodeId number = some record) :
    ∃ f, payload.nodeChange = some (nodeId, f) := by
  cases payload
  case attemptTimeoutRequested | attemptCancellationCompleted | lateResultObserved =>
    simp only [timeoutRecord] at records
    split at records
    · rename_i same
      rw [← same.1]
      exact ⟨_, rfl⟩
    · cases records
  all_goals cases records

/-- Timeouts are recorded of the attempts of the run, as they keep them. -/
structure TimeoutsRecorded (events : List RunEvent) (state : RunState) : Prop where
  nodes : ∀ {id node}, state.node? id = some node → node.TimeoutsRecorded events
  unknown : ∀ {id}, state.node? id = none → ∀ number, timeoutRecords id number events = []

theorem replayRun_timeoutsRecorded {events : List RunEvent} {state : RunState}
    (replayed : replayRun events = .ok state) : TimeoutsRecorded events state := by
  refine replayRun_induction (P := TimeoutsRecorded) ?_ ?_ replayed
  · intro event state applied
    have created := (applyRunEvent_none_ok.mp applied).2
    have silent (nodeId : String) (number : Nat) : timeoutRecords nodeId number [event] = [] := by
      cases payload : event.payload <;> rw [payload] at created <;>
        first | cases created | simp [timeoutRecords, payload, timeoutRecord]
    constructor
    · intro id node found
      rw [(createdState_nodes applied).2 node (Keyed.find_mem found)]
      refine ⟨fun _ member => ?_, fun _ member => ?_, fun number _ => silent _ number⟩
      · cases member
      · cases member
    · exact fun _ number => silent _ number
  · intro history state event next earlier recorded applied
    obtain ⟨_, _, _, _, accepted, rfl⟩ := applyRunEvent_step.mp applied
    constructor
    · intro id node found
      obtain ⟨before, present, ⟨rfl, other⟩ | moves⟩ := effect_node accepted found
      · refine (recorded.nodes present).keep fun number => ?_
        by_contra records
        obtain ⟨record, records⟩ := Option.ne_none_iff_exists'.mp records
        obtain ⟨f, change⟩ := timeoutRecord_nodeId records
        have key : node.id = id := Keyed.find_key present
        rw [key] at change
        exact other f change
      · exact (recorded.nodes present).step (replayRun_coherent earlier (Keyed.find_mem present))
          moves
    · intro id missing number
      have absent : state.node? id = none := by
        by_contra present
        obtain ⟨before, present⟩ := Option.ne_none_iff_exists'.mp present
        obtain ⟨node, found, _⟩ := effect_of_node accepted present
        rw [show (event.payload.effect state).node? id = none from missing] at found
        cases found
      rw [timeoutRecords_concat, recorded.unknown absent]
      cases records : event.payload.timeoutRecord id number with
      | none => rfl
      | some record =>
        obtain ⟨f, change⟩ := timeoutRecord_nodeId records
        simp only [Accepts, nodeChange_nodeId change] at accepted
        obtain ⟨node, present, _⟩ := accepted
        rw [absent] at present
        cases present

/-- The events that end an attempt with a result of its own. -/
def RunEventPayload.settles (nodeId : String) (number : Nat) : RunEventPayload → Bool
  | .attemptSucceeded node attempt _ | .attemptBlocked node attempt _
  | .attemptCancelled node attempt _ => node == nodeId && attempt == number
  | _ => false

/-- What may follow the request of a timeout: no result of the attempt, and no failure but
that of its budget after the cancellation. -/
def TimeoutLaw (earlier : List RunEvent) (event : RunEvent) : Prop :=
  ∀ nodeId number, timeoutRecords nodeId number earlier ≠ [] →
    event.payload.settles nodeId number = false ∧
    ∀ failure, event.payload = .attemptFailed nodeId number failure →
      failure.category = .budgetExhausted ∧
      ∃ outcome, .cancelled outcome ∈ timeoutRecords nodeId number earlier

theorem timeoutLaw_step {history : List RunEvent} {state : RunState} {event : RunEvent}
    (recorded : TimeoutsRecorded history state) (accepted : event.payload.Accepts state) :
    TimeoutLaw history event := by
  intro nodeId number requested
  -- the current attempt keeps what the history records of it
  have kept {node : NodeRunState} {attempt : AttemptState} {status : AttemptStatus}
      (found : state.node? nodeId = some node) (is : node.CurrentIs number status attempt) :
      timeoutRecords nodeId number history = attempt.timeoutRecords := by
    have records := (recorded.nodes found).recorded attempt (List.mem_of_getLast? is.1)
    have key : node.id = nodeId := Keyed.find_key found
    rwa [is.2.1, key] at records
  have untimed {node : NodeRunState} {attempt : AttemptState} {status : AttemptStatus}
      (found : state.node? nodeId = some node) (is : node.CurrentIs number status attempt) :
      attempt.timeout ≠ none := by
    intro absent
    rw [kept found is, AttemptState.timeoutRecords, absent] at requested
    exact requested rfl
  constructor
  · by_contra settles
    rw [Bool.not_eq_false] at settles
    unfold RunEventPayload.settles at settles
    split at settles
    all_goals
      rename_i payload
      first
      | cases settles
      | rw [Bool.and_eq_true, beq_iff_eq, beq_iff_eq] at settles
        obtain ⟨rfl, rfl⟩ := settles
        rw [payload] at accepted
        obtain ⟨node, found, _, attempt, is, absent⟩ := accepted
        exact untimed found is absent
  · intro failure payload
    rw [payload] at accepted
    obtain ⟨node, found, _, attempt, is, allowed⟩ := accepted
    obtain ⟨timeout, pending⟩ := Option.ne_none_iff_exists'.mp (untimed found is)
    obtain ⟨category, cancelled⟩ := allowed timeout pending
    obtain ⟨outcome, same⟩ := Option.isSome_iff_exists.mp cancelled
    refine ⟨category, outcome, ?_⟩
    rw [kept found is, AttemptState.timeoutRecords, pending]
    simp [same]

theorem replayRun_timeoutLaw {events : List RunEvent} {state : RunState}
    (replayed : replayRun events = .ok state) : Along TimeoutLaw events := by
  refine replayRun_induction (P := fun events _ => Along TimeoutLaw events) ?_ ?_ replayed
  · intro event state _
    rw [← List.nil_append [event], Along.concat]
    exact ⟨Along.nil, fun _ _ requested => absurd rfl requested⟩
  · intro history state event next earlier law applied
    obtain ⟨_, _, _, _, accepted, rfl⟩ := applyRunEvent_step.mp applied
    exact Along.concat.mpr ⟨law, timeoutLaw_step (replayRun_timeoutsRecorded earlier) accepted⟩

/-- An attempt that timed out has no result of its own, fails only for its budget once its
cancellation is recorded, and keeps the request, the cancellation and a late result as the
history recorded them, in this order and once each. -/
theorem replayRun_timeout_evidence {events : List RunEvent} {state : RunState}
    (replayed : replayRun events = .ok state) :
    (∀ node ∈ state.nodes, ∀ attempt ∈ node.attempts, ∀ timeout, attempt.timeout = some timeout →
      attempt.status ∉ [AttemptStatus.succeeded, .blocked, .cancelled] ∧
      (attempt.status = .failed → timeout.cancellation.isSome = true ∧
        ∃ failure, attempt.failure = some failure ∧ failure.category = .budgetExhausted) ∧
      (timeout.lateStatus.isSome = true → timeout.cancellation.isSome = true)) ∧
    (∀ node ∈ state.nodes, ∀ attempt ∈ node.attempts,
      timeoutRecords node.id attempt.number events = attempt.timeoutRecords) ∧
    (∀ nodeId number, TimeoutRecord.InOrder (timeoutRecords nodeId number events)) ∧
    Along TimeoutLaw events := by
  have recorded := replayRun_timeoutsRecorded replayed
  refine ⟨?_, ?_, ?_, replayRun_timeoutLaw replayed⟩
  · intro node member attempt present timeout pending
    have timedOut := (recorded.nodes (replayRun_node? replayed member)).timedOut attempt present
      timeout pending
    refine ⟨fun settled => ?_, timedOut.failed, timedOut.late⟩
    have status := timedOut.status
    revert settled status
    cases attempt.status <;> simp
  · intro node member attempt present
    exact (recorded.nodes (replayRun_node? replayed member)).recorded attempt present
  · intro nodeId number
    cases found : state.node? nodeId with
    | none =>
      rw [recorded.unknown found]
      exact .none
    | some node =>
      have kept := recorded.nodes found
      have key : node.id = nodeId := Keyed.find_key found
      by_cases known : number ∈ node.attempts.map AttemptState.number
      · obtain ⟨attempt, member, rfl⟩ := List.mem_map.mp known
        rw [← key, kept.recorded attempt member]
        exact (kept.timedOut attempt member).inOrder
      · rw [← key, kept.absent number known]
        exact .none

/-- A run of one node whose attempt times out, is cancelled and still reports a result. -/
def timedOutRun : List RunEvent :=
  numbered "run" [.runCreated "instance" "workflow" "1.0.0" ["build"] [],
    .nodeReady "build" .dependenciesSatisfied, .attemptScheduled "build" 1 "runtime",
    .attemptStarted "build" 1, .attemptTimeoutRequested "build" 1,
    .attemptCancellationCompleted "build" 1 .unavailable, .lateResultObserved "build" 1 .succeeded,
    .attemptFailed "build" 1 { category := .budgetExhausted, message := "late" }]

def timedOutState : RunState :=
  { runId := "run", workflowInstanceId := "instance", workflowId := "workflow",
    workflowVersion := "1.0.0", status := .running, sequence := 8, inputs := [],
    nodes := [{ id := "build", status := .running
                failure := some { category := .budgetExhausted, message := "late" }
                attempts := [{ number := 1, runtimeId := "runtime", status := .failed
                               failure := some { category := .budgetExhausted, message := "late" }
                               timeout := some { cancellation := some .unavailable
                                                 lateStatus := some .succeeded } }] }] }

theorem timedOutRun_replayed : replayRun timedOutRun = .ok timedOutState := by decide +kernel

theorem timedOutRun_timeout_evidence :
    (∀ node ∈ timedOutState.nodes, ∀ attempt ∈ node.attempts, ∀ timeout,
      attempt.timeout = some timeout →
      attempt.status ∉ [AttemptStatus.succeeded, .blocked, .cancelled] ∧
      (attempt.status = .failed → timeout.cancellation.isSome = true ∧
        ∃ failure, attempt.failure = some failure ∧ failure.category = .budgetExhausted) ∧
      (timeout.lateStatus.isSome = true → timeout.cancellation.isSome = true)) ∧
    (∀ node ∈ timedOutState.nodes, ∀ attempt ∈ node.attempts,
      timeoutRecords node.id attempt.number timedOutRun = attempt.timeoutRecords) ∧
    (∀ nodeId number, TimeoutRecord.InOrder (timeoutRecords nodeId number timedOutRun)) ∧
    Along TimeoutLaw timedOutRun :=
  replayRun_timeout_evidence timedOutRun_replayed

end Anastom
