import Anastom.Engine.Advancement
import Anastom.Engine.DurableStore

/-! Control requests that the coordinator takes up at a boundary, between two attempts: the
batch it commits, when the reducer lets the batch through, and what the batch leaves. -/
namespace Anastom.BoundaryControl
open RunEventPayload EventValidation

def controlObservedPayload (control : ControlRequest) : RunEventPayload :=
  .controlRequestObserved control.operationId control.action control.recordedAtMs

/-- The nodes that have not ended. -/
def openIds (state : RunState) : List String :=
  (state.nodes.filter fun node =>
    !([NodeStatus.succeeded, .failed, .cancelled].contains node.status)).map (·.id)

def cancelNodePayloads (state : RunState) (reason : String) : List RunEventPayload :=
  (openIds state).map (RunEventPayload.nodeCancelled · reason)

/-- What follows the observation in the batch of `applyBoundaryControl`. -/
def answerPayloads (state : RunState) (control : ControlRequest) : List RunEventPayload :=
  match control.action with
  | .pause =>
    if state.status = .paused then [] else [.runPaused (some (.operator control.operationId))]
  | .cancel =>
    cancelNodePayloads state "operator" ++ [.runCancelled (some control.operationId) "operator"]

def boundaryPayloads (state : RunState) (control : ControlRequest) (observe : Bool) :
    List RunEventPayload :=
  (if observe then [controlObservedPayload control] else []) ++ answerPayloads state control

/-- The batch of `resumePaused`, once its checks have passed. -/
def resumePayloads (state : RunState) (operationId : String) : List RunEventPayload :=
  ((state.nodes.filter fun node => node.status == .paused).map (·.id)).map
    (RunEventPayload.nodeReady · .resumed) ++ [.runResumed (some operationId)]

/-- `commit` as far as the reducer decides it: an empty batch is answered with the state as it
is, before the queue of the session and the store. -/
def commitBatch (state : RunState) (payloads : List RunEventPayload) :
    Except Failure (List RunEvent × RunState) :=
  if payloads.isEmpty then pure ([], state)
  else materializeEvents (some state) state.runId payloads

def applyBoundaryControl (state : RunState) (control : ControlRequest) (observe : Bool) :
    Except Failure (List RunEvent × RunState) :=
  commitBatch state (boundaryPayloads state control observe)

/-- `observed.set`: a later request of an operation takes the place of the earlier one. -/
def setObserved (observed : List ControlRequest) (control : ControlRequest) :
    List ControlRequest :=
  if observed.any fun other => other.operationId == control.operationId then
    observed.map fun other =>
      if other.operationId = control.operationId then control else other
  else observed ++ [control]

/-- The request that an event of a run observes. -/
def observation (runId : String) : RunEventPayload → Option ControlRequest
  | .controlRequestObserved operationId action recordedAtMs =>
    some { runId, operationId, action, recordedAtMs }
  | _ => none

/-- The operation that an event completes. -/
def completion : RunEventPayload → Option String
  | .runPaused (some (.operator operationId)) => some operationId
  | .runCancelled operationId _ => operationId
  | _ => none

def observations (events : List RunEvent) : List ControlRequest :=
  events.filterMap fun event => observation event.runId event.payload

def completions (events : List RunEvent) : List String :=
  events.filterMap fun event => completion event.payload

def observedControls (events : List RunEvent) : List ControlRequest :=
  (observations events).foldl setObserved []

def outstandingObservedControl (events : List RunEvent) : Option ControlRequest :=
  (observedControls events).find? fun control =>
    !(completions events).contains control.operationId

/-- The committed history of a run, the state it leads to, and the requests of its inbox that
no event has observed, in the order of the store. -/
structure Served where
  events : List RunEvent
  state : RunState
  inbox : List ControlRequest

/-- An operator submits a request; a pass of a coordinator comes to a boundary; a pass with
nothing to serve resumes the run, or commits other events. A batch that is not `stored` is lost
with its pass, or is withheld by a check of `resumePaused`. -/
inductive Turn where
  | submit (operationId : String) (action : ControlAction) (recordedAtMs : Nat)
  | serve (stored : Bool)
  | resume (operationId : String) (stored : Bool)
  | work (payloads : List RunEventPayload)

/-- An event that neither observes nor completes a request. -/
def plain (payload : RunEventPayload) : Bool :=
  (observation "" payload).isNone && (completion payload).isNone

namespace Served

/-- The inbox keeps one request for each operation, served or not. -/
def known (served : Served) (operationId : String) : Bool :=
  (served.inbox ++ observations served.events).any fun control =>
    control.operationId == operationId

def put (served : Served) (stored : Bool) (inbox : List ControlRequest)
    (committed : Except Failure (List RunEvent × RunState)) : Served :=
  match committed with
  | .ok transition =>
    if stored then ⟨served.events ++ transition.1, transition.2, inbox⟩ else served
  | .error _ => served

/-- The request among the pending ones, where `before` is the order of the store. -/
def insertPending (before : ControlRequest → ControlRequest → Bool) (control : ControlRequest)
    (inbox : List ControlRequest) : List ControlRequest :=
  inbox.takeWhile (before · control) ++ control :: inbox.dropWhile (before · control)

/-- The part of `resume` that comes to a boundary, and of the loop of `coordinateRunning`. -/
def serve (served : Served) (stored : Bool) : Served :=
  if served.state.status.terminal || served.state.status == .blocked then served
  else
    match outstandingObservedControl served.events with
    | some control =>
      served.put stored served.inbox (applyBoundaryControl served.state control false)
    | none =>
      match served.inbox with
      | [] => served
      | control :: rest =>
        served.put stored rest (applyBoundaryControl served.state control true)

/-- The end of a recovery that finds the run paused and no request. -/
def resume (served : Served) (operationId : String) (stored : Bool) : Served :=
  if (outstandingObservedControl served.events).isNone && served.inbox.isEmpty &&
      served.state.status == .paused then
    served.put stored served.inbox
      (commitBatch served.state (resumePayloads served.state operationId))
  else served

variable (before : ControlRequest → ControlRequest → Bool)

def submit (served : Served) (control : ControlRequest) : Served :=
  if EventValidation.payload (controlObservedPayload control) &&
      !served.known control.operationId then
    { served with inbox := insertPending before control served.inbox }
  else served

def step (served : Served) : Turn → Served
  | .submit operationId action recordedAtMs =>
    served.submit before { runId := served.state.runId, operationId, action, recordedAtMs }
  | .serve stored => served.serve stored
  | .resume operationId stored => served.resume operationId stored
  | .work payloads =>
    if (outstandingObservedControl served.events).isNone && payloads.all plain then
      served.put true served.inbox (commitBatch served.state payloads)
    else served

def run (served : Served) (turns : List Turn) : Served := turns.foldl (step before) served

end Served

variable {state next : RunState} {payloads : List RunEventPayload} {events batch : List RunEvent}
  {control : ControlRequest}

theorem commitBatch_ok : commitBatch state payloads = .ok (batch, next) ↔
    materializeEvents (some state) state.runId payloads = .ok (batch, next) := by
  cases payloads with
  | nil => exact Iff.rfl
  | cons payload rest => exact Iff.rfl

theorem commitBatch_admits : (∃ batch, commitBatch state payloads = .ok (batch, next)) ↔
    state.AdmitsAll payloads ∧ state.HasRoom payloads ∧ state.afterAll payloads = next := by
  rw [← materializeEvents_admits]
  exact exists_congr fun _ => commitBatch_ok

/-- The run can be stopped as the action asks: a pause finds no node running, and a cancel no
node whose attempt has neither been cancelled nor orphaned. -/
def Stoppable (state : RunState) : ControlAction → Prop
  | .pause => state.status = .paused ∨
      (state.status ∈ [RunStatus.running, .recoveryBlocked] ∧
        ∀ node ∈ state.nodes, node.status ≠ .running)
  | .cancel => state.status.terminal = false ∧ ∀ node ∈ state.nodes, node.status = .running →
      node.currentStatusIn [.cancelled, .orphaned] = true

def Ended (node : NodeRunState) : Prop :=
  node.status ∈ [NodeStatus.succeeded, .failed, .cancelled]

theorem observed_admits (valid : EventValidation.payload (controlObservedPayload control) = true) :
    state.Admits (controlObservedPayload control) ↔ state.status.terminal = false :=
  ⟨RunState.Admits.live, fun live => ⟨valid, live, trivial⟩⟩

theorem observed_after : state.after (controlObservedPayload control) =
    { state with sequence := state.sequence + 1 } := rfl

theorem valid_operation
    (valid : EventValidation.payload (controlObservedPayload control) = true) :
    Text.identifier control.operationId = true :=
  (Bool.and_eq_true _ _ ▸ valid).1

section family
variable {change : NodeRunState → NodeRunState} {guard : NodeRunState → Prop}
  {family : String → RunEventPayload} {ids : List String}
  (like : NodeFamily change guard family)
include like

theorem family_each (distinct : ids.Nodup) (admits : state.AdmitsAll (ids.map family)) :
    ∀ id ∈ ids, ∃ node, state.node? id = some node ∧ guard node := by
  induction ids generalizing state with
  | nil =>
    intro id member
    cases member
  | cons head rest ih =>
    obtain ⟨fresh, others⟩ := List.nodup_cons.mp distinct
    obtain ⟨first, later⟩ := admits
    intro id member
    rcases List.mem_cons.mp member with rfl | member
    · exact like.accepts.mp first.accepts
    · have found := ih others later id member
      have different : head ≠ id := fun same => fresh (same ▸ member)
      rwa [like.after_node?, if_neg different] at found

theorem family_status : (state.afterAll (ids.map family)).status = state.status := by
  obtain ⟨nodes, same⟩ := @NodeFamily.afterAll_eq state _ _ _ ids like
  have status := congrArg RunState.status same
  exact status

theorem family_distinct (keeps : ∀ node, (change node).id = node.id)
    (distinct : Keyed.Distinct state.nodes) :
    Keyed.Distinct (state.afterAll (ids.map family)).nodes := by
  induction ids generalizing state with
  | nil => exact distinct
  | cons id ids ih =>
    refine ih ?_
    rw [RunState.after, like.effect_eq]
    exact distinct.modify fun node named => (keeps node).trans named

/-- The nodes that are named are changed, and no others. -/
theorem family_nodes {p : NodeRunState → Bool} (keeps : ∀ node, (change node).id = node.id)
    (distinct : Keyed.Distinct state.nodes) :
    ∀ node ∈ (state.afterAll (((state.nodes.filter p).map (·.id)).map family)).nodes,
      ∃ old ∈ state.nodes, node = if p old = true then change old else old := by
  intro node member
  have found := Keyed.find_of_mem (family_distinct like keeps distinct) member
  have changed := @NodeFamily.afterAll_node? state _ _ _ ((state.nodes.filter p).map (·.id))
    like (nodup_ids distinct) node.id
  replace found := changed.symm.trans found
  split at found
  · rename_i inside
    obtain ⟨old, present, same⟩ := Option.map_eq_some_iff.mp found
    obtain ⟨other, there, holds⟩ := (mem_ids distinct).mp inside
    obtain rfl := Option.some.inj (there.symm.trans present)
    exact ⟨other, Keyed.find_mem there, by rw [if_pos holds, same]⟩
  · rename_i absent
    refine ⟨node, Keyed.find_mem found, (if_neg fun holds => ?_).symm⟩
    exact absent ((mem_ids distinct).mpr ⟨node, found, holds⟩)

end family

theorem open_iff {node : NodeRunState} :
    (!([NodeStatus.succeeded, .failed, .cancelled].contains node.status)) = true ↔ ¬Ended node := by
  rw [Bool.not_eq_true', ← Bool.not_eq_true, List.contains_iff_mem]
  rfl

theorem open_status {node : NodeRunState} (unended : ¬Ended node) :
    node.status ∈ [NodeStatus.pending, .ready, .running, .blocked, .paused] := by
  rw [Ended] at unended
  cases status : node.status <;> simp_all

/-- The run with its open nodes cancelled, before the run is. -/
theorem cancelled_nodes (distinct : Keyed.Distinct state.nodes) :
    ∀ node ∈ (state.afterAll (cancelNodePayloads state "operator")).nodes, Ended node := by
  intro node member
  obtain ⟨old, _, rfl⟩ :=
    family_nodes (nodeCancelled_family "operator") (fun _ => rfl) distinct node member
  split
  · simp [Ended]
  · rename_i closed
    by_contra unended
    exact closed (open_iff.mpr unended)

theorem cancelled_status :
    (state.afterAll (cancelNodePayloads state "operator")).status = state.status :=
  family_status (nodeCancelled_family "operator")

theorem cancelNodes_admits (distinct : Keyed.Distinct state.nodes) :
    state.status.terminal = false ∧ state.AdmitsAll (cancelNodePayloads state "operator") ↔
      Stoppable state .cancel := by
  have like := nodeCancelled_family "operator"
  constructor
  · rintro ⟨live, admits⟩
    refine ⟨live, fun node member running => ?_⟩
    have found := Keyed.find_of_mem distinct member
    have unended : ¬Ended node := by
      rw [Ended, running]
      decide
    obtain ⟨same, present, _, stopped⟩ := family_each like (nodup_ids distinct) admits node.id
      ((mem_ids distinct).mpr ⟨node, found, open_iff.mpr unended⟩)
    rw [show state.node? node.id = _ from found] at present
    obtain rfl := Option.some.inj present
    exact stopped running
  · rintro ⟨live, stopped⟩
    refine ⟨live, like.admitsAll (nodup_ids distinct) live fun id member => ?_⟩
    obtain ⟨node, found, unended⟩ := (mem_ids distinct).mp member
    exact ⟨node, found, open_status (open_iff.mp unended), stopped node (Keyed.find_mem found)⟩

theorem live_cancellable (live : state.status.terminal = false) :
    state.status ∈ [RunStatus.running, .blocked, .paused, .recoveryBlocked] := by
  cases status : state.status <;> simp_all [RunStatus.terminal]

/-- A run is cancelled after its open nodes just when they can be. -/
theorem cancel_admits {operationId : String} (distinct : Keyed.Distinct state.nodes)
    (named : Text.identifier operationId = true) :
    state.status.terminal = false ∧ state.AdmitsAll (cancelNodePayloads state "operator" ++
        [.runCancelled (some operationId) "operator"]) ↔ Stoppable state .cancel := by
  rw [admitsAll_append, ← and_assoc, cancelNodes_admits distinct]
  constructor
  · exact And.left
  · intro stoppable
    refine ⟨stoppable, ⟨named, ?_, ?_, fun _ => cancelled_nodes distinct⟩, trivial⟩
    · rw [cancelled_status]
      exact stoppable.1
    · rw [cancelled_status]
      exact live_cancellable stoppable.1

/-- A run is paused unless it is paused already. -/
theorem pause_admits {operationId : String} (named : Text.identifier operationId = true) :
    state.status.terminal = false ∧ state.AdmitsAll (if state.status = .paused then [] else
        [.runPaused (some (.operator operationId))]) ↔ Stoppable state .pause := by
  by_cases paused : state.status = .paused
  · rw [if_pos paused]
    exact ⟨fun _ => .inl paused, fun _ => ⟨by rw [paused]; rfl, trivial⟩⟩
  · rw [if_neg paused]
    constructor
    · rintro ⟨_, admits, _⟩
      obtain ⟨status, idle⟩ := admits.accepts
      refine .inr ⟨?_, idle rfl⟩
      rcases status with running | ⟨_, blocked⟩
      · exact List.mem_cons.mpr (.inl running)
      · exact List.mem_cons_of_mem _ (List.mem_singleton.mpr blocked)
    · rintro (already | ⟨status, idle⟩)
      · exact absurd already paused
      · have live : state.status.terminal = false := by
          rcases List.mem_cons.mp status with running | blocked
          · rw [running]
            rfl
          · rw [List.mem_singleton.mp blocked]
            rfl
        refine ⟨live, ⟨named, live, ?_, fun _ => idle⟩, trivial⟩
        rcases List.mem_cons.mp status with running | blocked
        · exact .inl running
        · exact .inr ⟨rfl, List.mem_singleton.mp blocked⟩

/-- A request that is observed with its answer is let through just when the run can be stopped. -/
theorem boundary_admits (distinct : Keyed.Distinct state.nodes)
    (valid : EventValidation.payload (controlObservedPayload control) = true) :
    state.AdmitsAll (boundaryPayloads state control true) ↔ Stoppable state control.action := by
  have named := valid_operation valid
  have start : state.AdmitsAll (boundaryPayloads state control true) ↔
      state.status.terminal = false ∧ (state.after (controlObservedPayload control)).AdmitsAll
        (answerPayloads state control) := by
    rw [← observed_admits valid]
    rfl
  rw [start, observed_after]
  cases action : control.action with
  | pause =>
    simp only [answerPayloads, action]
    exact @pause_admits { state with sequence := state.sequence + 1 } _ named
  | cancel =>
    simp only [answerPayloads, action]
    exact @cancel_admits { state with sequence := state.sequence + 1 } _ distinct named

theorem pause_after (action : control.action = .pause) :
    (state.afterAll (boundaryPayloads state control true)).status = .paused := by
  simp only [boundaryPayloads, answerPayloads, action]
  by_cases paused : state.status = .paused
  · rw [if_pos paused]
    exact paused
  · rw [if_neg paused]
    rfl

theorem cancel_after (distinct : Keyed.Distinct state.nodes) (action : control.action = .cancel) :
    (state.afterAll (boundaryPayloads state control true)).status = .cancelled ∧
      ∀ node ∈ (state.afterAll (boundaryPayloads state control true)).nodes, Ended node := by
  have ended := @cancelled_nodes { state with sequence := state.sequence + 1 } distinct
  have split : state.afterAll (boundaryPayloads state control true) =
      (RunState.afterAll { state with sequence := state.sequence + 1 }
        (cancelNodePayloads state "operator")).after
        (.runCancelled (some control.operationId) "operator") := by
    simp only [boundaryPayloads, answerPayloads, action]
    rw [← List.append_assoc, afterAll_append]
    rfl
  rw [split]
  exact ⟨rfl, ended⟩

theorem nodeResumed_family :
    NodeFamily (fun node => { node with status := .ready, pauseReason := none })
      (fun node => node.status = .paused) (RunEventPayload.nodeReady · .resumed) where
  effect _ := rfl
  guard _ _ _ := by simp [nodeGuard, ReadyReason.allowed]
  valid _ := rfl

/-- A paused run can always be resumed. -/
theorem resume_admits {operationId : String} (distinct : Keyed.Distinct state.nodes)
    (paused : state.status = .paused) (named : Text.identifier operationId = true) :
    state.AdmitsAll (resumePayloads state operationId) := by
  have live : state.status.terminal = false := by
    rw [paused]
    rfl
  refine admitsAll_append.mpr ⟨nodeResumed_family.admitsAll (nodup_ids distinct) live ?_,
    ⟨named, ?_, .inl ?_, fun blocked => ?_⟩, trivial⟩
  · intro id member
    obtain ⟨node, found, status⟩ := (mem_ids distinct).mp member
    exact ⟨node, found, beq_iff_eq.mp status⟩
  · rw [family_status nodeResumed_family]
    exact live
  · rw [family_status nodeResumed_family]
    exact paused
  · rw [family_status nodeResumed_family, paused] at blocked
    cases blocked

theorem resume_after {operationId : String} (distinct : Keyed.Distinct state.nodes) :
    (state.afterAll (resumePayloads state operationId)).status = .running ∧
      (state.afterAll (resumePayloads state operationId)).pauseReason = none ∧
      ∀ node ∈ (state.afterAll (resumePayloads state operationId)).nodes,
        ∃ old ∈ state.nodes, node = if old.status = .paused then
          { old with status := .ready, pauseReason := none } else old := by
  rw [resumePayloads, afterAll_append]
  refine ⟨rfl, rfl, fun node member => ?_⟩
  obtain ⟨old, inside, same⟩ :=
    family_nodes nodeResumed_family (fun _ => rfl) distinct node member
  refine ⟨old, inside, ?_⟩
  simpa only [beq_iff_eq] using same

theorem observations_append :
    observations (events ++ batch) = observations events ++ observations batch :=
  List.filterMap_append

theorem completions_append :
    completions (events ++ batch) = completions events ++ completions batch :=
  List.filterMap_append

/-- The observations of a batch are those of its payloads. -/
theorem batch_observations {runId : String} (named : ∀ event ∈ batch, event.runId = runId) :
    observations batch = (batch.map RunEvent.payload).filterMap (observation runId) := by
  rw [observations, List.filterMap_map]
  refine List.filterMap_congr fun event member => ?_
  rw [named event member]
  rfl

theorem batch_completions :
    completions batch = (batch.map RunEvent.payload).filterMap completion := by
  rw [completions, List.filterMap_map]
  rfl

theorem plain_silent {runId : String} {payload : RunEventPayload} (silent : plain payload = true) :
    observation runId payload = none ∧ completion payload = none := by
  rw [plain, Bool.and_eq_true, Option.isNone_iff_eq_none, Option.isNone_iff_eq_none] at silent
  refine ⟨?_, silent.2⟩
  cases payload <;> first | rfl | exact absurd silent.1 (by simp [observation])

theorem observed_mem {observed controls : List ControlRequest} :
    ∀ control ∈ controls.foldl setObserved observed, control ∈ observed ∨ control ∈ controls := by
  induction controls generalizing observed with
  | nil => exact fun _ member => .inl member
  | cons head rest ih =>
    intro control member
    rcases ih control member with early | late
    · rw [setObserved] at early
      split at early
      · obtain ⟨other, inside, same⟩ := List.mem_map.mp early
        split at same
        · exact .inr (same ▸ List.mem_cons_self)
        · exact .inl (same ▸ inside)
      · rcases List.mem_append.mp early with old | new
        · exact .inl old
        · exact .inr (List.mem_singleton.mp new ▸ List.mem_cons_self)
    · exact .inr (List.mem_cons_of_mem _ late)

theorem outstanding_silent (observes : observations batch = [])
    (completes : completions batch = []) :
    outstandingObservedControl (events ++ batch) = outstandingObservedControl events := by
  rw [outstandingObservedControl, observedControls, observations_append, completions_append,
    observes, completes, List.append_nil, List.append_nil]
  rfl

/-- With nothing outstanding, a request that is observed for the first time is outstanding
unless the same batch completes it. -/
theorem outstanding_observed (nothing : outstandingObservedControl events = none)
    (fresh : ∀ other ∈ observations events, other.operationId ≠ control.operationId)
    (answered : control.operationId ∉ completions events)
    (observes : observations batch = [control]) :
    outstandingObservedControl (events ++ batch) =
      if control.operationId ∈ completions batch then none else some control := by
  have appended : observedControls (events ++ batch) = observedControls events ++ [control] := by
    rw [observedControls, observations_append, List.foldl_append, observes]
    refine if_neg fun found => ?_
    obtain ⟨other, member, same⟩ := List.any_eq_true.mp found
    rcases observed_mem other member with none | inside
    · cases none
    · exact fresh other inside (beq_iff_eq.mp same)
  have before : (observedControls events).find? (fun other =>
      !(completions events ++ completions batch).contains other.operationId) = none := by
    rw [List.find?_eq_none]
    intro other member
    have done := List.find?_eq_none.mp nothing other member
    rw [Bool.not_eq_true, Bool.not_eq_false', List.contains_iff_mem] at done ⊢
    exact List.mem_append_left _ done
  rw [outstandingObservedControl, appended, completions_append, List.find?_append, before,
    Option.none_or]
  by_cases completed : control.operationId ∈ completions batch
  · rw [if_pos completed, List.find?_eq_none]
    intro other member
    rw [List.mem_singleton.mp member, Bool.not_eq_true, Bool.not_eq_false', List.contains_iff_mem]
    exact List.mem_append_right _ completed
  · have unanswered : control.operationId ∉ completions events ++ completions batch := by
      rw [List.mem_append, not_or]
      exact ⟨answered, completed⟩
    rw [if_neg completed, List.find?_cons_of_pos]
    rw [Bool.not_eq_true', ← Bool.not_eq_true, List.contains_iff_mem]
    exact unanswered

end Anastom.BoundaryControl
