import Anastom.Engine.BoundaryControl
import Anastom.Persistence.ExactlyOnce

/-! Requests served at boundaries over a whole run, with other commits between them: each is
answered once, until a pause is taken up for a run that is paused already. -/
namespace Anastom.BoundaryControl
open RunEventPayload EventValidation

variable {state next : RunState} {payloads : List RunEventPayload} {events batch : List RunEvent}
  {control : ControlRequest}

namespace Served
variable {served : Served} {before : ControlRequest → ControlRequest → Bool}

theorem insertPending_perm {inbox : List ControlRequest} :
    (insertPending before control inbox).Perm (control :: inbox) := by
  refine List.perm_middle.trans (List.Perm.cons _ ?_)
  rw [List.takeWhile_append_dropWhile]

/-- A paused run whose next request is to pause it. -/
def Wedged (served : Served) : Prop :=
  ∃ control, outstandingObservedControl served.events = some control ∧
    control.action = .pause ∧ served.state.status = .paused

structure Invariant (served : Served) : Prop where
  replayed : replayRun served.events = .ok served.state
  valid : ∀ control ∈ served.inbox,
    EventValidation.payload (controlObservedPayload control) = true ∧
      control.runId = served.state.runId
  fresh : ∀ control ∈ served.inbox, ∀ other ∈ observations served.events,
    other.operationId ≠ control.operationId
  apart : (served.inbox.map fun control => control.operationId).Nodup
  answered : ∀ operationId ∈ completions served.events,
    ∃ other ∈ observations served.events, other.operationId = operationId
  settled : outstandingObservedControl served.events = none ∨ served.Wedged

theorem put_cases {stored : Bool} {inbox : List ControlRequest}
    {committed : Except Failure (List RunEvent × RunState)} :
    served.put stored inbox committed = served ∨ ∃ batch next, committed = .ok (batch, next) ∧
      served.put stored inbox committed = ⟨served.events ++ batch, next, inbox⟩ := by
  cases committed with
  | error failure => exact .inl rfl
  | ok transition =>
    cases stored with
    | false => exact .inl rfl
    | true => exact .inr ⟨transition.1, transition.2, rfl, rfl⟩

/-- A turn keeps the invariant if its batch does. -/
theorem Invariant.put {stored : Bool} {inbox : List ControlRequest}
    {committed : Except Failure (List RunEvent × RunState)} (invariant : served.Invariant)
    (batches : ∀ batch next, committed = .ok (batch, next) →
      Served.Invariant ⟨served.events ++ batch, next, inbox⟩) :
    (served.put stored inbox committed).Invariant := by
  rcases @put_cases served stored inbox committed with lost | ⟨batch, next, ok, stores⟩
  · rw [lost]
    exact invariant
  · rw [stores]
    exact batches batch next ok

/-- What a committed batch appends. -/
structure Appends (state : RunState) (payloads : List RunEventPayload) (batch : List RunEvent)
    (next : RunState) : Prop where
  after : state.afterAll payloads = next
  observes : observations batch = payloads.filterMap (observation state.runId)
  completes : completions batch = payloads.filterMap completion

theorem committed_appends (committed : commitBatch state payloads = .ok (batch, next)) :
    Appends state payloads batch next := by
  obtain ⟨_, _, after⟩ := commitBatch_admits.mp ⟨batch, committed⟩
  obtain ⟨made, named, _⟩ := materializeEvents_fold (commitBatch_ok.mp committed)
  refine ⟨after, ?_, ?_⟩
  · rw [batch_observations named, made]
  · rw [batch_completions, made]

theorem committed_replayed (replayed : replayRun events = .ok state)
    (committed : commitBatch state payloads = .ok (batch, next)) :
    replayRun (events ++ batch) = .ok next :=
  (replayRun_append_ok replayed).mpr (materializeEvents_fold (commitBatch_ok.mp committed)).2.2

theorem Appends.runId (appends : Appends state payloads batch next) :
    next.runId = state.runId := by
  rw [← appends.after]
  exact afterAll_runId

theorem Invariant.submit (invariant : served.Invariant)
    (named : control.runId = served.state.runId) : (served.submit before control).Invariant := by
  rw [Served.submit]
  split
  · rename_i accepted
    rw [Bool.and_eq_true, Bool.not_eq_true', known, List.any_append, Bool.or_eq_false_iff,
      List.any_eq_false, List.any_eq_false] at accepted
    obtain ⟨valid, waiting, observed⟩ := accepted
    have inserted {other : ControlRequest}
        (member : other ∈ insertPending before control served.inbox) :
        other = control ∨ other ∈ served.inbox :=
      List.mem_cons.mp (insertPending_perm.mem_iff.mp member)
    refine { invariant with valid := ?_, fresh := ?_, apart := ?_ }
    · intro other member
      rcases inserted member with rfl | old
      · exact ⟨valid, named⟩
      · exact invariant.valid other old
    · intro other member earlier inside
      rcases inserted member with rfl | old
      · exact fun same => observed earlier inside (beq_iff_eq.mpr same)
      · exact invariant.fresh other old earlier inside
    · rw [(insertPending_perm.map _).nodup_iff, List.map_cons, List.nodup_cons]
      refine ⟨fun old => ?_, invariant.apart⟩
      obtain ⟨other, inside, same⟩ := List.mem_map.mp old
      exact waiting other inside (beq_iff_eq.mpr same)
  · exact invariant

theorem Invariant.work (invariant : served.Invariant)
    (nothing : outstandingObservedControl served.events = none)
    (silent : ∀ payload ∈ payloads, plain payload = true)
    (committed : commitBatch served.state payloads = .ok (batch, next)) :
    Served.Invariant ⟨served.events ++ batch, next, served.inbox⟩ := by
  have appends := committed_appends committed
  have observes : observations batch = [] := by
    rw [appends.observes, List.filterMap_eq_nil_iff]
    exact fun payload member => (plain_silent (silent payload member)).1
  have completes : completions batch = [] := by
    rw [appends.completes, List.filterMap_eq_nil_iff]
    exact fun payload member => (@plain_silent "" _ (silent payload member)).2
  have same : observations (served.events ++ batch) = observations served.events := by
    rw [observations_append, observes, List.append_nil]
  refine ⟨committed_replayed invariant.replayed committed, ?_, ?_, invariant.apart, ?_, .inl ?_⟩
  · intro control member
    rw [appends.runId]
    exact invariant.valid control member
  · rw [same]
    exact invariant.fresh
  · rw [same, completions_append, completes, List.append_nil]
    exact invariant.answered
  · exact (outstanding_silent observes completes).trans nothing

theorem resume_plain {operationId : String} :
    ∀ payload ∈ resumePayloads state operationId, plain payload = true := by
  intro payload member
  rcases List.mem_append.mp member with node | last
  · obtain ⟨id, _, rfl⟩ := List.mem_map.mp node
    rfl
  · rw [List.mem_singleton.mp last]
    rfl

theorem completion_answer : (answerPayloads state control).filterMap completion =
    if control.action = .pause ∧ state.status = .paused then [] else [control.operationId] := by
  have cancels : (cancelNodePayloads state "operator").filterMap completion = [] := by
    rw [List.filterMap_eq_nil_iff]
    intro payload member
    obtain ⟨id, _, rfl⟩ := List.mem_map.mp member
    rfl
  cases action : control.action with
  | pause =>
    simp only [answerPayloads, action, true_and]
    by_cases paused : state.status = .paused
    · rw [if_pos paused, if_pos paused]
      rfl
    · rw [if_neg paused, if_neg paused]
      rfl
  | cancel =>
    simp only [answerPayloads, action]
    rw [List.filterMap_append, cancels, if_neg (by simp)]
    rfl

theorem observation_answer {runId : String} :
    (answerPayloads state control).filterMap (observation runId) = [] := by
  rw [List.filterMap_eq_nil_iff]
  intro payload member
  rw [answerPayloads] at member
  split at member
  · split at member
    · cases member
    · rw [List.mem_singleton.mp member]
      rfl
  · rcases List.mem_append.mp member with cancel | last
    · obtain ⟨id, _, rfl⟩ := List.mem_map.mp cancel
      rfl
    · rw [List.mem_singleton.mp last]
      rfl

/-- What is left once a request has been served. -/
structure Answered (control : ControlRequest) (rest : List ControlRequest)
    (before after : Served) : Prop where
  inbox : after.inbox = rest
  paused : control.action = .pause → after.state.status = .paused
  cancelled : control.action = .cancel → after.state.status = .cancelled ∧
    ∀ node ∈ after.state.nodes, Ended node
  outstanding : outstandingObservedControl after.events =
    if control.action = .pause ∧ before.state.status = .paused then some control else none

section first
variable {rest : List ControlRequest} (invariant : served.Invariant)
  (nothing : outstandingObservedControl served.events = none)
  (waiting : served.inbox = control :: rest)
include invariant waiting

theorem Invariant.first_unanswered : control.operationId ∉ completions served.events := by
  intro completed
  obtain ⟨other, observed, same⟩ := invariant.answered _ completed
  exact invariant.fresh control (waiting ▸ List.mem_cons_self) other observed same

theorem Invariant.batch_observes
    (committed : applyBoundaryControl served.state control true = .ok (batch, next)) :
    observations batch = [control] ∧ completions batch =
      if control.action = .pause ∧ served.state.status = .paused then []
      else [control.operationId] := by
  have appends := committed_appends committed
  obtain ⟨_, named⟩ := invariant.valid control (waiting ▸ List.mem_cons_self)
  rw [appends.observes, appends.completes, boundaryPayloads, if_pos rfl, List.filterMap_append,
    List.filterMap_append, observation_answer, completion_answer, ← named]
  exact ⟨rfl, rfl⟩

include nothing

theorem Invariant.answer
    (committed : applyBoundaryControl served.state control true = .ok (batch, next)) :
    Answered control rest served ⟨served.events ++ batch, next, rest⟩ := by
  have member : control ∈ served.inbox := waiting ▸ List.mem_cons_self
  have appends := committed_appends committed
  obtain ⟨observes, completes⟩ := invariant.batch_observes waiting committed
  refine ⟨rfl, fun action => ?_, fun action => ?_, ?_⟩
  · rw [← appends.after]
    exact pause_after action
  · rw [← appends.after]
    exact cancel_after (replayRun_distinct invariant.replayed) action
  · rw [outstanding_observed nothing (invariant.fresh control member)
      (invariant.first_unanswered waiting) observes, completes]
    split
    · exact if_neg List.not_mem_nil
    · exact if_pos List.mem_cons_self

theorem Invariant.serves
    (committed : applyBoundaryControl served.state control true = .ok (batch, next)) :
    Served.Invariant ⟨served.events ++ batch, next, rest⟩ := by
  have answer := invariant.answer nothing waiting committed
  have appends := committed_appends committed
  obtain ⟨observes, completes⟩ := invariant.batch_observes waiting committed
  have later (other : ControlRequest) (member : other ∈ rest) : other ∈ served.inbox :=
    waiting ▸ List.mem_cons_of_mem _ member
  have apart := invariant.apart
  rw [waiting, List.map_cons, List.nodup_cons] at apart
  refine ⟨committed_replayed invariant.replayed committed, ?_, ?_, apart.2, ?_, ?_⟩
  · intro other member
    rw [appends.runId]
    exact invariant.valid other (later other member)
  · intro other member earlier inside
    rw [observations_append, observes] at inside
    rcases List.mem_append.mp inside with old | new
    · exact invariant.fresh other (later other member) earlier old
    · rw [List.mem_singleton.mp new]
      exact fun same => apart.1 (same ▸ List.mem_map_of_mem member)
  · intro operationId completed
    rw [observations_append, observes]
    rw [completions_append, completes] at completed
    rcases List.mem_append.mp completed with old | new
    · obtain ⟨other, inside, same⟩ := invariant.answered operationId old
      exact ⟨other, List.mem_append_left _ inside, same⟩
    · refine ⟨control, List.mem_append_right _ List.mem_cons_self, ?_⟩
      split at new
      · cases new
      · exact (List.mem_singleton.mp new).symm
  · have outstanding := answer.outstanding
    split at outstanding
    · rename_i again
      exact .inr ⟨control, outstanding, again.1, answer.paused again.1⟩
    · exact .inl outstanding

end first

/-- The pass commits the empty batch. -/
theorem wedge_serve (wedged : served.Wedged) (stored : Bool) : served.serve stored = served := by
  obtain ⟨control, outstanding, action, paused⟩ := wedged
  have empty : boundaryPayloads served.state control false = [] := by
    rw [boundaryPayloads, answerPayloads, action]
    exact if_pos paused
  have committed : applyBoundaryControl served.state control false = .ok ([], served.state) := by
    rw [applyBoundaryControl, empty]
    rfl
  rw [serve, paused, outstanding, if_neg (by decide)]
  show served.put stored served.inbox (applyBoundaryControl served.state control false) = served
  rw [committed]
  cases stored with
  | false => rfl
  | true =>
    show Served.mk (served.events ++ []) served.state served.inbox = served
    rw [List.append_nil]

theorem wedge_step (wedged : served.Wedged) (turn : Turn) :
    (served.step before turn).Wedged ∧ (served.step before turn).events = served.events := by
  cases turn with
  | submit operationId action recordedAtMs =>
    rw [step, submit]
    split
    · exact ⟨wedged, rfl⟩
    · exact ⟨wedged, rfl⟩
  | serve stored =>
    rw [step, wedge_serve wedged]
    exact ⟨wedged, rfl⟩
  | resume operationId stored =>
    have waits : ((outstandingObservedControl served.events).isNone && served.inbox.isEmpty &&
        served.state.status == .paused) = false := by
      obtain ⟨control, outstanding, _⟩ := wedged
      rw [outstanding]
      rfl
    rw [step, resume, waits]
    exact ⟨wedged, rfl⟩
  | work payloads =>
    have waits : ((outstandingObservedControl served.events).isNone && payloads.all plain) =
        false := by
      obtain ⟨control, outstanding, _⟩ := wedged
      rw [outstanding]
      rfl
    rw [step, waits]
    exact ⟨wedged, rfl⟩

/-- Nothing is committed any more, and no later request is taken up. -/
theorem wedge_run (wedged : served.Wedged) (turns : List Turn) :
    (served.run before turns).Wedged ∧ (served.run before turns).events = served.events := by
  induction turns generalizing served with
  | nil => exact ⟨wedged, rfl⟩
  | cons turn turns ih =>
    obtain ⟨still, same⟩ := wedge_step wedged turn
    obtain ⟨later, kept⟩ := ih still
    exact ⟨later, kept.trans same⟩

/-- A pass serves a run that is open. -/
def Open (served : Served) : Prop :=
  served.state.status.terminal = false ∧ served.state.status ≠ .blocked

theorem serve_closed (closed : ¬served.Open) (stored : Bool) : served.serve stored = served := by
  refine if_pos ?_
  rw [Bool.or_eq_true, beq_iff_eq]
  by_contra opened
  rw [not_or, Bool.not_eq_true] at opened
  exact closed opened

theorem serve_first {rest : List ControlRequest} (opened : served.Open) (stored : Bool)
    (nothing : outstandingObservedControl served.events = none)
    (waiting : served.inbox = control :: rest) : served.serve stored =
      served.put stored rest (applyBoundaryControl served.state control true) := by
  have free : (served.state.status.terminal || served.state.status == .blocked) = false := by
    rw [Bool.or_eq_false_iff, beq_eq_false_iff_ne]
    exact opened
  rw [serve, free, nothing, waiting]
  rfl

theorem Invariant.step (invariant : served.Invariant) (turn : Turn) :
    (served.step before turn).Invariant := by
  cases turn with
  | submit operationId action recordedAtMs => exact invariant.submit rfl
  | serve stored =>
    rcases invariant.settled with nothing | wedged
    · rw [Served.step]
      by_cases opened : served.Open
      · cases waiting : served.inbox with
        | nil =>
          rw [serve, nothing, waiting, ite_self]
          exact invariant
        | cons control rest =>
          rw [serve_first opened stored nothing waiting]
          exact invariant.put fun _ _ committed => invariant.serves nothing waiting committed
      · rw [serve_closed opened]
        exact invariant
    · rw [Served.step, wedge_serve wedged]
      exact invariant
  | resume operationId stored =>
    rw [Served.step, resume]
    split
    · rename_i free
      rw [Bool.and_eq_true, Bool.and_eq_true, Option.isNone_iff_eq_none] at free
      exact invariant.put fun _ _ committed => invariant.work free.1.1 resume_plain committed
    · exact invariant
  | work payloads =>
    rw [Served.step]
    split
    · rename_i free
      rw [Bool.and_eq_true, Option.isNone_iff_eq_none, List.all_eq_true] at free
      exact invariant.put fun _ _ committed => invariant.work free.1 free.2 committed
    · exact invariant

theorem Invariant.run (invariant : served.Invariant) (turns : List Turn) :
    (served.run before turns).Invariant := by
  induction turns generalizing served with
  | nil => exact invariant
  | cons turn turns ih => exact ih (invariant.step turn)

/-- A replayed history in which no request has been observed, and an empty inbox. -/
structure Unasked (served : Served) : Prop where
  replayed : replayRun served.events = .ok served.state
  silent : ∀ event ∈ served.events, plain event.payload = true
  inbox : served.inbox = []

theorem Unasked.invariant (unasked : served.Unasked) : served.Invariant := by
  have observes : observations served.events = [] :=
    List.filterMap_eq_nil_iff.mpr fun event member => (plain_silent (unasked.silent event member)).1
  have completes : completions served.events = [] :=
    List.filterMap_eq_nil_iff.mpr fun event member =>
      (@plain_silent "" _ (unasked.silent event member)).2
  refine ⟨unasked.replayed, ?_, ?_, ?_, ?_, .inl ?_⟩
  · intro control member
    rw [unasked.inbox] at member
    cases member
  · intro control member
    rw [unasked.inbox] at member
    cases member
  · rw [unasked.inbox]
    exact List.nodup_nil
  · intro operationId member
    rw [completes] at member
    cases member
  · rw [outstandingObservedControl, observedControls, observes]
    rfl

/-- The batch of a request is one that the reducer lets through. -/
def Servable (served : Served) (control : ControlRequest) : Prop :=
  Stoppable served.state control.action ∧
    served.state.HasRoom (boundaryPayloads served.state control true)

/-- A paused run that runs again: its paused nodes are ready, and the others are as they were. -/
structure Resumed (before after : Served) : Prop where
  status : after.state.status = .running
  pauseReason : after.state.pauseReason = none
  nodes : ∀ node ∈ after.state.nodes, ∃ old ∈ before.state.nodes,
    node = if old.status = .paused then { old with status := .ready, pauseReason := none } else old
  outstanding : outstandingObservedControl after.events = none

/-- What holds after any turns. The batch of a request that can be served is stored with its
observation and its answer, and any other one changes nothing. -/
structure Kept (served : Served) : Prop where
  replayed : replayRun served.events = .ok served.state
  settled : outstandingObservedControl served.events = none ∨ served.Wedged
  wedged : served.Wedged → ∀ before turns, (served.run before turns).Wedged ∧
    (served.run before turns).events = served.events
  answers : ∀ control rest, outstandingObservedControl served.events = none →
    served.inbox = control :: rest → served.Open → served.Servable control →
    Answered control rest served (served.serve true)
  refuses : ∀ control rest stored, outstandingObservedControl served.events = none →
    served.inbox = control :: rest → ¬(served.Open ∧ served.Servable control) →
    served.serve stored = served
  resumes : ∀ operationId, outstandingObservedControl served.events = none →
    served.inbox = [] → served.state.status = .paused → Text.identifier operationId = true →
    served.state.HasRoom (resumePayloads served.state operationId) →
    Resumed served (served.resume operationId true)

theorem Invariant.resumed {operationId : String} (invariant : served.Invariant)
    (nothing : outstandingObservedControl served.events = none) (idle : served.inbox = [])
    (paused : served.state.status = .paused) (named : Text.identifier operationId = true)
    (room : served.state.HasRoom (resumePayloads served.state operationId)) :
    Resumed served (served.resume operationId true) := by
  have distinct := replayRun_distinct invariant.replayed
  obtain ⟨batch, committed⟩ :=
    commitBatch_admits.mpr ⟨resume_admits distinct paused named, room, rfl⟩
  have free : ((outstandingObservedControl served.events).isNone && served.inbox.isEmpty &&
      served.state.status == .paused) = true := by
    rw [nothing, idle, paused]
    rfl
  have resumed : served.resume operationId true = ⟨served.events ++ batch,
      served.state.afterAll (resumePayloads served.state operationId), served.inbox⟩ := by
    rw [resume, if_pos free, committed]
    rfl
  have after := invariant.work nothing resume_plain committed
  obtain ⟨status, reason, nodes⟩ := @resume_after served.state operationId distinct
  rw [resumed]
  refine ⟨status, reason, nodes, ?_⟩
  rcases after.settled with settled | ⟨_, _, _, still⟩
  · exact settled
  · have running : RunStatus.running = .paused := status.symm.trans still
    cases running

theorem Invariant.batch_committed {rest : List ControlRequest} (invariant : served.Invariant)
    (waiting : served.inbox = control :: rest) :
    (∃ batch next, applyBoundaryControl served.state control true = .ok (batch, next)) ↔
      served.Servable control := by
  obtain ⟨valid, _⟩ := invariant.valid control (waiting ▸ List.mem_cons_self)
  rw [Servable, ← boundary_admits (replayRun_distinct invariant.replayed) valid]
  constructor
  · rintro ⟨batch, next, committed⟩
    obtain ⟨admits, room, _⟩ := commitBatch_admits.mp ⟨batch, committed⟩
    exact ⟨admits, room⟩
  · rintro ⟨admits, room⟩
    obtain ⟨batch, committed⟩ := commitBatch_admits.mpr ⟨admits, room, rfl⟩
    exact ⟨batch, _, committed⟩

theorem Invariant.kept (invariant : served.Invariant) : served.Kept := by
  refine ⟨invariant.replayed, invariant.settled, fun wedged _ => wedge_run wedged, ?_, ?_,
    fun _ => invariant.resumed⟩
  · intro control rest nothing waiting opened servable
    obtain ⟨batch, next, committed⟩ := (invariant.batch_committed waiting).mpr servable
    rw [serve_first opened true nothing waiting, committed]
    exact invariant.answer nothing waiting committed
  · intro control rest stored nothing waiting refused
    by_cases opened : served.Open
    · rw [serve_first opened stored nothing waiting]
      rcases @put_cases served stored rest (applyBoundaryControl served.state control true) with
        lost | ⟨batch, next, committed, _⟩
      · exact lost
      · have servable := (invariant.batch_committed waiting).mp ⟨batch, next, committed⟩
        exact absurd ⟨opened, servable⟩ refused
    · exact serve_closed opened stored

end Served

/-- However requests are submitted, boundaries are reached, runs are resumed, passes are lost and
other events are committed, from a run that nobody has asked to stop: a request is answered in
the batch that observes it, or it stays in the inbox with nothing changed, and a paused run with
no request can be resumed. Only a pause that is taken up for a paused run is left outstanding,
and then nothing is ever committed again. -/
theorem boundary_controls (before : ControlRequest → ControlRequest → Bool) (served : Served)
    (unasked : served.Unasked) (turns : List Turn) :
    (served.run before turns).Kept := by
  have invariant : (served.run before turns).Invariant := unasked.invariant.run turns
  exact invariant.kept

namespace BoundarySample

def pendingBefore (request other : ControlRequest) : Bool :=
  decide (request.recordedAtMs ≤ other.recordedAtMs)

def unasked : Served := ⟨[Sample.created], Sample.state, []⟩

def turns : List Turn :=
  [.submit "pause-1" .pause 5, .serve true, .resume "resume-1" true,
    .submit "pause-2" .pause 6, .serve true, .submit "pause-3" .pause 7, .serve true,
    .submit "cancel-1" .cancel 8, .serve true]

theorem unasked_holds : unasked.Unasked where
  replayed := by decide +kernel
  silent event member := by
    rw [List.mem_singleton.mp member]
    rfl
  inbox := rfl

def wedged : Served := unasked.run pendingBefore turns

theorem wedged_inbox : wedged.state.status = .paused ∧
    wedged.inbox.map (·.operationId) = ["cancel-1"] := by
  decide +kernel

/-- A pause of a paused run, after which a cancel is never taken up. -/
theorem boundary_controls_wedge : (wedged.state.status = .paused ∧
    wedged.inbox.map (·.operationId) = ["cancel-1"]) ∧ wedged.Kept :=
  ⟨wedged_inbox, boundary_controls pendingBefore unasked unasked_holds turns⟩

end BoundarySample

end Anastom.BoundaryControl
