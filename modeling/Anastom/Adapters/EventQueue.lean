import Anastom.Engine.Scheduling
import Anastom.ExecutionHost.EventTurns
import Anastom.ExecutionHost.RecordReading

/-! The event queue of an adapter: a run pushes observations while one consumer drains them.
Under pressure the queue drops its oldest log and counts it, so that every required event
reaches the consumer and no log is lost without a trace. -/
namespace Anastom
open RetainedEvents (required required_append required_eraseP)

inductive Adapter where
  | codex
  | claudeCode
  | pi
  deriving DecidableEq, Repr

def Adapter.overflowMessage : Adapter → String
  | .codex => "Codex exceeded its required observation bound"
  | .claudeCode => "Claude Code exceeded its required observation bound"
  | .pi => "Pi exceeded its required observation bound"

def Adapter.droppedMessage : Adapter → String
  | .codex => "Codex public logs dropped under queue pressure"
  | .claudeCode => "Claude Code public logs dropped under pressure"
  | .pi => "Pi public logs dropped under queue pressure"

/-- The queue of an execution; its result is set when the run finishes, and `waiting` while a
consumer that found the queue empty has left its wake-up call. -/
structure Pending where
  queue : List RuntimeEvent := []
  droppedLogs : Nat := 0
  result : Option ExecutionResult := none
  waiting : Bool := false
  deriving DecidableEq, Repr

namespace Pending

/-- `pending.queue.push(event)`, which wakes the consumer. -/
def append (event : RuntimeEvent) (pending : Pending) : Pending :=
  { pending with queue := pending.queue ++ [event], waiting := false }

def push (adapter : Adapter) (event : RuntimeEvent) (pending : Pending) :
    Except Failure Pending :=
  if pending.result.isSome then .ok pending
  else do
    assertRuntimeEvent event.toJson
    if pending.queue.length < 254 then .ok (pending.append event)
    else if pending.queue.any RuntimeEvent.isLog then
      .ok (append event
        { pending with
          queue := pending.queue.eraseP RuntimeEvent.isLog
          droppedLogs := pending.droppedLogs + 1 })
    else if event.isLog then .ok { pending with droppedLogs := pending.droppedLogs + 1 }
    else .error (.error adapter.overflowMessage)

/-- What ends the stream: a summary of the dropped logs and the status of the result. -/
def closing (adapter : Adapter) (droppedLogs : Nat) (result : ExecutionResult) :
    List RuntimeEvent :=
  (if droppedLogs = 0 then [] else [.log adapter.droppedMessage (some droppedLogs)]) ++
    [.completed result.status]

/-- The end of a run. -/
def finish (adapter : Adapter) (result : ExecutionResult) (pending : Pending) : Pending :=
  { pending with
    queue := pending.queue ++ closing adapter pending.droppedLogs result
    result := some result
    waiting := false }

/-- The result that `collect` resolves to, once the run has finished. -/
def collect (pending : Pending) : Option ExecutionResult := pending.result

end Pending

/-- What a run pushes: logs without a count of their own, and required events other than the
completion, which only the end of the run adds. -/
def RuntimeEvent.isObservation : RuntimeEvent → Bool
  | .log _ droppedLogs => droppedLogs.isNone
  | .completed _ => false
  | _ => true

abbrev Observation := { event : RuntimeEvent // event.isObservation = true }

/-- An execution with its consumer, and the events that were pushed and yielded so far. -/
structure EventStream where
  pending : Pending := {}
  pushed : List Observation := []
  yielded : List RuntimeEvent := []
  ended : Bool := false
  deriving DecidableEq, Repr

namespace EventStream

inductive Step where
  | push (event : Observation)
  | next
  | finish (result : ExecutionResult)

/-- A push that returns before the run has finished took its event. -/
def pushed? (adapter : Adapter) (event : Observation) (stream : EventStream) : EventStream :=
  match stream.pending.push adapter event.1 with
  | .error _ => stream
  | .ok pending =>
    { stream with
      pending
      pushed := if stream.pending.result.isSome then stream.pushed else stream.pushed ++ [event] }

/-- One turn of the loop of `events`, unless the consumer waits or has seen the end. -/
def next (stream : EventStream) : EventStream :=
  if stream.ended || stream.pending.waiting then stream
  else
    match stream.pending.queue with
    | event :: queue =>
      { stream with
        pending := { stream.pending with queue }
        yielded := stream.yielded ++ [event] }
    | [] =>
      if stream.pending.result.isSome then { stream with ended := true }
      else { stream with pending := { stream.pending with waiting := true } }

/-- A run finishes once. -/
def finish (adapter : Adapter) (result : ExecutionResult) (stream : EventStream) : EventStream :=
  if stream.pending.result.isSome then stream
  else { stream with pending := stream.pending.finish adapter result }

def step (adapter : Adapter) (stream : EventStream) : Step → EventStream
  | .push event => stream.pushed? adapter event
  | .next => stream.next
  | .finish result => stream.finish adapter result

def run (adapter : Adapter) (steps : List Step) : EventStream := steps.foldl (step adapter) {}

def pushedEvents (stream : EventStream) : List RuntimeEvent := stream.pushed.map Subtype.val

end EventStream

/-- Some of the pushed events in their order, with all that are required, and a count of the
logs that are missing. -/
structure KeptEvents (pushed kept : List RuntimeEvent) (droppedLogs : Nat) : Prop where
  sublist : kept.Sublist pushed
  required : required kept = required pushed
  logs : pushed.countP RuntimeEvent.isLog = kept.countP RuntimeEvent.isLog + droppedLogs

namespace KeptEvents
variable {pushed first second : List RuntimeEvent} {droppedLogs : Nat} {event : RuntimeEvent}

theorem append (kept : KeptEvents pushed first droppedLogs) (event : RuntimeEvent) :
    KeptEvents (pushed ++ [event]) (first ++ [event]) droppedLogs where
  sublist := kept.sublist.append (List.Sublist.refl _)
  required := by rw [required_append, required_append, kept.required]
  logs := by
    rw [List.countP_append, List.countP_append, kept.logs]
    omega

theorem drop (kept : KeptEvents pushed first droppedLogs) (log : event.isLog = true) :
    KeptEvents (pushed ++ [event]) first (droppedLogs + 1) where
  sublist := kept.sublist.trans (List.sublist_append_left _ _)
  required := by
    rw [required_append, kept.required]
    simp [RetainedEvents.required, log]
  logs := by
    rw [List.countP_append, kept.logs, List.countP_singleton, log, if_pos rfl]
    omega

/-- The oldest log of the queue gives way, whatever was yielded before it. -/
theorem evict (kept : KeptEvents pushed (first ++ second) droppedLogs)
    (log : second.any RuntimeEvent.isLog = true) :
    KeptEvents pushed (first ++ second.eraseP RuntimeEvent.isLog) (droppedLogs + 1) where
  sublist := ((List.Sublist.refl first).append List.eraseP_sublist).trans kept.sublist
  required := by
    rw [required_append, required_eraseP, ← required_append, kept.required]
  logs := by
    obtain ⟨event, listed, isLog⟩ := List.any_eq_true.mp log
    obtain ⟨removed, before, after, _, isLog, split, rest⟩ := List.exists_of_eraseP listed isLog
    rw [kept.logs, rest, split]
    simp only [List.countP_append, List.countP_cons, isLog, if_true]
    omega

end KeptEvents

namespace Pending
variable {adapter : Adapter} {event : RuntimeEvent} {pending next : Pending}

/-- What a push that returns can do. -/
theorem push_cases (pushed : pending.push adapter event = .ok next) :
    (pending.result.isSome = true ∧ next = pending) ∨
    (pending.result = none ∧ pending.queue.length < 254 ∧ next = pending.append event) ∨
    (pending.result = none ∧ pending.queue.any RuntimeEvent.isLog = true ∧
      next = append event
        { pending with
          queue := pending.queue.eraseP RuntimeEvent.isLog
          droppedLogs := pending.droppedLogs + 1 }) ∨
    (pending.result = none ∧ event.isLog = true ∧
      next = { pending with droppedLogs := pending.droppedLogs + 1 }) := by
  rw [push] at pushed
  split at pushed
  case isTrue finished =>
    cases pushed
    exact .inl ⟨finished, rfl⟩
  case isFalse running =>
    have running : pending.result = none := by
      rwa [Option.isSome_iff_ne_none, not_not] at running
    obtain ⟨_, _, pushed⟩ := bind_ok.mp pushed
    split at pushed
    case isTrue room =>
      cases pushed
      exact .inr (.inl ⟨running, room, rfl⟩)
    case isFalse =>
      split at pushed
      case isTrue log =>
        cases pushed
        exact .inr (.inr (.inl ⟨running, log, rfl⟩))
      case isFalse =>
        split at pushed
        case isTrue log =>
          cases pushed
          exact .inr (.inr (.inr ⟨running, log, rfl⟩))
        case isFalse => cases pushed

/-- A push of a valid event fails only where a required event finds 254 others waiting. -/
theorem push_error {failure : Failure} (refused : pending.push adapter event = .error failure)
    (valid : event.valid = true) :
    event.isLog = false ∧ 254 ≤ pending.queue.length ∧
      required pending.queue = pending.queue := by
  rw [push] at refused
  split at refused
  case isTrue => cases refused
  case isFalse =>
    have passed : assertRuntimeEvent event.toJson = .ok () := assertRuntimeEvent_ok.mpr valid
    rw [passed] at refused
    simp only [bind, Except.bind] at refused
    split at refused
    case isTrue => cases refused
    case isFalse full =>
      split at refused
      case isTrue => cases refused
      case isFalse none =>
        split at refused
        case isTrue => cases refused
        case isFalse needed =>
          refine ⟨by simpa using needed, Nat.le_of_not_lt full, List.filter_eq_self.mpr ?_⟩
          intro queued listed
          have notLog : ¬queued.isLog = true := fun log =>
            none (List.any_eq_true.mpr ⟨queued, listed, log⟩)
          simpa using notLog

end Pending

namespace EventStream
variable {adapter : Adapter} {stream : EventStream}

/-- What holds of a stream at every moment. -/
structure Conserved (adapter : Adapter) (stream : EventStream) : Prop where
  bounded : stream.pending.result = none → stream.pending.queue.length ≤ 254
  running : stream.pending.result = none →
    KeptEvents stream.pushedEvents (stream.yielded ++ stream.pending.queue) stream.pending.droppedLogs
  finished : ∀ result ∈ stream.pending.result, ∃ kept,
    stream.yielded ++ stream.pending.queue =
      kept ++ Pending.closing adapter stream.pending.droppedLogs result ∧
    KeptEvents stream.pushedEvents kept stream.pending.droppedLogs
  waiting : stream.pending.waiting = true →
    stream.pending.queue = [] ∧ stream.pending.result = none
  ended : stream.ended = true → stream.pending.queue = [] ∧ stream.pending.result.isSome = true

theorem conserved_fresh : Conserved adapter {} where
  bounded _ := Nat.zero_le _
  running _ := ⟨List.Sublist.refl _, rfl, rfl⟩
  finished := by rintro _ ⟨⟩
  waiting := by rintro ⟨⟩
  ended := by rintro ⟨⟩

theorem Conserved.notEnded (conserved : Conserved adapter stream)
    (running : stream.pending.result = none) : stream.ended = false := by
  cases ended : stream.ended with
  | false => rfl
  | true => exact absurd (conserved.ended ended).2 (by rw [running]; decide)

theorem pushedEvents_append (event : Observation) :
    (stream.pushed ++ [event]).map Subtype.val = stream.pushedEvents ++ [event.1] := by
  rw [List.map_append]
  rfl

theorem Conserved.pushed? (conserved : Conserved adapter stream) (event : Observation) :
    Conserved adapter (stream.pushed? adapter event) := by
  rw [EventStream.pushed?]
  split
  case h_1 => exact conserved
  case h_2 pending pushed =>
    rcases Pending.push_cases pushed with ⟨finished, rfl⟩ | ⟨running, room, rfl⟩ |
      ⟨running, log, rfl⟩ | ⟨running, log, rfl⟩
    · rw [if_pos finished]
      exact conserved
    all_goals
      have kept := conserved.running running
      have notEnded := conserved.notEnded running
      have unfinished : ¬stream.pending.result.isSome = true := by rw [running]; decide
      rw [if_neg unfinished]
    · refine ⟨fun _ => ?_, fun _ => ?_, fun result finished => ?_, by rintro ⟨⟩, fun ended => ?_⟩
      · rw [Pending.append, List.length_append]
        exact room
      · rw [EventStream.pushedEvents, pushedEvents_append, Pending.append, ← List.append_assoc]
        exact kept.append event.1
      · exact absurd (running.symm.trans finished) (by rintro ⟨⟩)
      · exact absurd (notEnded.symm.trans ended) (by decide)
    · refine ⟨fun _ => ?_, fun _ => ?_, fun result finished => ?_, by rintro ⟨⟩, fun ended => ?_⟩
      · have bounded := conserved.bounded running
        obtain ⟨queued, listed, isLog⟩ := List.any_eq_true.mp log
        have shorter := List.length_eraseP_of_mem listed isLog
        rw [Pending.append, List.length_append, shorter, List.length_singleton]
        have nonempty := List.length_pos_of_mem listed
        omega
      · rw [EventStream.pushedEvents, pushedEvents_append, Pending.append, ← List.append_assoc]
        exact (kept.evict log).append event.1
      · exact absurd (running.symm.trans finished) (by rintro ⟨⟩)
      · exact absurd (notEnded.symm.trans ended) (by decide)
    · refine ⟨fun _ => conserved.bounded running, fun _ => ?_, fun result finished => ?_,
        conserved.waiting, fun ended => ?_⟩
      · rw [EventStream.pushedEvents, pushedEvents_append]
        exact kept.drop log
      · exact absurd (running.symm.trans finished) (by rintro ⟨⟩)
      · exact absurd (notEnded.symm.trans ended) (by decide)

theorem Conserved.next (conserved : Conserved adapter stream) :
    Conserved adapter stream.next := by
  rw [EventStream.next]
  split
  case isTrue => exact conserved
  case isFalse active =>
    simp only [Bool.or_eq_true, not_or, Bool.not_eq_true] at active
    split
    case h_1 event queue queued =>
      refine ⟨fun running => ?_, fun running => ?_, fun result finished => ?_, fun waiting => ?_,
        fun ended => ?_⟩
      · have bounded := conserved.bounded running
        rw [queued] at bounded
        exact Nat.le_of_succ_le bounded
      · have kept := conserved.running running
        rw [queued] at kept
        rw [List.append_assoc]
        exact kept
      · have closed := conserved.finished result finished
        rw [queued] at closed
        rw [List.append_assoc]
        exact closed
      · exact absurd (active.2.symm.trans waiting) (by decide)
      · exact absurd (active.1.symm.trans ended) (by decide)
    case h_2 queued =>
      split
      case isTrue finished =>
        exact ⟨conserved.bounded, conserved.running, conserved.finished, conserved.waiting,
          fun _ => ⟨queued, finished⟩⟩
      case isFalse running =>
        have running : stream.pending.result = none := by
          rwa [Option.isSome_iff_ne_none, not_not] at running
        exact ⟨conserved.bounded, conserved.running, conserved.finished,
          fun _ => ⟨queued, running⟩, conserved.ended⟩

theorem Conserved.finish (conserved : Conserved adapter stream) (result : ExecutionResult) :
    Conserved adapter (stream.finish adapter result) := by
  rw [EventStream.finish]
  split
  case isTrue => exact conserved
  case isFalse running =>
    have running : stream.pending.result = none := by
      rwa [Option.isSome_iff_ne_none, not_not] at running
    refine ⟨by rintro ⟨⟩, by rintro ⟨⟩, ?_, by rintro ⟨⟩, fun ended => ?_⟩
    · rintro _ ⟨⟩
      exact ⟨_, (List.append_assoc _ _ _).symm, conserved.running running⟩
    · exact absurd ((conserved.notEnded running).symm.trans ended) (by decide)

theorem Conserved.step (conserved : Conserved adapter stream) (step : Step) :
    Conserved adapter (stream.step adapter step) := by
  cases step with
  | push event => exact conserved.pushed? event
  | next => exact conserved.next
  | finish result => exact conserved.finish result

/-- Whatever the order of pushes, consumption and the end of the run. -/
theorem conserved_run (adapter : Adapter) (steps : List Step) : Conserved adapter (run adapter steps) :=
  List.foldlRecOn steps (EventStream.step adapter) conserved_fresh
    fun _ conserved step _ => conserved.step step

theorem next_ended (ended : stream.ended = true) : stream.next = stream := by
  rw [EventStream.next, ended, Bool.true_or, if_pos rfl]

theorem next_queued {event : RuntimeEvent} {queue : List RuntimeEvent}
    (open_ : stream.ended = false) (awake : stream.pending.waiting = false)
    (queued : stream.pending.queue = event :: queue) :
    stream.next =
      { stream with
        pending := { stream.pending with queue }
        yielded := stream.yielded ++ [event] } := by
  rw [EventStream.next, open_, awake, Bool.or_false, if_neg Bool.false_ne_true, queued]

theorem next_drained (open_ : stream.ended = false) (awake : stream.pending.waiting = false)
    (finished : stream.pending.result.isSome = true) (queued : stream.pending.queue = []) :
    stream.next = { stream with ended := true } := by
  rw [EventStream.next, open_, awake, Bool.or_false, if_neg Bool.false_ne_true, queued]
  exact if_pos finished

/-- A consumer that keeps reading reaches the end of a finished run. -/
theorem drains (finished : stream.pending.result.isSome = true)
    (awake : stream.pending.waiting = false) :
    (EventStream.next^[stream.pending.queue.length + 1] stream).ended = true := by
  generalize queued : stream.pending.queue = queue
  induction queue generalizing stream with
  | nil =>
    cases ended : stream.ended with
    | true =>
      rw [Function.iterate_fixed (next_ended ended)]
      exact ended
    | false =>
      rw [List.length_nil, Function.iterate_one, next_drained ended awake finished queued]
  | cons event queue ih =>
    cases ended : stream.ended with
    | true =>
      rw [Function.iterate_fixed (next_ended ended)]
      exact ended
    | false =>
      rw [List.length_cons, Function.iterate_succ_apply, next_queued ended awake queued]
      exact ih finished awake rfl

theorem observations_only {kept : List RuntimeEvent}
    (sublist : kept.Sublist stream.pushedEvents) :
    kept.filter RuntimeEvent.isCompleted = [] := by
  rw [List.filter_eq_nil_iff]
  intro event listed completed
  obtain ⟨⟨observed, observation⟩, _, rfl⟩ := List.mem_map.mp (sublist.subset listed)
  cases observed with
  | completed status => cases observation
  | _ => cases completed

theorem closing_completed (droppedLogs : Nat) (result : ExecutionResult) :
    (Pending.closing adapter droppedLogs result).filter RuntimeEvent.isCompleted =
      [.completed result.status] := by
  rw [Pending.closing]
  split <;> rfl

/-- What an adapter's stream promises at every moment: the queue is bounded until the run
finishes, a push fails only for want of room among required events, the first result that the
run finishes with is the one collected, the consumer waits only where there is nothing to read,
and what it has read in the end is all that was pushed but for counted logs, closed by the
status of the collected result. -/
structure ConservesEvidence (adapter : Adapter) (stream : EventStream) : Prop where
  bounded : stream.pending.collect = none → stream.pending.queue.length ≤ 254
  refused : ∀ (event : Observation) (failure : Failure),
    stream.pending.push adapter event.1 = .error failure → event.1.valid = true →
      event.1.isLog = false ∧ stream.pending.queue.length = 254 ∧
        required stream.pending.queue = stream.pending.queue
  finishes : ∀ result : ExecutionResult, (stream.finish adapter result).pending.collect =
    some (stream.pending.collect.getD result)
  delivered : stream.ended = true → ∃ result kept,
    stream.pending.collect = some result ∧
    stream.yielded = kept ++ Pending.closing adapter stream.pending.droppedLogs result ∧
    KeptEvents stream.pushedEvents kept stream.pending.droppedLogs ∧
    stream.yielded.filter RuntimeEvent.isCompleted = [.completed result.status]
  awake : stream.pending.waiting = true →
    stream.pending.queue = [] ∧ stream.pending.collect = none
  ends : stream.pending.collect.isSome = true →
    (EventStream.next^[stream.pending.queue.length + 1] stream).ended = true

theorem finish_collect (result : ExecutionResult) : (stream.finish adapter result).pending.collect =
    some (stream.pending.collect.getD result) := by
  cases finished : stream.pending.result with
  | none =>
    rw [finish, finished, if_neg (by decide), Pending.collect, Pending.collect, finished]
    rfl
  | some first =>
    rw [finish, finished, if_pos Option.isSome_some, Pending.collect, finished]
    rfl

/-- Every order of pushes, reads and the end of the run conserves the evidence, in each of
the adapters. -/
theorem eventStream_conserves (adapter : Adapter) (steps : List Step) :
    ConservesEvidence adapter (run adapter steps) := by
  have conserved := conserved_run adapter steps
  generalize run adapter steps = stream at conserved
  refine ⟨conserved.bounded, ?_, finish_collect, ?_, conserved.waiting, ?_⟩
  · intro event failure refused valid
    obtain ⟨needed, full, waiting⟩ := Pending.push_error refused valid
    have running : stream.pending.result = none := by
      cases finished : stream.pending.result with
      | none => rfl
      | some result =>
        rw [Pending.push, finished] at refused
        cases refused
    exact ⟨needed, Nat.le_antisymm (conserved.bounded running) full, waiting⟩
  · intro ended
    obtain ⟨drained, finished⟩ := conserved.ended ended
    obtain ⟨result, collected⟩ := Option.isSome_iff_exists.mp finished
    obtain ⟨kept, closed, held⟩ := conserved.finished result collected
    rw [drained, List.append_nil] at closed
    refine ⟨result, kept, collected, closed, held, ?_⟩
    rw [closed, List.filter_append, observations_only held.sublist, closing_completed]
    rfl
  · intro finished
    refine drains finished ?_
    cases waiting : stream.pending.waiting with
    | false => rfl
    | true =>
      have running := (conserved.waiting waiting).2
      exact absurd finished (by rw [Pending.collect, running]; decide)

end EventStream
end Anastom
