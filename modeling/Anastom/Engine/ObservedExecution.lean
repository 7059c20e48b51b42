import Anastom.Engine.AttemptLifecycle
import Anastom.Engine.BoundaryControl
import Anastom.Engine.EngineAttempts
import Anastom.Data.Utf8
import Anastom.Data.Watch

/-! What the coordinator records of the events of a running attempt: each one once, usage at
most once, and the beginning of the log. -/
namespace Anastom.ObservedExecution
open WorkflowEngine BoundaryControl

/-- The filter of the coordinator is that of the engine, word for word. -/
abbrev PublicObservationFilter := RuntimeObservationFilter

def logArtifactMaxBytes : Nat := 1024 * 1024

/-- The bytes of the log artifact after an event. -/
def collectLog (logs : Bytes) : RuntimeEvent → Bytes
  | .log message _ =>
    if logs.length < logArtifactMaxBytes then
      logs ++ (Utf8.encode (message ++ "\n")).take (logArtifactMaxBytes - logs.length)
    else logs
  | _ => logs

/-- The session, with the number of batches that it has put to the store, and what the loop
keeps: the filter and the log. -/
structure Driven where
  state : RunState
  events : List RunEvent
  commits : Nat := 0
  observations : PublicObservationFilter := ⟨[], false⟩
  logs : Bytes := []

/-- A batch of the session, where `store` is what the guarded store answers to each batch in
turn. -/
def Driven.commit (store : Nat → Except Failure Unit) (driven : Driven)
    (payloads : List RunEventPayload) : Except Failure Driven := do
  let transition ← commitBatch driven.state payloads
  store driven.commits
  pure { driven with
    state := transition.2
    events := driven.events ++ transition.1
    commits := driven.commits + 1 }

def observedPayload (nodeId : String) (number : Nat) (event : RuntimeEvent) : RunEventPayload :=
  .runtimeEventObserved nodeId number event

/-- A turn of the loop that finds an event. -/
def observeEvent (store : Nat → Except Failure Unit) (nodeId : String) (number : Nat)
    (driven : Driven) (event : RuntimeEvent) : Except Failure Driven := do
  require event.valid (.error "Invalid public runtime observation")
  let accepted ← driven.observations.accept event
  let observed := { driven with observations := accepted.2 }
  if accepted.1 then do
    let committed ← observed.commit store [observedPayload nodeId number event]
    pure { committed with logs := collectLog committed.logs event }
  else pure observed

/-- The turn that ends the loop: the events are over and the execution is collected, the deadline
has passed or a request of an operator is pending and the execution is cancelled, or the
events, the lease or the inbox fail. A poll that finds no request changes nothing. -/
inductive Ending (Result Observation : Type) where
  | result (collected : Except Failure Result)
  | timeout (cancelled : Except Failure Observation)
  | control (control : ControlRequest) (cancelled : Except Failure Observation)
  | failed (failure : Failure)

inductive RuntimeDriveOutcome (Result Observation : Type) where
  | result (result : Result) (logs : Bytes)
  | timeout (observation : Observation) (logs : Bytes)
  | control (control : ControlRequest) (observation : Observation)

variable {Result Observation : Type}

/-- The last turn; `unconfirmed` is the observation that takes the place of a cancellation that
is rejected at the deadline. -/
def endExecution (store : Nat → Except Failure Unit) (nodeId : String) (number : Nat)
    (unconfirmed : Observation) (driven : Driven) :
    Ending Result Observation → Driven × Except Failure (RuntimeDriveOutcome Result Observation)
  | .result collected => (driven, collected.map (.result · driven.logs))
  | .timeout cancelled =>
    match driven.commit store [.attemptTimeoutRequested nodeId number] with
    | .ok committed =>
      (committed, .ok (.timeout (cancelled.toOption.getD unconfirmed) committed.logs))
    | .error failure => (driven, .error failure)
  | .control control cancelled =>
    match driven.commit store [controlObservedPayload control] with
    | .ok committed => (committed, cancelled.map (.control control))
    | .error failure => (driven, .error failure)
  | .failed failure => (driven, .error failure)

def driveExecution (store : Nat → Except Failure Unit) (nodeId : String) (number : Nat)
    (unconfirmed : Observation) (driven : Driven) (events : List RuntimeEvent)
    (ending : Ending Result Observation) :
    Driven × Except Failure (RuntimeDriveOutcome Result Observation) :=
  match Watch.run (observeEvent store nodeId number) driven events with
  | (observed, none) => endExecution store nodeId number unconfirmed observed ending
  | (observed, some failure) => (observed, .error failure)

/-- What the filter lets through. -/
def admitted : PublicObservationFilter → List RuntimeEvent → Except Failure (List RuntimeEvent)
  | _, [] => .ok []
  | filter, event :: rest => do
    let accepted ← filter.accept event
    let later ← admitted accepted.2 rest
    pure (if accepted.1 then event :: later else later)

/-- The events that the filter tells apart, and their identity. -/
def keyed : RuntimeEvent → Bool
  | .metadata _ | .usage _ => true
  | _ => false

def identity (event : RuntimeEvent) : String := Json.canonicalJson event.toJson

def conflict : Failure := .error "Runtime emitted conflicting final usage"

variable {filter : PublicObservationFilter} {event : RuntimeEvent}
  {events accepted : List RuntimeEvent}

theorem accept_eq : filter.accept event =
    if keyed event then
      if filter.seen.contains (identity event) then .ok (false, filter)
      else if reportsUsage event && filter.usageSeen then .error conflict
      else .ok (true, ⟨identity event :: filter.seen, filter.usageSeen || reportsUsage event⟩)
    else .ok (true, filter) := by
  cases event <;> rfl

theorem usage_keyed (usage : reportsUsage event = true) : keyed event = true := by
  cases event with
  | usage value => rfl
  | started | log | metadata | completed => cases usage

/-- What the filter does with an event: it lets through what it does not compare, drops what it
has seen, and otherwise remembers it. -/
theorem accept_cases {first : Bool × PublicObservationFilter}
    (compared : filter.accept event = .ok first) :
    (¬keyed event = true ∧ first = (true, filter)) ∨
    (keyed event = true ∧ identity event ∈ filter.seen ∧ first = (false, filter)) ∨
    (keyed event = true ∧ identity event ∉ filter.seen ∧
      (reportsUsage event = true → filter.usageSeen = false) ∧
      first = (true, ⟨identity event :: filter.seen, filter.usageSeen || reportsUsage event⟩)) := by
  rw [accept_eq] at compared
  by_cases key : keyed event = true
  · rw [if_pos key] at compared
    by_cases seen : filter.seen.contains (identity event) = true
    · rw [if_pos seen] at compared
      exact .inr (.inl ⟨key, List.contains_iff_mem.mp seen, (Except.ok.inj compared).symm⟩)
    · rw [if_neg seen] at compared
      have unseen := fun member => seen (List.contains_iff_mem.mpr member)
      split at compared
      · cases compared
      · rename_i free
        refine .inr (.inr ⟨key, unseen, fun usage => ?_, (Except.ok.inj compared).symm⟩)
        rw [usage, Bool.true_and, Bool.not_eq_true] at free
        exact free
  · rw [if_neg key] at compared
    exact .inl ⟨key, (Except.ok.inj compared).symm⟩

/-- The filter refuses a new report of usage after another. -/
theorem accept_error {failure : Failure} (compared : filter.accept event = .error failure) :
    reportsUsage event = true ∧ identity event ∉ filter.seen ∧ filter.usageSeen = true := by
  rw [accept_eq] at compared
  split at compared
  · split at compared
    · cases compared
    · rename_i unseen
      split at compared
      · rename_i second
        rw [Bool.and_eq_true] at second
        exact ⟨second.1, fun seen => unseen (List.contains_iff_mem.mpr seen), second.2⟩
      · cases compared
  · cases compared

/-- The identities that the filter has compared in what it lets through. -/
def identities (accepted : List RuntimeEvent) : List String :=
  (accepted.filter keyed).map identity

/-- What is let through of a list of events by a filter. -/
structure Filtered (filter : PublicObservationFilter) (events accepted : List RuntimeEvent) :
    Prop where
  sublist : accepted.Sublist events
  others : (accepted.filter fun event => !keyed event) = events.filter fun event => !keyed event
  once : (identities accepted).Nodup
  new : ∀ text ∈ identities accepted, text ∉ filter.seen
  each : ∀ event ∈ events, keyed event = true →
    identity event ∈ filter.seen ∨ identity event ∈ identities accepted
  usage : (accepted.filter reportsUsage).length ≤ if filter.usageSeen then 0 else 1

theorem identities_keyed (key : keyed event = true) :
    identities (event :: accepted) = identity event :: identities accepted := by
  rw [identities, List.filter_cons_of_pos key]
  rfl

theorem identities_other (other : ¬keyed event = true) :
    identities (event :: accepted) = identities accepted := by
  rw [identities, List.filter_cons_of_neg other]
  rfl

/-- A repeated event is dropped. -/
theorem Filtered.repeated (filtered : Filtered filter events accepted) (key : keyed event = true)
    (seen : identity event ∈ filter.seen) : Filtered filter (event :: events) accepted := by
  refine { filtered with sublist := filtered.sublist.cons _, others := ?_, each := ?_ }
  · rw [filtered.others, List.filter_cons_of_neg (by rw [key]; decide)]
  · intro other member otherKey
    rcases List.mem_cons.mp member with rfl | later
    · exact .inl seen
    · exact filtered.each other later otherKey

/-- A new event is let through, and seen from then on. -/
theorem Filtered.fresh (filtered : Filtered ⟨identity event :: filter.seen,
      filter.usageSeen || reportsUsage event⟩ events accepted) (key : keyed event = true)
    (unseen : identity event ∉ filter.seen)
    (free : reportsUsage event = true → filter.usageSeen = false) :
    Filtered filter (event :: events) (event :: accepted) := by
  have dropped : ¬(!keyed event) = true := by
    rw [key]
    decide
  refine ⟨filtered.sublist.cons_cons _, ?_, ?_, ?_, ?_, ?_⟩
  · rw [List.filter_cons, List.filter_cons, if_neg dropped, if_neg dropped, filtered.others]
  · rw [identities_keyed key]
    exact List.nodup_cons.mpr
      ⟨fun again => filtered.new _ again List.mem_cons_self, filtered.once⟩
  · rw [identities_keyed key]
    intro text member
    rcases List.mem_cons.mp member with rfl | later
    · exact unseen
    · exact fun seen => filtered.new text later (List.mem_cons_of_mem _ seen)
  · rw [identities_keyed key]
    intro other member otherKey
    rcases List.mem_cons.mp member with rfl | later
    · exact .inr List.mem_cons_self
    · rcases filtered.each other later otherKey with seen | passed
      · exact (List.mem_cons.mp seen).elim (fun same => .inr (same ▸ List.mem_cons_self)) .inl
      · exact .inr (List.mem_cons_of_mem _ passed)
  · have later := filtered.usage
    cases usage : reportsUsage event with
    | true =>
      rw [usage, Bool.or_true, if_pos rfl] at later
      rw [List.filter_cons_of_pos usage, List.length_cons, free usage]
      exact Nat.succ_le_succ later
    | false =>
      rw [usage, Bool.or_false] at later
      rw [List.filter_cons_of_neg (by rw [usage]; decide)]
      exact later

/-- An event that the filter does not compare is let through. -/
theorem Filtered.other (filtered : Filtered filter events accepted)
    (other : ¬keyed event = true) : Filtered filter (event :: events) (event :: accepted) := by
  have kept : (!keyed event) = true := by
    rw [Bool.not_eq_true', ← Bool.not_eq_true]
    exact other
  have quiet : ¬reportsUsage event = true := fun usage => other (usage_keyed usage)
  refine ⟨filtered.sublist.cons_cons _, ?_, ?_, ?_, ?_, ?_⟩
  · rw [List.filter_cons, List.filter_cons, if_pos kept, if_pos kept, filtered.others]
  · rw [identities_other other]
    exact filtered.once
  · rw [identities_other other]
    exact filtered.new
  · rw [identities_other other]
    intro next member nextKey
    rcases List.mem_cons.mp member with rfl | later
    · exact absurd nextKey other
    · exact filtered.each next later nextKey
  · rw [List.filter_cons_of_neg quiet]
    exact filtered.usage

theorem admitted_filtered (passed : admitted filter events = .ok accepted) :
    Filtered filter events accepted := by
  induction events generalizing filter accepted with
  | nil =>
    obtain rfl := Except.ok.inj passed
    exact ⟨List.Sublist.refl _, rfl, List.nodup_nil, fun _ absent => absurd absent List.not_mem_nil,
      fun _ absent => absurd absent List.not_mem_nil, Nat.zero_le _⟩
  | cons event rest ih =>
    obtain ⟨first, compared, continued⟩ := bind_ok.mp passed
    obtain ⟨later, tail, returned⟩ := bind_ok.mp continued
    obtain rfl := Except.ok.inj returned
    have filtered := ih tail
    rcases accept_cases compared with ⟨other, rfl⟩ | ⟨key, seen, rfl⟩ | ⟨key, unseen, free, rfl⟩
    · exact filtered.other other
    · exact filtered.repeated key seen
    · exact filtered.fresh key unseen free

/-- Only a second report of usage is refused. -/
theorem admitted_refused (refused : ∃ failure, admitted filter events = .error failure) :
    ∃ event ∈ events, reportsUsage event = true ∧ identity event ∉ filter.seen ∧
      (filter.usageSeen = true ∨
        ∃ other ∈ events, reportsUsage other = true ∧ identity other ≠ identity event) := by
  induction events generalizing filter with
  | nil =>
    obtain ⟨_, refused⟩ := refused
    cases refused
  | cons event rest ih =>
    cases compared : filter.accept event with
    | error failure =>
      obtain ⟨usage, unseen, used⟩ := accept_error compared
      exact ⟨event, List.mem_cons_self, usage, unseen, .inl used⟩
    | ok first =>
      have tail : ∃ failure, admitted first.2 rest = .error failure := by
        cases later : admitted first.2 rest with
        | error failure => exact ⟨failure, rfl⟩
        | ok accepted =>
          obtain ⟨_, refused⟩ := refused
          rw [admitted, compared] at refused
          change (admitted first.2 rest >>= _) = _ at refused
          rw [later] at refused
          cases refused
      obtain ⟨second, member, usage, unseen, reason⟩ := ih tail
      have inRest : (∃ other ∈ rest, reportsUsage other = true ∧
          identity other ≠ identity second) →
          ∃ other ∈ event :: rest, reportsUsage other = true ∧
            identity other ≠ identity second := by
        rintro ⟨other, inside, found⟩
        exact ⟨other, List.mem_cons_of_mem _ inside, found⟩
      refine ⟨second, List.mem_cons_of_mem _ member, usage, ?_⟩
      rcases accept_cases compared with ⟨_, rfl⟩ | ⟨_, _, rfl⟩ | ⟨_, _, _, rfl⟩
      · exact ⟨unseen, reason.imp_right inRest⟩
      · exact ⟨unseen, reason.imp_right inRest⟩
      · have apart := not_or.mp fun found => unseen (List.mem_cons.mpr found)
        refine ⟨apart.2, ?_⟩
        rcases reason with used | other
        · rcases Bool.or_eq_true_iff.mp used with before | here
          · exact .inl before
          · exact .inr ⟨event, List.mem_cons_self, here, fun same => apart.1 same.symm⟩
        · exact .inr (inRest other)

def metadataOf : RuntimeEvent → Option RuntimeMetadata
  | .metadata value => some value
  | _ => none

def usageOf : RuntimeEvent → Option RuntimeUsage
  | .usage value => some value
  | _ => none

variable {nodeId : String} {number : Nat} {timeout : Option TimeoutState}
  {metadata : List RuntimeMetadata} {usage : Option RuntimeUsage} {state : RunState}

/-- The node whose current attempt runs, with what has been observed of it. -/
structure Observing (nodeId : String) (number : Nat) (timeout : Option TimeoutState)
    (metadata : List RuntimeMetadata) (usage : Option RuntimeUsage) (state : RunState) : Prop where
  live : state.status.terminal = false
  numbered : positive number = true
  attempt : ∃ node attempt, state.node? nodeId = some node ∧ node.status = .running ∧
    node.CurrentIs number .running attempt ∧ attempt.timeout = timeout ∧
    attempt.identity = metadata ∧ attempt.usage = usage

theorem Observing.admits (observing : Observing nodeId number timeout metadata usage state)
    (valid : event.valid = true) (first : reportsUsage event = true → usage = none) :
    state.Admits (.runtimeEventObserved nodeId number event) := by
  obtain ⟨node, attempt, found, running, current, _, _, used⟩ := observing.attempt
  refine ⟨?_, observing.live, node, found, running, attempt, current, ?_⟩
  · show (positive number && event.valid) = true
    rw [observing.numbered, valid]
    rfl
  · rintro value rfl
    exact used.trans (first rfl)

theorem Observing.after (observing : Observing nodeId number timeout metadata usage state)
    (event : RuntimeEvent) : Observing nodeId number timeout (metadata ++ (metadataOf event).toList)
      ((usageOf event).or usage) (state.after (.runtimeEventObserved nodeId number event)) := by
  obtain ⟨node, attempt, found, running, ⟨current, numbers, status⟩, timed, listed, used⟩ :=
    observing.attempt
  have changed (f : AttemptState → AttemptState)
      (change : (RunEventPayload.runtimeEventObserved nodeId number event).nodeChange =
        some (nodeId, (·.updateCurrent f))) :
      (state.after (.runtimeEventObserved nodeId number event)).node? nodeId =
        some (node.updateCurrent f) := by
    rw [after_node?, effect_node?, change]
    simp [found]
  cases event with
  | usage value =>
    refine ⟨observing.live, observing.numbered, _, { attempt with usage := some value },
      changed _ rfl, running, ⟨?_, numbers, status⟩, timed, ?_, rfl⟩
    · rw [updateCurrent_current, current]
      rfl
    · rw [show (metadataOf (.usage value)).toList = [] from rfl, List.append_nil]
      exact listed
  | metadata value =>
    refine ⟨observing.live, observing.numbered, _,
      { attempt with identity := attempt.identity ++ [value] },
      changed _ rfl, running, ⟨?_, numbers, status⟩, timed, ?_, used⟩
    · rw [updateCurrent_current, current]
      rfl
    · show attempt.identity ++ [value] = _
      rw [listed]
      rfl
  | started | log _ _ | completed _ =>
    refine ⟨observing.live, observing.numbered, node, attempt, found, running,
      ⟨current, numbers, status⟩, timed, ?_, used⟩
    exact listed.trans (List.append_nil _).symm

def logBytes : RuntimeEvent → Bytes
  | .log message _ => Utf8.encode (message ++ "\n")
  | _ => []

theorem collectLog_take (text : Bytes) (event : RuntimeEvent) :
    collectLog (text.take logArtifactMaxBytes) event =
      (text ++ logBytes event).take logArtifactMaxBytes := by
  cases event with
  | log message dropped =>
    rw [collectLog, logBytes, List.take_append, List.length_take]
    by_cases room : text.length < logArtifactMaxBytes
    · rw [Nat.min_eq_right room.le, if_pos room]
    · rw [Nat.min_eq_left (Nat.not_lt.mp room), if_neg (Nat.lt_irrefl _),
        Nat.sub_eq_zero_of_le (Nat.not_lt.mp room), List.take_zero, List.append_nil]
  | started | metadata _ | usage _ | completed _ =>
    rw [collectLog, logBytes, List.append_nil]
    all_goals simp

variable {store : Nat → Except Failure Unit} {driven middle final : Driven}
  {payloads more : List RunEventPayload} {payload : RunEventPayload}

/-- What batches of one event each leave of the session: the store has taken them, the events are
those of the payloads, and replaying them from the state before gives the state after. -/
structure Recorded (store : Nat → Except Failure Unit) (payloads : List RunEventPayload)
    (driven final : Driven) : Prop where
  room : driven.state.HasRoom payloads
  stored : ∀ n < payloads.length, store (driven.commits + n) = .ok ()
  commits : final.commits = driven.commits + payloads.length
  state : final.state = driven.state.afterAll payloads
  events : ∃ batch, final.events = driven.events ++ batch ∧
    batch.map RunEvent.payload = payloads ∧
    foldEvents (some driven.state) batch = .ok (some final.state)

theorem room_cons : state.HasRoom (payload :: payloads) ↔
    state.sequence + 1 ≤ maxSafeInteger ∧ (state.after payload).HasRoom payloads := by
  cases payloads with
  | nil => simp [RunState.HasRoom]
  | cons head rest =>
    simp only [RunState.HasRoom, after_sequence, List.length_cons, reduceCtorEq, false_or]
    omega

theorem room_append : state.HasRoom (payloads ++ more) ↔
    state.HasRoom payloads ∧ (state.afterAll payloads).HasRoom more := by
  induction payloads generalizing state with
  | nil => exact ⟨fun room => ⟨.inl rfl, room⟩, And.right⟩
  | cons payload rest ih =>
    rw [List.cons_append, room_cons, room_cons, ih, and_assoc]
    rfl

theorem stored_append {start : Nat} :
    (∀ n < (payloads ++ more).length, store (start + n) = .ok ()) ↔
    (∀ n < payloads.length, store (start + n) = .ok ()) ∧
      ∀ n < more.length, store (start + payloads.length + n) = .ok () := by
  rw [List.length_append]
  constructor
  · intro stored
    refine ⟨fun n inside => stored n (by omega), fun n inside => ?_⟩
    rw [Nat.add_assoc]
    exact stored _ (by omega)
  · rintro ⟨first, second⟩ n inside
    by_cases early : n < payloads.length
    · exact first n early
    · have later := second (n - payloads.length) (by omega)
      rwa [show start + payloads.length + (n - payloads.length) = start + n by omega] at later

theorem Recorded.nothing : Recorded store [] driven driven where
  room := .inl rfl
  stored _ inside := absurd inside (Nat.not_lt_zero _)
  commits := rfl
  state := rfl
  events := ⟨[], (List.append_nil _).symm, rfl, rfl⟩

theorem Recorded.next (recorded : Recorded store payloads driven middle)
    (later : Recorded store more middle final) :
    Recorded store (payloads ++ more) driven final := by
  obtain ⟨batch, appended, made, folded⟩ := recorded.events
  obtain ⟨others, others_appended, others_made, others_folded⟩ := later.events
  refine ⟨room_append.mpr ⟨recorded.room, ?_⟩, stored_append.mpr ⟨recorded.stored, ?_⟩, ?_, ?_,
    batch ++ others, ?_, ?_, foldEvents_append_ok.mpr ⟨_, folded, others_folded⟩⟩
  · rw [← recorded.state]
    exact later.room
  · rw [← recorded.commits]
    exact later.stored
  · rw [later.commits, recorded.commits, List.length_append, Nat.add_assoc]
  · rw [later.state, recorded.state]
    exact (List.foldl_append ..).symm
  · rw [others_appended, appended, List.append_assoc]
  · rw [List.map_append, made, others_made]

theorem commit_ok (committed : driven.commit store [payload] = .ok final) :
    Recorded store [payload] driven final ∧ final.logs = driven.logs ∧
      final.observations = driven.observations := by
  obtain ⟨transition, made, answered⟩ := bind_ok.mp committed
  obtain ⟨_, taken, returned⟩ := bind_ok.mp answered
  obtain rfl := Except.ok.inj returned
  obtain ⟨_, room, after⟩ := commitBatch_admits.mp ⟨_, made⟩
  obtain ⟨named, _, whole⟩ := materializeEvents_fold (commitBatch_ok.mp made)
  refine ⟨⟨room, ?_, rfl, after.symm, transition.1, rfl, named, whole⟩, rfl, rfl⟩
  intro n inside
  obtain rfl := Nat.lt_one_iff.mp inside
  exact taken

theorem commit_admitted (admits : driven.state.Admits payload)
    (room : driven.state.HasRoom [payload]) (taken : store driven.commits = .ok ()) :
    ∃ final, driven.commit store [payload] = .ok final := by
  have all : driven.state.AdmitsAll [payload] := ⟨admits, trivial⟩
  obtain ⟨batch, made⟩ := commitBatch_admits.mpr ⟨all, room, rfl⟩
  exact ⟨_, bind_ok.mpr ⟨_, made, bind_ok.mpr ⟨_, taken, rfl⟩⟩⟩

/-- The first report of usage comes to an attempt without one. -/
theorem unused_first {next : PublicObservationFilter}
    (agrees : filter.usageSeen = usage.isSome)
    (compared : filter.accept event = .ok (true, next)) :
    (reportsUsage event = true → usage = none) ∧
      next.usageSeen = ((usageOf event).or usage).isSome := by
  obtain ⟨first, seen⟩ := accept_new compared
  constructor
  · intro reports
    rw [← Option.isNone_iff_eq_none, ← Option.not_isSome, ← agrees, first reports]
    rfl
  · rw [seen, agrees]
    cases event with
    | usage value => exact Bool.or_true _
    | started | log | metadata | completed => exact Bool.or_false _

theorem admitted_step {new : Bool} {next : PublicObservationFilter}
    (compared : filter.accept event = .ok (new, next)) : admitted filter (event :: events) =
      admitted next events >>= fun later => pure (if new then event :: later else later) := by
  rw [admitted, compared]
  rfl

/-- The usage of the attempt once these events are recorded. -/
def usageAfter (usage : Option RuntimeUsage) (accepted : List RuntimeEvent) :
    Option RuntimeUsage :=
  accepted.foldl (fun used event => (usageOf event).or used) usage

/-- What the events that the filter lets through leave of the session and of the loop. -/
structure Observed (store : Nat → Except Failure Unit) (nodeId : String) (number : Nat)
    (timeout : Option TimeoutState) (metadata : List RuntimeMetadata) (usage : Option RuntimeUsage)
    (accepted : List RuntimeEvent) (driven final : Driven) : Prop where
  recorded : Recorded store (accepted.map (observedPayload nodeId number)) driven final
  logs : final.logs = accepted.foldl collectLog driven.logs
  observing : Observing nodeId number timeout (metadata ++ accepted.filterMap metadataOf)
    (usageAfter usage accepted) final.state

theorem Observed.nothing (observing : Observing nodeId number timeout metadata usage driven.state) :
    Observed store nodeId number timeout metadata usage [] driven driven := by
  refine ⟨.nothing, rfl, ?_⟩
  rw [List.filterMap_nil, List.append_nil]
  exact observing

/-- A turn that finds an event drops it, or records it. -/
theorem observeEvent_ok (stepped : observeEvent store nodeId number driven event = .ok middle) :
    event.valid = true ∧ ((driven.observations.accept event = .ok (false, driven.observations) ∧
        middle = driven) ∨
      (driven.observations.accept event = .ok (true, middle.observations) ∧
        Recorded store [observedPayload nodeId number event] driven middle ∧
        middle.logs = collectLog driven.logs event)) := by
  obtain ⟨valid, compares⟩ := require_bind_ok.mp stepped
  obtain ⟨⟨new, next⟩, compared, continued⟩ := bind_ok.mp compares
  refine ⟨valid, ?_⟩
  cases new with
  | false =>
    obtain rfl := accept_seen compared
    exact .inl ⟨compared, (Except.ok.inj continued).symm⟩
  | true =>
    obtain ⟨committed, stored, returned⟩ := bind_ok.mp continued
    obtain rfl := Except.ok.inj returned
    obtain ⟨recorded, logs, same⟩ := commit_ok stored
    refine .inr ⟨?_, ⟨recorded.room, recorded.stored, recorded.commits, recorded.state,
      recorded.events⟩, congrArg (collectLog · event) logs⟩
    rw [compared]
    exact congrArg (fun filter => Except.ok (true, filter)) same.symm

theorem Observed.cons
    (recorded : Recorded store [observedPayload nodeId number event] driven middle)
    (logs : middle.logs = collectLog driven.logs event)
    (later : Observed store nodeId number timeout (metadata ++ (metadataOf event).toList)
      ((usageOf event).or usage) accepted middle final) :
    Observed store nodeId number timeout metadata usage (event :: accepted) driven final := by
  refine ⟨recorded.next later.recorded, ?_, ?_⟩
  · rw [later.logs, logs, List.foldl_cons]
  · have listed : metadata ++ (event :: accepted).filterMap metadataOf =
        metadata ++ (metadataOf event).toList ++ accepted.filterMap metadataOf := by
      rw [List.append_assoc, List.filterMap_cons]
      cases metadataOf event <;> rfl
    rw [listed]
    exact later.observing

theorem Recorded.observing (observing : Observing nodeId number timeout metadata usage driven.state)
    (recorded : Recorded store [observedPayload nodeId number event] driven middle) :
    Observing nodeId number timeout (metadata ++ (metadataOf event).toList)
      ((usageOf event).or usage) middle.state := by
  rw [recorded.state]
  exact observing.after event

/-- The events up to a failure are recorded as far as the filter lets them through. -/
theorem run_observed {failure : Option Failure}
    (observing : Observing nodeId number timeout metadata usage driven.state)
    (agrees : driven.observations.usageSeen = usage.isSome)
    (ran : Watch.run (observeEvent store nodeId number) driven events = (final, failure)) :
    ∃ seen accepted, seen <+: events ∧
      (failure = none → seen = events ∧ ∀ event ∈ events, event.valid = true) ∧
      admitted driven.observations seen = .ok accepted ∧
      Observed store nodeId number timeout metadata usage accepted driven final := by
  induction events generalizing driven metadata usage with
  | nil =>
    cases ran
    exact ⟨[], [], List.prefix_rfl, fun _ => ⟨rfl, fun _ absent => absurd absent List.not_mem_nil⟩,
      rfl, .nothing observing⟩
  | cons event rest ih =>
    cases stepped : observeEvent store nodeId number driven event with
    | error error =>
      rw [Watch.run_error stepped] at ran
      cases ran
      exact ⟨[], [], List.nil_prefix, nofun, rfl, .nothing observing⟩
    | ok middle =>
      rw [Watch.run_ok stepped] at ran
      obtain ⟨valid, ⟨compared, rfl⟩ | ⟨compared, recorded, logs⟩⟩ := observeEvent_ok stepped
      · obtain ⟨seen, accepted, grown, whole, passed, observed⟩ := ih observing agrees ran
        refine ⟨event :: seen, accepted, List.cons_prefix_cons.mpr ⟨rfl, grown⟩, fun read => ?_, ?_,
          observed⟩
        · obtain ⟨same, later⟩ := whole read
          exact ⟨congrArg _ same, List.forall_mem_cons.mpr ⟨valid, later⟩⟩
        · rw [admitted_step compared, passed]
          rfl
      · obtain ⟨seen, accepted, grown, whole, passed, observed⟩ :=
          ih (recorded.observing observing) (unused_first agrees compared).2 ran
        refine ⟨event :: seen, event :: accepted, List.cons_prefix_cons.mpr ⟨rfl, grown⟩,
          fun read => ?_, ?_, observed.cons recorded logs⟩
        · obtain ⟨same, later⟩ := whole read
          exact ⟨congrArg _ same, List.forall_mem_cons.mpr ⟨valid, later⟩⟩
        · rw [admitted_step compared, passed]
          rfl

/-- The reducer refuses nothing that the filter lets through. -/
theorem run_succeeds (observing : Observing nodeId number timeout metadata usage driven.state)
    (agrees : driven.observations.usageSeen = usage.isSome)
    (valid : ∀ event ∈ events, event.valid = true)
    (passed : admitted driven.observations events = .ok accepted)
    (room : driven.state.HasRoom (accepted.map (observedPayload nodeId number)))
    (stored : ∀ n < accepted.length, store (driven.commits + n) = .ok ()) :
    ∃ final, Watch.run (observeEvent store nodeId number) driven events = (final, none) := by
  induction events generalizing driven metadata usage accepted with
  | nil => exact ⟨driven, rfl⟩
  | cons event rest ih =>
    obtain ⟨here, later⟩ := List.forall_mem_cons.mp valid
    obtain ⟨⟨new, next⟩, compared, continued⟩ := bind_ok.mp passed
    obtain ⟨others, tail, returned⟩ := bind_ok.mp continued
    obtain rfl := Except.ok.inj returned
    cases new with
    | false =>
      obtain rfl := accept_seen compared
      have stepped : observeEvent store nodeId number driven event = .ok driven :=
        require_bind_ok.mpr ⟨here, bind_ok.mpr ⟨_, compared, rfl⟩⟩
      rw [Watch.run_ok stepped]
      exact ih observing agrees later tail room stored
    | true =>
      obtain ⟨unused, _⟩ := unused_first agrees compared
      obtain ⟨fits, more⟩ := room_cons.mp room
      obtain ⟨committed, taken⟩ := @commit_admitted store { driven with observations := next } _
        (observing.admits here unused) (room_cons.mpr ⟨fits, .inl rfl⟩) (stored 0 (Nat.succ_pos _))
      have stepped : observeEvent store nodeId number driven event =
          .ok { committed with logs := collectLog committed.logs event } :=
        require_bind_ok.mpr ⟨here, bind_ok.mpr ⟨_, compared, bind_ok.mpr ⟨_, taken, rfl⟩⟩⟩
      obtain ⟨_, ⟨dropped, _⟩ | ⟨kept, recorded, _⟩⟩ := observeEvent_ok stepped
      · rw [compared] at dropped
        cases dropped
      · have same := congrArg Prod.snd (Except.ok.inj (compared.symm.trans kept))
        have left : admitted _ rest = .ok others :=
          (congrArg (admitted · rest) same).symm.trans tail
        rw [Watch.run_ok stepped]
        refine ih (recorded.observing observing) (unused_first agrees kept).2 later left ?_ ?_
        · rw [recorded.state]
          exact more
        · intro n inside
          rw [recorded.commits, List.length_singleton, Nat.add_assoc, Nat.add_comm 1]
          exact stored (n + 1) (Nat.succ_lt_succ inside)

theorem collected_take (text : Bytes) :
    accepted.foldl collectLog (text.take logArtifactMaxBytes) =
      (text ++ accepted.flatMap logBytes).take logArtifactMaxBytes := by
  induction accepted generalizing text with
  | nil => rw [List.foldl_nil, List.flatMap_nil, List.append_nil]
  | cons event rest ih =>
    rw [List.foldl_cons, collectLog_take, ih, List.flatMap_cons, List.append_assoc]

theorem logBytes_others : events.flatMap logBytes =
    (events.filter fun event => !keyed event).flatMap logBytes := by
  induction events with
  | nil => rfl
  | cons event rest ih =>
    rw [List.flatMap_cons, List.filter_cons, ih]
    cases event <;> rfl

theorem Filtered.logs (filtered : Filtered filter events accepted) :
    accepted.foldl collectLog [] = (events.flatMap logBytes).take logArtifactMaxBytes := by
  have cut := @collected_take accepted []
  rw [List.take_nil, List.nil_append] at cut
  rw [cut, logBytes_others, filtered.others, ← logBytes_others]

namespace Ending
variable (ending : Ending Result Observation)

/-- The event that the last turn commits. -/
def payload? (nodeId : String) (number : Nat) : Option RunEventPayload :=
  match ending with
  | .timeout _ => some (.attemptTimeoutRequested nodeId number)
  | .control request _ => some (controlObservedPayload request)
  | _ => none

def batch (nodeId : String) (number : Nat) : List RunEventPayload :=
  (ending.payload? nodeId number).toList

/-- A request that ends the loop is one the store has taken in. -/
def Valid : Prop :=
  match ending with
  | .control request _ => EventValidation.payload (controlObservedPayload request) = true
  | _ => True

/-- Nothing outside the session fails in the last turn: the execution is collected, or it is
cancelled for the request. -/
def Answered : Prop :=
  match ending with
  | .result collected => ∃ result, collected = .ok result
  | .timeout _ => True
  | .control _ cancelled => ∃ observation, cancelled = .ok observation
  | .failed _ => False

end Ending

def RuntimeDriveOutcome.logs? : RuntimeDriveOutcome Result Observation → Option Bytes
  | .result _ logs | .timeout _ logs => some logs
  | .control .. => none

theorem Observing.timedOut (observing : Observing nodeId number none metadata usage state) :
    state.Admits (.attemptTimeoutRequested nodeId number) ∧
      Observing nodeId number (some { cancellation := none, lateStatus := none }) metadata usage
        (state.after (.attemptTimeoutRequested nodeId number)) := by
  obtain ⟨node, attempt, found, running, ⟨current, numbers, status⟩, timed, listed, used⟩ :=
    observing.attempt
  refine ⟨⟨observing.numbered, observing.live, node, found, running, attempt,
    ⟨current, numbers, status⟩, timed⟩, observing.live, observing.numbered,
    node.updateCurrent fun attempt =>
      { attempt with timeout := some { cancellation := none, lateStatus := none } },
    { attempt with timeout := some { cancellation := none, lateStatus := none } }, ?_, running,
    ⟨?_, numbers, status⟩, rfl, listed, used⟩
  · rw [after_node?, effect_node?]
    simp [RunEventPayload.nodeChange, found]
  · rw [updateCurrent_current, current]
    rfl

variable {ending : Ending Result Observation} {unconfirmed : Observation}
  {outcome : RuntimeDriveOutcome Result Observation}

/-- The reducer takes the event of the last turn. -/
theorem Observing.ends (observing : Observing nodeId number none metadata usage state)
    (valid : ending.Valid) (last : ending.payload? nodeId number = some payload) :
    state.Admits payload ∧ ∃ timeout, Observing nodeId number timeout metadata usage
      (state.after payload) ∧ (timeout.isSome = true ↔
        payload = .attemptTimeoutRequested nodeId number) := by
  cases ending with
  | result | failed => cases last
  | timeout =>
    obtain rfl := Option.some.inj last
    exact ⟨observing.timedOut.1, _, observing.timedOut.2, fun _ => rfl, fun _ => rfl⟩
  | control request =>
    obtain rfl := Option.some.inj last
    exact ⟨(observed_admits valid).mpr observing.live, none,
      ⟨observing.live, observing.numbered, observing.attempt⟩, nofun, nofun⟩

/-- The last turn leaves the session as it is, or it commits its event. -/
theorem endExecution_records {outcome : Except Failure (RuntimeDriveOutcome Result Observation)}
    (ended : endExecution store nodeId number unconfirmed driven ending = (final, outcome)) :
    (final = driven ∧ ((∃ result, outcome = .ok result) → ending.payload? nodeId number = none)) ∨
      ∃ payload, ending.payload? nodeId number = some payload ∧
        driven.commit store [payload] = .ok final := by
  cases ending with
  | result collected => exact .inl ⟨(Prod.mk.inj ended).1.symm, fun _ => rfl⟩
  | failed failure => exact .inl ⟨(Prod.mk.inj ended).1.symm, fun _ => rfl⟩
  | timeout cancelled =>
    rw [endExecution] at ended
    split at ended
    · rename_i committed stored
      obtain ⟨rfl, _⟩ := Prod.mk.inj ended
      exact .inr ⟨_, rfl, stored⟩
    · obtain ⟨rfl, rfl⟩ := Prod.mk.inj ended
      exact .inl ⟨rfl, nofun⟩
  | control control cancelled =>
    rw [endExecution] at ended
    split at ended
    · rename_i committed stored
      obtain ⟨rfl, _⟩ := Prod.mk.inj ended
      exact .inr ⟨_, rfl, stored⟩
    · obtain ⟨rfl, rfl⟩ := Prod.mk.inj ended
      exact .inl ⟨rfl, nofun⟩

theorem no_outcome {α : Type} {failure : Failure} :
    ¬∃ outcome : α, (.error failure : Except Failure α) = .ok outcome := by
  rintro ⟨_, finished⟩
  cases finished

theorem endExecution_answers :
    (∃ outcome, (endExecution store nodeId number unconfirmed driven ending).2 = .ok outcome) ↔
      ending.Answered ∧ ∀ payload, ending.payload? nodeId number = some payload →
        ∃ final, driven.commit store [payload] = .ok final := by
  cases ending with
  | result collected =>
    have silent (payload : RunEventPayload)
        (last : (none : Option RunEventPayload) = some payload) :
        ∃ final, driven.commit store [payload] = .ok final := by cases last
    cases collected with
    | error failure => exact iff_of_false no_outcome fun finishes => no_outcome finishes.1
    | ok result =>
      exact ⟨fun _ => ⟨⟨result, rfl⟩, silent⟩, fun _ => ⟨.result result driven.logs, rfl⟩⟩
  | failed failure => exact iff_of_false no_outcome fun finishes => finishes.1
  | timeout cancelled =>
    rw [endExecution, Ending.payload?]
    simp only [Option.some.injEq, forall_eq']
    cases stored : driven.commit store [.attemptTimeoutRequested nodeId number] with
    | error failure => exact iff_of_false no_outcome fun finishes => no_outcome finishes.2
    | ok committed => exact ⟨fun _ => ⟨trivial, committed, rfl⟩, fun _ => ⟨_, rfl⟩⟩
  | control control cancelled =>
    rw [endExecution, Ending.payload?]
    simp only [Option.some.injEq, forall_eq']
    cases stored : driven.commit store [controlObservedPayload control] with
    | error failure => exact iff_of_false no_outcome fun finishes => no_outcome finishes.2
    | ok committed =>
      cases cancelled with
      | error failure => exact iff_of_false no_outcome fun finishes => no_outcome finishes.1
      | ok observation =>
        exact ⟨fun _ => ⟨⟨observation, rfl⟩, committed, rfl⟩,
          fun _ => ⟨.control control observation, rfl⟩⟩

theorem endExecution_logs
    (ended : endExecution store nodeId number unconfirmed driven ending = (final, .ok outcome))
    (logs : Bytes) (shown : outcome.logs? = some logs) : logs = final.logs := by
  cases ending with
  | result collected =>
    cases collected with
    | error failure => cases ended
    | ok result =>
      obtain ⟨rfl, same⟩ := Prod.mk.inj ended
      obtain rfl := Except.ok.inj same
      exact (Option.some.inj shown).symm
  | failed failure => cases ended
  | timeout cancelled =>
    rw [endExecution] at ended
    split at ended
    · obtain ⟨rfl, same⟩ := Prod.mk.inj ended
      obtain rfl := Except.ok.inj same
      exact (Option.some.inj shown).symm
    · cases ended
  | control control cancelled =>
    rw [endExecution] at ended
    split at ended
    · cases cancelled with
      | error failure => cases ended
      | ok observation =>
        obtain ⟨_, same⟩ := Prod.mk.inj ended
        obtain rfl := Except.ok.inj same
        cases shown
    · cases ended

/-- What a drive leaves of the session, however it ends: the events that it has seen are recorded
as far as the filter lets them through, then the event of the last turn, if it came to that. -/
structure Drives (store : Nat → Except Failure Unit) (nodeId : String) (number : Nat)
    (metadata : List RuntimeMetadata) (events : List RuntimeEvent)
    (ending : Ending Result Observation) (driven final : Driven)
    (outcome : Except Failure (RuntimeDriveOutcome Result Observation))
    (seen accepted : List RuntimeEvent) (last : List RunEventPayload)
    (timeout : Option TimeoutState) : Prop where
  begun : seen <+: events
  passed : admitted ⟨[], false⟩ seen = .ok accepted
  turn : last = [] ∨ last = ending.batch nodeId number
  recorded : Recorded store (accepted.map (observedPayload nodeId number) ++ last) driven final
  observing : Observing nodeId number timeout (metadata ++ accepted.filterMap metadataOf)
    (usageAfter none accepted) final.state
  timed : timeout.isSome = true ↔ last = [.attemptTimeoutRequested nodeId number]
  logs : final.logs = (seen.flatMap logBytes).take logArtifactMaxBytes
  finished : ∀ result, outcome = .ok result → seen = events ∧ last = ending.batch nodeId number ∧
    (∀ event ∈ events, event.valid = true) ∧ ending.Answered ∧
    ∀ text, result.logs? = some text → text = final.logs

/-- What becomes of the events of an attempt that has reported no usage yet. -/
structure Accounted (store : Nat → Except Failure Unit) (nodeId : String) (number : Nat)
    (unconfirmed : Observation) (metadata : List RuntimeMetadata) (driven : Driven)
    (events : List RuntimeEvent) (ending : Ending Result Observation) : Prop where
  finishes :
    (∃ outcome, (driveExecution store nodeId number unconfirmed driven events ending).2 =
      .ok outcome) ↔
    (∀ event ∈ events, event.valid = true) ∧ ending.Answered ∧
      ∃ accepted, admitted ⟨[], false⟩ events = .ok accepted ∧
        driven.state.HasRoom
          (accepted.map (observedPayload nodeId number) ++ ending.batch nodeId number) ∧
        ∀ n < (accepted.map (observedPayload nodeId number) ++ ending.batch nodeId number).length,
          store (driven.commits + n) = .ok ()
  filtered : ∀ seen accepted, admitted ⟨[], false⟩ seen = .ok accepted →
    Filtered ⟨[], false⟩ seen accepted
  refused : (∃ failure, admitted ⟨[], false⟩ events = .error failure) →
    ∃ event ∈ events, ∃ other ∈ events, reportsUsage event = true ∧
      reportsUsage other = true ∧ identity other ≠ identity event
  drives : ∃ seen accepted last timeout, Drives store nodeId number metadata events ending driven
    (driveExecution store nodeId number unconfirmed driven events ending).1
    (driveExecution store nodeId number unconfirmed driven events ending).2
    seen accepted last timeout

theorem batch_some (last : ending.payload? nodeId number = some payload) :
    ending.batch nodeId number = [payload] := by
  rw [Ending.batch, last]
  rfl

theorem finishes_of (observing : Observing nodeId number none metadata none driven.state)
    (fresh : driven.observations = ⟨[], false⟩) (valid : ending.Valid)
    (every : ∀ event ∈ events, event.valid = true) (answered : ending.Answered)
    (passed : admitted ⟨[], false⟩ events = .ok accepted)
    (room : driven.state.HasRoom
      (accepted.map (observedPayload nodeId number) ++ ending.batch nodeId number))
    (stored : ∀ n < (accepted.map (observedPayload nodeId number) ++
      ending.batch nodeId number).length, store (driven.commits + n) = .ok ()) :
    ∃ outcome, (driveExecution store nodeId number unconfirmed driven events ending).2 =
      .ok outcome := by
  rw [← fresh] at passed
  obtain ⟨fits, more⟩ := room_append.mp room
  obtain ⟨taken, ends⟩ := stored_append.mp stored
  rw [List.length_map] at taken
  have agrees : driven.observations.usageSeen = (none : Option RuntimeUsage).isSome :=
    congrArg RuntimeObservationFilter.usageSeen fresh
  obtain ⟨observed, looped⟩ := run_succeeds observing agrees every passed fits taken
  obtain ⟨seen, again, _, whole, same, kept⟩ := run_observed observing agrees looped
  obtain ⟨rfl, _⟩ := whole rfl
  obtain rfl := Except.ok.inj (passed.symm.trans same)
  rw [driveExecution, looped]
  refine endExecution_answers.mpr ⟨answered, fun payload last => ?_⟩
  rw [batch_some last] at more ends
  rw [← kept.recorded.state] at more
  rw [← kept.recorded.commits] at ends
  exact commit_admitted (kept.observing.ends valid last).1 more (ends 0 Nat.one_pos)

theorem endExecution_drives {seen accepted : List RuntimeEvent}
    {outcome : Except Failure (RuntimeDriveOutcome Result Observation)} (valid : ending.Valid)
    (every : ∀ event ∈ seen, event.valid = true)
    (passed : admitted ⟨[], false⟩ seen = .ok accepted)
    (observed : Observed store nodeId number none metadata none accepted driven middle)
    (collected : middle.logs = (seen.flatMap logBytes).take logArtifactMaxBytes)
    (ended : endExecution store nodeId number unconfirmed middle ending = (final, outcome)) :
    ∃ last timeout, Drives store nodeId number metadata seen ending driven final outcome seen
      accepted last timeout := by
  have answered (result : RuntimeDriveOutcome Result Observation)
      (finished : outcome = .ok result) : ending.Answered ∧
        ∀ text, result.logs? = some text → text = final.logs := by
    rw [finished] at ended
    have done : ∃ outcome, (endExecution store nodeId number unconfirmed middle ending).2 =
        .ok outcome := ⟨result, congrArg Prod.snd ended⟩
    exact ⟨(endExecution_answers.mp done).1, endExecution_logs ended⟩
  rcases endExecution_records ended with ⟨rfl, idle⟩ | ⟨payload, last, committed⟩
  · refine ⟨[], none, List.prefix_rfl, passed, .inl rfl, ?_, observed.observing, ⟨nofun, nofun⟩,
      collected, fun result finished => ⟨rfl, ?_, every, answered result finished⟩⟩
    · rw [List.append_nil]
      exact observed.recorded
    · rw [Ending.batch, idle ⟨result, finished⟩]
      rfl
  · obtain ⟨recorded, logs, _⟩ := commit_ok committed
    obtain ⟨_, timeout, observing, timed⟩ := observed.observing.ends valid last
    refine ⟨[payload], timeout, List.prefix_rfl, passed, .inr (batch_some last).symm,
      observed.recorded.next recorded, ?_, ?_, logs.trans collected,
      fun result finished => ⟨rfl, (batch_some last).symm, every, answered result finished⟩⟩
    · rw [recorded.state]
      exact observing
    · rw [timed, List.singleton_inj]

theorem driveExecution_drives (observing : Observing nodeId number none metadata none driven.state)
    (fresh : driven.observations = ⟨[], false⟩) (silent : driven.logs = [])
    (valid : ending.Valid) : ∃ seen accepted last timeout,
      Drives store nodeId number metadata events ending driven
        (driveExecution store nodeId number unconfirmed driven events ending).1
        (driveExecution store nodeId number unconfirmed driven events ending).2
        seen accepted last timeout := by
  have agrees : driven.observations.usageSeen = (none : Option RuntimeUsage).isSome :=
    congrArg RuntimeObservationFilter.usageSeen fresh
  rw [driveExecution]
  cases ran : Watch.run (observeEvent store nodeId number) driven events with
  | mk observed failure =>
    obtain ⟨seen, accepted, grown, whole, passed, kept⟩ := run_observed observing agrees ran
    rw [fresh] at passed
    have collected : observed.logs = (seen.flatMap logBytes).take logArtifactMaxBytes := by
      rw [kept.logs, silent, (admitted_filtered passed).logs]
    cases failure with
    | some failure =>
      refine ⟨seen, accepted, [], none, grown, passed, .inl rfl, ?_, kept.observing,
        ⟨nofun, nofun⟩, collected, nofun⟩
      rw [List.append_nil]
      exact kept.recorded
    | none =>
      obtain ⟨rfl, every⟩ := whole rfl
      exact ⟨seen, accepted, endExecution_drives valid every passed kept collected rfl⟩

/-- Whatever a runtime reports of a running attempt, whatever the store answers and however the
loop ends: the reducer takes every event that the filter lets through, so that only an invalid
event, a second report of usage, the end of the sequence numbers or a failure outside stops the
loop; what it has seen by then is recorded, each piece of metadata and the usage once and all
other events in their order; and the log artifact is the beginning of the log, cut at its
bound. -/
theorem drive_accounted (store : Nat → Except Failure Unit) (nodeId : String) (number : Nat)
    (unconfirmed : Observation) (metadata : List RuntimeMetadata) (state : RunState)
    (history : List RunEvent) (observing : Observing nodeId number none metadata none state)
    (events : List RuntimeEvent) (ending : Ending Result Observation) (valid : ending.Valid) :
    Accounted store nodeId number unconfirmed metadata { state, events := history } events
      ending := by
  have drives := @driveExecution_drives Result Observation events nodeId number metadata store
    { state, events := history } ending unconfirmed observing rfl rfl valid
  refine ⟨⟨?_, ?_⟩, fun _ _ => admitted_filtered, ?_, drives⟩
  · rintro ⟨outcome, finished⟩
    obtain ⟨seen, accepted, last, timeout, drives⟩ := drives
    obtain ⟨rfl, rfl, every, answered, _⟩ := drives.finished outcome finished
    exact ⟨every, answered, accepted, drives.passed, drives.recorded.room, drives.recorded.stored⟩
  · rintro ⟨every, answered, accepted, passed, room, stored⟩
    exact finishes_of observing rfl valid every answered passed room stored
  · intro refused
    obtain ⟨event, member, usage, _, used | ⟨other, inside, found⟩⟩ := admitted_refused refused
    · cases used
    · exact ⟨event, member, other, inside, usage, found⟩

namespace ObservedSample

def started : List RunEvent :=
  numbered "run" [.runCreated "instance" "workflow" "1.0.0" ["build"] [],
    .nodeReady "build" .dependenciesSatisfied, .attemptScheduled "build" 1 "runtime",
    .attemptStarted "build" 1]

def attempt : AttemptState := { number := 1, runtimeId := "runtime", status := .running }

def node : NodeRunState := { id := "build", status := .running, attempts := [attempt] }

def running : RunState :=
  { runId := "run", workflowInstanceId := "instance", workflowId := "workflow",
    workflowVersion := "1.0.0", status := .running, sequence := 4, inputs := [], nodes := [node] }

theorem started_replayed : replayRun started = .ok running := by decide +kernel

def model : RuntimeMetadata :=
  { provider := "provider", model := "model", source := none, runtimeVersion := none }

def tokens : RuntimeUsage :=
  { coverage := .complete, inputTokens := some 3, outputTokens := none, cacheReadTokens := none,
    cacheWriteTokens := none, reasoningTokens := none, totalTokens := none }

def reported : List RuntimeEvent :=
  [.started, .metadata model, .log "hello" none, .usage tokens, .metadata model, .usage tokens]

/-- The deadline passes, and the cancellation is rejected. -/
def deadline : Ending Unit Bool := .timeout (.error (.error "unreachable"))

theorem observing : Observing "build" 1 none [] none running :=
  ⟨rfl, rfl, node, attempt, by decide, rfl, ⟨by decide, rfl, rfl⟩, rfl, rfl, rfl⟩

/-- Metadata reported twice and usage with it, up to the deadline. -/
theorem drive_accounted_deadline : replayRun started = .ok running ∧
    (admitted ⟨[], false⟩ reported).toOption = some (reported.take 4) ∧
    Accounted (fun _ => .ok ()) "build" 1 false [] { state := running, events := started }
      reported deadline :=
  ⟨started_replayed, by decide +kernel,
    drive_accounted (fun _ => .ok ()) "build" 1 false [] running started observing reported
      deadline trivial⟩

end ObservedSample

end Anastom.ObservedExecution
