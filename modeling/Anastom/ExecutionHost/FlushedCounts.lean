import Anastom.ExecutionHost.EventTurns

/-! What a flush leaves of a queue. While logs are pending the queue holds no summary, so the
one that the flush adds takes them and the oldest logs that have to go for it. -/
namespace Anastom
namespace RetainedEvents

/-- The events without their oldest logs. -/
def withoutOldest : Nat → List RuntimeEvent → List RuntimeEvent
  | 0, events => events
  | count + 1, events => withoutOldest count (events.eraseP RuntimeEvent.isLog)

/-- A pending count with the oldest logs and what they count, as doubles are added. -/
def summed (pending count : Nat) (events : List RuntimeEvent) : Nat :=
  ((events.filter RuntimeEvent.isLog).take count).foldl
    (fun total log => Doubles.add total (Doubles.add log.dropped 1)) pending

/-- The events with a summary of the pending logs and of the oldest ones. -/
def summarized (pending : Nat) (events : List RuntimeEvent) (count : Nat) : List RuntimeEvent :=
  withoutOldest count events ++ [.log truncatedLogMessage (some (summed pending count events))]

/-- The number of oldest logs that have to go for the summary of the pending ones. -/
structure MakesRoom (pending : Nat) (events : List RuntimeEvent) (count : Nat) : Prop where
  some : count ≤ events.countP RuntimeEvent.isLog
  room : overflows (summarized pending events count) = false
  least : ∀ fewer < count, overflows (summarized pending events fewer) = true

variable {queue next : RetainedEvents} {event : RuntimeEvent} {events : List RuntimeEvent}
  {pending count : Nat}

theorem MakesRoom.unique {other : Nat} (one : MakesRoom pending events count)
    (two : MakesRoom pending events other) : count = other := by
  rcases Nat.lt_trichotomy count other with less | same | more
  · exact absurd ((two.least count less).symm.trans one.room) (by decide)
  · exact same
  · exact absurd ((one.least other more).symm.trans two.room) (by decide)

theorem filter_first (found : events.find? RuntimeEvent.isLog = some event) :
    events.filter RuntimeEvent.isLog =
      event :: (events.eraseP RuntimeEvent.isLog).filter RuntimeEvent.isLog := by
  obtain ⟨log, before, after, rfl, others⟩ := List.find?_eq_some_iff_append.mp found
  have none : ∀ other ∈ before, ¬RuntimeEvent.isLog other = true := by simpa using others
  rw [List.eraseP_append_right _ none, List.eraseP_cons_of_pos log, List.filter_append,
    List.filter_append, List.filter_cons_of_pos log, List.filter_eq_nil_iff.mpr none]
  rfl

theorem summed_first (found : events.find? RuntimeEvent.isLog = some event) :
    summed pending (count + 1) events =
      summed (Doubles.add pending (Doubles.add event.dropped 1)) count
        (events.eraseP RuntimeEvent.isLog) := by
  rw [summed, filter_first found, List.take_succ_cons, List.foldl_cons]
  rfl

theorem summarized_first (found : events.find? RuntimeEvent.isLog = some event) :
    summarized pending events (count + 1) =
      summarized (Doubles.add pending (Doubles.add event.dropped 1))
        (events.eraseP RuntimeEvent.isLog) count := by
  rw [summarized, summed_first found]
  rfl

theorem countP_first (found : events.find? RuntimeEvent.isLog = some event) :
    events.countP RuntimeEvent.isLog =
      (events.eraseP RuntimeEvent.isLog).countP RuntimeEvent.isLog + 1 := by
  rw [List.countP_eq_length_filter, filter_first found, List.length_cons,
    ← List.countP_eq_length_filter]

/-- One log less has to go after the oldest one. -/
theorem makesRoom_first (found : events.find? RuntimeEvent.isLog = some event)
    (full : overflows (summarized pending events 0) = true) :
    MakesRoom pending events (count + 1) ↔
      MakesRoom (Doubles.add pending (Doubles.add event.dropped 1))
        (events.eraseP RuntimeEvent.isLog) count := by
  have total := countP_first found
  constructor
  · rintro ⟨some, room, least⟩
    rw [summarized_first found] at room
    refine ⟨by omega, room, fun fewer less => ?_⟩
    rw [← summarized_first found]
    exact least (fewer + 1) (Nat.succ_lt_succ less)
  · rintro ⟨some, room, least⟩
    refine ⟨by omega, ?_, fun fewer less => ?_⟩
    · rw [summarized_first found]
      exact room
    · cases fewer with
      | zero => exact full
      | succ fewer =>
        rw [summarized_first found]
        exact least fewer (Nat.lt_of_succ_lt_succ less)

theorem summarized_zero (pending : Nat) (events : List RuntimeEvent) :
    summarized pending events 0 = events ++ [.log truncatedLogMessage (some pending)] := by
  rw [summarized, summed, List.take_zero]
  rfl

/-- The events that a queue ends with, of its events and its pending count. -/
inductive Flushed (pending : Nat) (events : List RuntimeEvent) : List RuntimeEvent → Prop
  | summary {count : Nat} (room : MakesRoom pending events count) :
      Flushed pending events (summarized pending events count)
  | none (full : ∀ count, ¬MakesRoom pending events count) :
      Flushed pending events (required events)

theorem Flushed.eq_summarized {after : List RuntimeEvent} (flushed : Flushed pending events after)
    (room : MakesRoom pending events count) : after = summarized pending events count := by
  cases flushed with
  | summary other => rw [other.unique room]
  | none none => exact absurd room (none count)

theorem Flushed.first {after : List RuntimeEvent}
    (found : events.find? RuntimeEvent.isLog = some event)
    (full : overflows (summarized pending events 0) = true)
    (flushed : Flushed (Doubles.add pending (Doubles.add event.dropped 1))
      (events.eraseP RuntimeEvent.isLog) after) : Flushed pending events after := by
  cases flushed with
  | summary room =>
    rw [← summarized_first found]
    exact .summary ((makesRoom_first found full).mpr room)
  | none none =>
    rw [required_eraseP]
    refine .none fun count room => ?_
    cases count with
    | zero => exact absurd (full.symm.trans room.room) (by decide)
    | succ count => exact none count ((makesRoom_first found full).mp room)

/-- A queue whose last event is the summary of the pending logs. -/
def summarizedQueue (events : List RetainedEvent) (last ordinal pending : Nat) : RetainedEvents :=
  ⟨events ++ [⟨last, .log truncatedLogMessage (some pending)⟩], ordinal, 0⟩

theorem observed_summarizedQueue (events : List RetainedEvent) (last ordinal pending : Nat) :
    (summarizedQueue events last ordinal pending).observed =
      summarized pending (events.map RetainedEvent.event) 0 := by
  rw [summarized_zero, RetainedEvents.observed, summarizedQueue, List.map_append]
  rfl

theorem turn_summarizedQueue {events : List RetainedEvent} {last ordinal : Nat}
    {removed : RetainedEvent} (silent : ∀ value ∈ events, isSummary value.event = false)
    (found : events.find? (·.event.isLog) = some removed) :
    turn removed (summarizedQueue events last ordinal pending) =
      summarizedQueue (events.eraseP (·.event.isLog)) last ordinal
        (Doubles.add pending (Doubles.add removed.event.dropped 1)) := by
  have log : removed.event.isLog = true := by simpa using List.find?_some found
  have erased := @List.eraseP_append_left _ (·.event.isLog) removed log events
    [⟨last, .log truncatedLogMessage (some pending)⟩] (List.mem_of_find?_eq_some found)
  rw [turn, summarizedQueue, erased]
  exact account_last fun value listed => silent value (List.mem_of_mem_eraseP listed)

/-- Without a log before it the summary goes, and is counted for a later one. -/
theorem turn_lastSummary {events : List RetainedEvent} {last ordinal : Nat}
    (silent : ∀ value ∈ events, isSummary value.event = false)
    (none : events.find? (·.event.isLog) = none) :
    turn ⟨last, .log truncatedLogMessage (some pending)⟩
        (summarizedQueue events last ordinal pending) =
      ⟨events, ordinal, Doubles.add 0 (Doubles.add pending 1)⟩ := by
  have noLog : ∀ value ∈ events, ¬value.event.isLog = true := by
    simpa using List.find?_eq_none.mp none
  have erased := @List.eraseP_append_right _ (·.event.isLog) events
    [⟨last, .log truncatedLogMessage (some pending)⟩] (by simpa using noLog)
  rw [turn, summarizedQueue, erased, List.eraseP_cons_of_pos rfl, List.append_nil]
  refine account_silent fun event listed => ?_
  obtain ⟨value, member, rfl⟩ := List.mem_map.mp listed
  exact silent value member

/-- The induction is on the turns that are left. Each drops the oldest log, or at last the
summary, where no log is before it. -/
theorem dropLogs_summary {fuel last ordinal : Nat} {events : List RetainedEvent}
    (silent : ∀ value ∈ events, isSummary value.event = false)
    (fits : overflows (required (events.map RetainedEvent.event)) = false)
    (enough : (events.map RetainedEvent.event).countP RuntimeEvent.isLog + 1 < fuel) :
    ∃ after, dropLogs fuel (summarizedQueue events last ordinal pending) = (.ok (), after) ∧
      Flushed pending (events.map RetainedEvent.event) after.observed := by
  induction fuel generalizing pending events with
  | zero => exact absurd enough (Nat.not_lt_zero _)
  | succ fuel ih =>
    have observed := observed_summarizedQueue events last ordinal pending
    cases full : overflows (summarized pending (events.map RetainedEvent.event) 0) with
    | false =>
      refine ⟨_, dropLogs_room (observed ▸ full), ?_⟩
      rw [observed]
      exact .summary ⟨Nat.zero_le _, full, fun _ less => absurd less (Nat.not_lt_zero _)⟩
    | true =>
      cases found : events.find? (·.event.isLog) with
      | some removed =>
        have first : (events.map RetainedEvent.event).find? RuntimeEvent.isLog =
            some removed.event := by
          rw [List.find?_map]
          exact congrArg (Option.map RetainedEvent.event) found
        have drops : Drops (summarizedQueue events last ordinal pending) removed := by
          refine ⟨observed ▸ full, ?_⟩
          rw [summarizedQueue, List.find?_append, found]
          rfl
        have erased := map_eraseP events
        have fewer := countP_first first
        have rest := @ih (Doubles.add pending (Doubles.add removed.event.dropped 1))
          (events.eraseP (·.event.isLog))
        rw [erased, required_eraseP] at rest
        obtain ⟨after, ran, flushed⟩ := rest
          (fun value listed => silent value (List.mem_of_mem_eraseP listed)) fits (by omega)
        refine ⟨after, ?_, .first first full flushed⟩
        rw [dropLogs_drops drops, turn_summarizedQueue silent found, ran]
      | none =>
        have others : ∀ event ∈ events.map RetainedEvent.event, event.isLog = false := by
          intro event listed
          obtain ⟨value, member, rfl⟩ := List.mem_map.mp listed
          simpa using List.find?_eq_none.mp found value member
        have noLog := required_of_noLog others
        have zero : (events.map RetainedEvent.event).countP RuntimeEvent.isLog = 0 :=
          List.countP_eq_zero.mpr fun event listed => Bool.eq_false_iff.mp (others event listed)
        have drops : Drops (summarizedQueue events last ordinal pending)
            ⟨last, .log truncatedLogMessage (some pending)⟩ := by
          refine ⟨observed ▸ full, ?_⟩
          rw [summarizedQueue, List.find?_append, found]
          rfl
        obtain ⟨rest, rfl⟩ : ∃ rest, fuel = rest + 1 := ⟨fuel - 1, by omega⟩
        refine ⟨⟨events, ordinal, Doubles.add 0 (Doubles.add pending 1)⟩, ?_, ?_⟩
        · rw [dropLogs_drops drops, turn_lastSummary silent found]
          rw [noLog] at fits
          exact dropLogs_room fits
        · have last : Flushed pending (events.map RetainedEvent.event)
              (required (events.map RetainedEvent.event)) := by
            refine .none fun count room => ?_
            obtain rfl := Nat.le_zero.mp (zero ▸ room.some)
            exact absurd (full.symm.trans room.room) (by decide)
          rwa [noLog] at last

/-- Pending logs are counted outside of the queue only while no summary is in it. -/
def Silent (queue : RetainedEvents) : Prop :=
  1 ≤ queue.droppedLogs → ∀ event ∈ queue.observed, isSummary event = false

theorem Silent.sublist {other : RetainedEvents} (silent : queue.Silent)
    (same : other.droppedLogs = queue.droppedLogs)
    (fewer : other.observed.Sublist queue.observed) : other.Silent :=
  fun some event listed => silent (same ▸ some) event (fewer.subset listed)

theorem Silent.turn {removed : RetainedEvent} (silent : queue.Silent) :
    (turn removed queue).Silent := by
  have erased : Silent { queue with events := queue.events.eraseP (·.event.isLog) } :=
    silent.sublist rfl (List.eraseP_sublist.map _)
  rw [RetainedEvents.turn]
  revert erased
  generalize ({ queue with events := queue.events.eraseP (·.event.isLog) } : RetainedEvents) = rest
  intro erased
  rw [account]
  split
  case isTrue summary =>
    intro some
    obtain ⟨value, listed, summary⟩ := List.any_eq_true.mp summary
    have other := erased some value.event (List.mem_map_of_mem listed)
    exact absurd (other.symm.trans summary) (by decide)
  case isFalse none =>
    intro _ event listed
    obtain ⟨value, member, rfl⟩ := List.mem_map.mp listed
    rw [List.any_eq_true, not_exists] at none
    exact Bool.eq_false_iff.mpr fun summary => none value ⟨member, summary⟩

theorem eachTurn_any {fuel : Nat} : EachTurn (fun _ _ => True) fuel queue := by
  induction fuel generalizing queue with
  | zero => trivial
  | succ fuel ih => exact fun _ _ => ⟨trivial, ih⟩

theorem Silent.trim {value : RetainedEvent} (few : (required queue.observed).length ≤ 16)
    (pushed : next.events = queue.events ++ [value]) (silent : next.Silent) :
    (trimEvents next).2.Silent :=
  trimEvents_rule Silent (fun _ _ silent _ _ => silent.turn)
    (fun _ _ silent _ _ => silent.sublist rfl ((List.dropLast_sublist _).map _))
    few pushed silent fun _ => eachTurn_any

theorem Silent.flush (few : (required queue.observed).length ≤ 16) (silent : queue.Silent) :
    (flushDroppedLogs queue).2.Silent := by
  rcases Nat.eq_zero_or_pos queue.droppedLogs with none | some
  · rw [flushDroppedLogs_none none]
    exact silent
  · rw [flushDroppedLogs_some some]
    exact Silent.trim few (summarize_events queue) fun some => absurd some (Nat.not_lt_zero _)

theorem Silent.retain (silent : queue.Silent) : (retain event queue).Silent := by
  rw [RetainedEvents.retain]
  split
  case isTrue => exact fun some => absurd some (Nat.not_lt_zero _)
  case isFalse plain =>
    intro some other listed
    rw [observed_push] at listed
    rcases List.mem_append.mp listed with old | new
    · exact silent some other old
    · rw [List.mem_singleton.mp new]
      cases event with
      | log message droppedLogs => exact absurd ⟨rfl, some⟩ plain
      | _ => rfl

end RetainedEvents

theorem RetainedEvents.Reachable.silent {queue : RetainedEvents} (reached : queue.Reachable) :
    queue.Silent := by
  induction reached with
  | empty => exact fun some => absurd some (Nat.not_lt_zero _)
  | @append queue event reached accepted ih =>
    have bounded := reached.bounded
    have fits : queue.Fits := ⟨bounded.required, bounded.fits⟩
    have flushed : (flushedFor event queue).Silent := by
      rw [flushedFor]
      split
      · exact ih.flush bounded.required
      · exact ih
    rw [appendEvent_eq fits]
    exact .trim (flushedFor_fits event fits).required (retain_events event _) flushed.retain

namespace RetainedEvents
variable {queue : RetainedEvents}

/-- A flush of a queue that a supervisor can hold. -/
theorem flushDroppedLogs_reached (reached : queue.Reachable) (some : 1 ≤ queue.droppedLogs) :
    ∃ after, flushDroppedLogs queue = (.ok (), after) ∧
      Flushed queue.droppedLogs queue.observed after.observed := by
  have bounded := reached.bounded
  have few : (required queue.summarize.observed).length ≤ 16 := by
    rw [required_observed, kept_log (summarize_events queue) rfl, ← required_observed]
    exact bounded.required
  have fits : overflows (required (queue.events.map RetainedEvent.event)) = false :=
    overflows_sublist (required_sublist _) bounded.fits
  have enough := enough queue
  rw [flushDroppedLogs_some some, trimEvents_few few, summarize_events, List.length_append]
  refine dropLogs_summary (fun value listed => ?_) fits (Nat.succ_lt_succ enough)
  exact reached.silent some value.event (List.mem_map_of_mem listed)

/-- The counts of dropped logs that a record of a queue carries, where its events may take so
many bytes, can be read back: those of the queue or, with logs pending, those of its logs
beside the oldest ones that have to go, and the sum of all others. -/
structure CountsSafe (queue : RetainedEvents) (room : Nat) : Prop where
  held : queue.droppedLogs = 0 → eventBytes queue.observed ≤ room →
    ∀ event ∈ queue.observed, event.dropped ≤ maxSafeInteger
  pending : ∀ count, 1 ≤ queue.droppedLogs → MakesRoom queue.droppedLogs queue.observed count →
    eventBytes (summarized queue.droppedLogs queue.observed count) ≤ room →
    (∀ event ∈ withoutOldest count queue.observed, event.dropped ≤ maxSafeInteger) ∧
      summed queue.droppedLogs count queue.observed ≤ maxSafeInteger

theorem countsSafe_iff (reached : queue.Reachable) {after : RetainedEvents}
    (ran : flushDroppedLogs queue = (.ok (), after)) {room : Nat} :
    queue.CountsSafe room ↔ (eventBytes after.observed ≤ room →
      ∀ event ∈ after.observed, event.dropped ≤ maxSafeInteger) := by
  rcases Nat.eq_zero_or_pos queue.droppedLogs with none | some
  · rw [flushDroppedLogs_none none] at ran
    obtain rfl := (Prod.mk.inj ran).2
    exact ⟨fun safe => safe.held none, fun safe => ⟨fun _ => safe, fun _ some => by omega⟩⟩
  · obtain ⟨other, ran', flushed⟩ := flushDroppedLogs_reached reached some
    obtain rfl := (Prod.mk.inj (ran.symm.trans ran')).2
    generalize after.observed = events at flushed
    cases flushed with
    | @summary count room =>
      have members : (∀ event ∈ summarized queue.droppedLogs queue.observed count,
            event.dropped ≤ maxSafeInteger) ↔
          (∀ event ∈ withoutOldest count queue.observed, event.dropped ≤ maxSafeInteger) ∧
            summed queue.droppedLogs count queue.observed ≤ maxSafeInteger := by
        rw [summarized, List.forall_mem_append, List.forall_mem_singleton]
        rfl
      rw [members]
      refine ⟨fun safe => safe.pending count some room, fun safe => ⟨fun none => by omega, ?_⟩⟩
      intro count' _ room'
      rw [room'.unique room]
      exact safe
    | none full =>
      refine iff_of_true ⟨fun none => by omega, fun count _ room => absurd room (full count)⟩ ?_
      intro _ event listed
      have other : event.isLog = false := by simpa using (List.mem_filter.mp listed).2
      cases event with
      | log message droppedLogs => cases other
      | _ => exact Nat.zero_le _

theorem mem_withoutOldest {event : RuntimeEvent} {count : Nat} {events : List RuntimeEvent}
    (listed : event ∈ withoutOldest count events) : event ∈ events := by
  induction count generalizing events with
  | zero => exact listed
  | succ count ih => exact List.mem_of_mem_eraseP (ih listed)

/-- Logs without a count are summed up exactly. -/
theorem summed_plain {pending count : Nat} {events : List RuntimeEvent}
    (plain : ∀ event ∈ events, event.dropped = 0) (small : pending + count < 2 ^ 53) :
    summed pending count events ≤ pending + count := by
  have sum : ∀ (logs : List RuntimeEvent) (total : Nat), (∀ log ∈ logs, log.dropped = 0) →
      total + logs.length < 2 ^ 53 →
      logs.foldl (fun total log => Doubles.add total (Doubles.add log.dropped 1)) total =
        total + logs.length := by
    intro logs
    induction logs with
    | nil => exact fun _ _ _ => rfl
    | cons log rest ih =>
      intro total plain small
      rw [List.length_cons] at small
      have one : Doubles.add 0 1 = 1 := by decide
      rw [List.foldl_cons, plain log List.mem_cons_self, one, Doubles.add_exact (by omega),
        ih _ (fun other listed => plain other (List.mem_cons_of_mem _ listed)) (by omega),
        List.length_cons]
      omega
  have length := List.length_take_le count (events.filter RuntimeEvent.isLog)
  rw [summed, sum _ _ ?_ (by omega)]
  · omega
  · exact fun log listed => plain log (List.mem_of_mem_filter (List.mem_of_mem_take listed))

end RetainedEvents
end Anastom
