import Anastom.ExecutionHost.EventBounds

/-! The trimming of the retained queue, turn by turn: which events it leaves in their places,
and the rule by which an invariant of one turn carries over to the whole loop. -/
namespace Anastom

def RuntimeEvent.isCompleted : RuntimeEvent → Bool
  | .completed _ => true
  | _ => false

namespace RetainedEvents

variable {queue next : RetainedEvents} {removed : RetainedEvent} {event : RuntimeEvent}

/-- One turn of the loop, which drops the log `removed` and accounts for it. -/
def turn (removed : RetainedEvent) (queue : RetainedEvents) : RetainedEvents :=
  account (Doubles.add removed.event.dropped 1)
    { queue with events := queue.events.eraseP (·.event.isLog) }

/-- `events.pop()` -/
def pop (queue : RetainedEvents) : RetainedEvents :=
  { queue with events := queue.events.dropLast }

def ordinals (queue : RetainedEvents) : List Nat := queue.events.map RetainedEvent.ordinal

/-- The retained events that trimming never drops. -/
def kept (queue : RetainedEvents) : List RetainedEvent := queue.events.filter (!·.event.isLog)

theorem required_observed (queue : RetainedEvents) :
    required queue.observed = queue.kept.map RetainedEvent.event := by
  rw [required, observed, List.filter_map, kept]
  rfl

/-- The oldest log of a queue that is past its bounds. -/
def Drops (queue : RetainedEvents) (removed : RetainedEvent) : Prop :=
  overflows queue.observed = true ∧ queue.events.find? (·.event.isLog) = some removed

/-- What holds before each turn of the loop. -/
def EachTurn (Holds : RetainedEvents → RetainedEvent → Prop) : Nat → RetainedEvents → Prop
  | 0, _ => True
  | fuel + 1, queue => ∀ removed, Drops queue removed →
    Holds queue removed ∧ EachTurn Holds fuel (turn removed queue)

/-- What holds before each turn of `trimEvents`. -/
def TrimsWhile (Holds : RetainedEvents → RetainedEvent → Prop) (queue : RetainedEvents) : Prop :=
  (required queue.observed).length ≤ 16 → EachTurn Holds (queue.events.length + 1) queue

theorem Drops.log (drops : Drops queue removed) : removed.event.isLog = true := by
  simpa using List.find?_some drops.2

theorem Drops.mem (drops : Drops queue removed) : removed ∈ queue.events :=
  List.mem_of_find?_eq_some drops.2

/-- The events before the oldest log are no logs. -/
theorem Drops.split (drops : Drops queue removed) : ∃ before after,
    queue.events = before ++ removed :: after ∧ (∀ value ∈ before, value.event.isLog = false) ∧
    queue.events.eraseP (·.event.isLog) = before ++ after := by
  obtain ⟨log, before, after, split, others⟩ := List.find?_eq_some_iff_append.mp drops.2
  have noLogs : ∀ value ∈ before, value.event.isLog = false := by
    intro value member
    simpa using others value member
  refine ⟨before, after, split, noLogs, ?_⟩
  rw [split, List.eraseP_append_right _ (by simpa using noLogs)]
  exact congrArg (before ++ ·) (List.eraseP_cons_of_pos log)

theorem dropLogs_drops {fuel : Nat} (drops : Drops queue removed) :
    dropLogs (fuel + 1) queue = dropLogs fuel (turn removed queue) :=
  dropLogs_turn drops.1 drops.2

theorem dropLogs_empty {fuel : Nat} (full : overflows queue.observed = true)
    (none : queue.events.find? (·.event.isLog) = none) :
    dropLogs (fuel + 1) queue =
      (.error (.error "Non-log runtime observations exceeded the supervisor bound"),
        pop queue) := by
  conv_lhs => unfold dropLogs
  simp only [full, if_true, none]
  rfl

/-- A full queue without logs ends with an event that is no log. -/
theorem last_of_noLog (full : overflows queue.observed = true)
    (none : queue.events.find? (·.event.isLog) = none) :
    ∃ last, queue.events.getLast? = some last ∧ last.event.isLog = false := by
  cases last : queue.events.getLast? with
  | none =>
    have nothing : queue.observed = [] := by
      rw [observed, List.getLast?_eq_none_iff.mp last]
      rfl
    rw [nothing] at full
    have room : overflows [] = false :=
      overflows_short (Nat.zero_le _) fun _ listed => absurd listed List.not_mem_nil
    exact absurd (full.symm.trans room) (by decide)
  | some value =>
    refine ⟨value, rfl, noLog_of_find none _ (List.mem_map_of_mem ?_)⟩
    exact List.mem_of_getLast? last

/-- An invariant that every turn keeps, and the removal of a last event that is no log,
holds of what the loop leaves. -/
theorem dropLogs_rule (Inv : RetainedEvents → Prop)
    {Holds : RetainedEvents → RetainedEvent → Prop}
    (turned : ∀ queue removed, Inv queue → Drops queue removed → Holds queue removed →
      Inv (turn removed queue))
    (popped : ∀ queue last, Inv queue → queue.events.getLast? = some last →
      last.event.isLog = false → Inv (pop queue))
    {fuel : Nat} (held : Inv queue) (each : EachTurn Holds fuel queue) :
    Inv (dropLogs fuel queue).2 := by
  induction fuel generalizing queue with
  | zero => exact held
  | succ fuel ih =>
    cases full : overflows queue.observed with
    | false =>
      rw [dropLogs_room full]
      exact held
    | true =>
      cases found : queue.events.find? (·.event.isLog) with
      | none =>
        obtain ⟨last, ends, other⟩ := last_of_noLog full found
        rw [dropLogs_empty full found]
        exact popped queue last held ends other
      | some removed =>
        have drops : Drops queue removed := ⟨full, found⟩
        obtain ⟨holds, later⟩ := each removed drops
        rw [dropLogs_drops drops]
        exact ih (turned queue removed held drops holds) later

theorem trimEvents_many_required (many : 16 < (required queue.observed).length) :
    trimEvents queue =
      (.error (.error "Runtime emitted too many required non-log observations"), pop queue) :=
  if_pos many

theorem kept_log {value : RetainedEvent} (pushed : next.events = queue.events ++ [value])
    (log : value.event.isLog = true) : next.kept = queue.kept := by
  rw [kept, pushed, List.filter_append, List.filter_cons, log]
  exact List.append_nil _

theorem kept_other {value : RetainedEvent} (pushed : next.events = queue.events ++ [value])
    (other : value.event.isLog = false) : next.kept = queue.kept ++ [value] := by
  rw [kept, pushed, List.filter_append, List.filter_cons, other]
  rfl

/-- Only an event that must be kept makes them too many. -/
theorem other_of_many {value : RetainedEvent} (few : (required queue.observed).length ≤ 16)
    (pushed : next.events = queue.events ++ [value])
    (many : 16 < (required next.observed).length) : value.event.isLog = false := by
  cases log : value.event.isLog with
  | false => rfl
  | true =>
    rw [required_observed, kept_log pushed log, ← required_observed] at many
    exact absurd many (Nat.not_lt.mpr few)

/-- The rule for `trimEvents` on a queue that took an event. -/
theorem trimEvents_rule (Inv : RetainedEvents → Prop)
    {Holds : RetainedEvents → RetainedEvent → Prop}
    (turned : ∀ queue removed, Inv queue → Drops queue removed → Holds queue removed →
      Inv (turn removed queue))
    (popped : ∀ queue last, Inv queue → queue.events.getLast? = some last →
      last.event.isLog = false → Inv (pop queue))
    {value : RetainedEvent} (few : (required queue.observed).length ≤ 16)
    (pushed : next.events = queue.events ++ [value]) (held : Inv next)
    (each : TrimsWhile Holds next) : Inv (trimEvents next).2 := by
  by_cases many : 16 < (required next.observed).length
  · have other := other_of_many few pushed many
    rw [trimEvents_many_required many]
    exact popped next value held (by rw [pushed]; exact List.getLast?_concat) other
  · have fewer := Nat.le_of_not_lt many
    rw [trimEvents_few fewer]
    exact dropLogs_rule Inv turned popped held (each fewer)

/-- A summary at the end of events without one takes what is accounted. -/
theorem account_last {events : List RetainedEvent} {removed dropped last ordinal pending : Nat}
    (silent : ∀ value ∈ events, isSummary value.event = false) :
    account removed
        ⟨events ++ [⟨last, .log truncatedLogMessage (some dropped)⟩], ordinal, pending⟩ =
      ⟨events ++ [⟨last, .log truncatedLogMessage (some (Doubles.add dropped removed))⟩],
        ordinal, pending⟩ := by
  have summary : isSummary (.log truncatedLogMessage (some dropped)) = true := beq_self_eq_true _
  have changed : modifyFirst (isSummary ·.event)
      (fun value => { value with event := value.event.addDropped removed })
      (events ++ [⟨last, .log truncatedLogMessage (some dropped)⟩]) =
      events ++ [⟨last, .log truncatedLogMessage (some (Doubles.add dropped removed))⟩] := by
    induction events with
    | nil =>
      rw [List.nil_append, modifyFirst, if_pos summary]
      rfl
    | cons head rest ih =>
      rw [List.cons_append, modifyFirst, silent head List.mem_cons_self, if_neg Bool.false_ne_true,
        ih fun value listed => silent value (List.mem_cons_of_mem _ listed)]
      rfl
  rw [account, if_pos, changed]
  rw [List.any_append, List.any_cons, summary, Bool.true_or, Bool.or_true]

/-- Some of the logs are gone, and the others may have a new count. -/
structure Trims (before after : RetainedEvents) : Prop where
  ordinal : after.ordinal = before.ordinal
  kept : after.kept = before.kept
  ordinals : after.ordinals.Sublist before.ordinals

theorem Trims.refl (queue : RetainedEvents) : Trims queue queue :=
  ⟨rfl, rfl, List.Sublist.refl _⟩

theorem Trims.trans {first second third : RetainedEvents} (one : Trims first second)
    (two : Trims second third) : Trims first third :=
  ⟨two.ordinal.trans one.ordinal, two.kept.trans one.kept, two.ordinals.trans one.ordinals⟩

theorem kept_modifyFirst (count : Nat) (events : List RetainedEvent) :
    (modifyFirst (isSummary ·.event)
      (fun value => { value with event := value.event.addDropped count }) events).filter
        (!·.event.isLog) = events.filter (!·.event.isLog) := by
  induction events with
  | nil => rfl
  | cons head rest ih =>
    cases summary : isSummary head.event with
    | true =>
      have log : head.event.isLog = true := by
        cases event : head.event with
        | log message droppedLogs => rfl
        | _ => rw [event] at summary; cases summary
      simp [modifyFirst, summary, log]
    | false =>
      simp only [modifyFirst, summary, Bool.false_eq_true, if_false] at ih ⊢
      rw [List.filter_cons, List.filter_cons, ih]

theorem ordinals_modifyFirst (count : Nat) (events : List RetainedEvent) :
    (modifyFirst (isSummary ·.event)
      (fun value => { value with event := value.event.addDropped count }) events).map
        RetainedEvent.ordinal = events.map RetainedEvent.ordinal := by
  induction events with
  | nil => rfl
  | cons head rest ih =>
    unfold modifyFirst
    split
    · rfl
    · rw [List.map_cons, List.map_cons, ih]

theorem account_trims (count : Nat) (queue : RetainedEvents) : Trims queue (account count queue) := by
  unfold account
  split
  · refine ⟨rfl, kept_modifyFirst count queue.events, ?_⟩
    rw [ordinals, ordinals_modifyFirst]
    exact List.Sublist.refl _
  · exact ⟨rfl, rfl, List.Sublist.refl _⟩

theorem turn_trims (drops : Drops queue removed) : Trims queue (turn removed queue) := by
  obtain ⟨before, after, split, _, erased⟩ := drops.split
  have erasing :
      Trims queue { queue with events := queue.events.eraseP (·.event.isLog) } := by
    refine ⟨rfl, ?_, List.eraseP_sublist.map _⟩
    rw [kept, kept, erased, split, List.filter_append, List.filter_append, List.filter_cons,
      drops.log]
    rfl
  exact erasing.trans (account_trims _ _)

/-- The loop ends with what fits, or with all that must be kept but the last of it. -/
theorem dropLogs_cases {fuel : Nat} (enough : queue.observed.countP RuntimeEvent.isLog < fuel) :
    (∃ after, dropLogs fuel queue = (.ok (), after) ∧ Trims queue after ∧
      overflows after.observed = false) ∨
    (overflows (required queue.observed) = true ∧ ∃ failure after,
      dropLogs fuel queue = (.error failure, after) ∧ after.ordinal = queue.ordinal ∧
      after.events = queue.kept.dropLast) := by
  induction fuel generalizing queue with
  | zero => exact absurd enough (Nat.not_lt_zero _)
  | succ fuel ih =>
    cases full : overflows queue.observed with
    | false => exact .inl ⟨queue, dropLogs_room full, .refl queue, full⟩
    | true =>
      cases found : queue.events.find? (·.event.isLog) with
      | none =>
        have noLogs := noLog_of_find found
        refine .inr ⟨by rw [required_of_noLog noLogs, full], _, _, dropLogs_empty full found, rfl,
          ?_⟩
        have all : queue.kept = queue.events := by
          rw [kept, List.filter_eq_self]
          intro value listed
          rw [noLogs _ (List.mem_map_of_mem listed)]
          rfl
        rw [all]
        rfl
      | some removed =>
        have drops : Drops queue removed := ⟨full, found⟩
        have fewer := (turned found).fewer
        have trims := turn_trims drops
        rw [dropLogs_drops drops]
        have fewer : (turn removed queue).observed.countP RuntimeEvent.isLog < fuel := by
          rw [turn]
          omega
        rcases ih fewer with ⟨after, ran, later, fits⟩ | ⟨full, failure, after, ran, number, rest⟩
        · exact .inl ⟨after, ran, trims.trans later, fits⟩
        · rw [required_observed, trims.kept, ← required_observed] at full
          exact .inr ⟨full, failure, after, ran, number.trans trims.ordinal,
            rest.trans (by rw [trims.kept])⟩

/-- The bounds of the queue that trimming restores. -/
structure Fits (queue : RetainedEvents) : Prop where
  required : (required queue.observed).length ≤ 16
  fits : overflows queue.observed = false

theorem fits_empty : Fits {} where
  required := Nat.zero_le _
  fits := overflows_short (Nat.zero_le _) fun _ member => absurd member List.not_mem_nil

/-- A queue that took an event is trimmed, or gives up the event because it must be kept and
does not fit. -/
theorem trimEvents_cases {value : RetainedEvent} (fits : queue.Fits)
    (pushed : next.events = queue.events ++ [value]) :
    ∃ after, after.Fits ∧
      ((trimEvents next = (.ok (), after) ∧ Trims next after) ∨
      (value.event.isLog = false ∧ ∃ failure, trimEvents next = (.error failure, after) ∧
        Trims { queue with ordinal := next.ordinal } after)) := by
  by_cases many : 16 < (required next.observed).length
  · have back : (pop next).events = queue.events := by
      rw [pop, pushed, List.dropLast_concat]
    have observed : (pop next).observed = queue.observed :=
      congrArg (List.map RetainedEvent.event) back
    refine ⟨pop next, ⟨?_, ?_⟩, .inr ⟨other_of_many fits.required pushed many, _,
      trimEvents_many_required many, rfl, ?_, ?_⟩⟩
    · rw [observed]
      exact fits.required
    · rw [observed]
      exact fits.fits
    · rw [kept, back]
      rfl
    · rw [ordinals, back]
      exact List.Sublist.refl _
  · have few := Nat.le_of_not_lt many
    rw [trimEvents_few few]
    rcases dropLogs_cases (enough next) with ⟨after, ran, trims, room⟩ | ⟨full, failure, after, ran,
      number, rest⟩
    · refine ⟨after, ⟨?_, room⟩, .inl ⟨ran, trims⟩⟩
      rw [required_observed, trims.kept, ← required_observed]
      exact few
    · have room := overflows_sublist (required_sublist _) fits.fits
      have other : value.event.isLog = false := by
        cases log : value.event.isLog with
        | false => rfl
        | true =>
          rw [required_observed, kept_log pushed log, ← required_observed, room] at full
          cases full
      rw [kept_other pushed other, List.dropLast_concat] at rest
      have observed : after.observed = required queue.observed := by
        rw [required_observed, ← rest]
        rfl
      refine ⟨after, ⟨?_, ?_⟩, .inr ⟨other, failure, ran, number, ?_, ?_⟩⟩
      · rw [observed, required, required, List.filter_filter]
        simp only [Bool.and_self]
        exact fits.required
      · rw [observed]
        exact room
      · rw [kept, rest, kept, kept, List.filter_filter]
        simp only [Bool.and_self]
      · rw [ordinals, rest]
        exact List.filter_sublist.map _

/-- The queue that a flush trims. -/
def summarize (queue : RetainedEvents) : RetainedEvents :=
  { push (.log truncatedLogMessage (some queue.droppedLogs)) queue with droppedLogs := 0 }

theorem summarize_events (queue : RetainedEvents) : queue.summarize.events = queue.events ++
    [⟨queue.ordinal + 1, .log truncatedLogMessage (some queue.droppedLogs)⟩] := rfl

theorem flushDroppedLogs_none (none : queue.droppedLogs = 0) :
    flushDroppedLogs queue = (.ok (), queue) :=
  if_pos (by omega)

theorem flushDroppedLogs_some (some : 1 ≤ queue.droppedLogs) :
    flushDroppedLogs queue = trimEvents queue.summarize :=
  if_neg (by omega)

/-- A flush leaves the queue as it is, or takes a summary and trims logs. -/
theorem flushDroppedLogs_cases (fits : queue.Fits) :
    ∃ after, flushDroppedLogs queue = (.ok (), after) ∧ after.Fits ∧
      ((queue.droppedLogs = 0 ∧ after = queue) ∨
        (1 ≤ queue.droppedLogs ∧ Trims queue.summarize after)) := by
  rcases Nat.eq_zero_or_pos queue.droppedLogs with none | some
  · exact ⟨queue, flushDroppedLogs_none none, fits, .inl ⟨none, rfl⟩⟩
  · obtain ⟨after, room, ⟨ran, trims⟩ | ⟨other, _⟩⟩ :=
      trimEvents_cases fits (summarize_events queue)
    · exact ⟨after, (flushDroppedLogs_some some).trans ran, room, .inr ⟨some, trims⟩⟩
    · cases other

/-- What a flush before an event leaves. -/
def flushedFor (event : RuntimeEvent) (queue : RetainedEvents) : RetainedEvents :=
  if event.isCompleted then (flushDroppedLogs queue).2 else queue

theorem flushedFor_fits (event : RuntimeEvent) (fits : queue.Fits) : (flushedFor event queue).Fits := by
  rw [flushedFor]
  split
  · obtain ⟨after, ran, room, _⟩ := flushDroppedLogs_cases fits
    rw [ran]
    exact room
  · exact fits

theorem appendEvent_eq (fits : queue.Fits) :
    appendEvent event queue = trimEvents (retain event (flushedFor event queue)) := by
  have before : flushBefore event queue = (.ok (), flushedFor event queue) := by
    cases event with
    | completed status =>
      obtain ⟨after, ran, _⟩ := flushDroppedLogs_cases fits
      rw [flushBefore, flushedFor, ran]
      rfl
    | _ => rfl
  simp only [appendEvent, bind, before]
  rfl

/-- The event as it is retained, with its ordinal. -/
def retained (event : RuntimeEvent) (queue : RetainedEvents) : RetainedEvent :=
  ⟨queue.ordinal + 1,
    if event.isLog ∧ queue.droppedLogs > 0 then event.addDropped queue.droppedLogs else event⟩

theorem retain_events (event : RuntimeEvent) (queue : RetainedEvents) :
    (retain event queue).events = queue.events ++ [retained event queue] := by
  rw [retain, retained]
  split <;> rfl

theorem retain_ordinal (event : RuntimeEvent) (queue : RetainedEvents) :
    (retain event queue).ordinal = queue.ordinal + 1 := by
  rw [retain]
  split <;> rfl

theorem retained_isLog (event : RuntimeEvent) (queue : RetainedEvents) :
    (retained event queue).event.isLog = event.isLog := by
  rw [retained]
  split
  · exact RuntimeEvent.isLog_addDropped _ _
  · rfl

theorem retained_other (other : event.isLog = false) (queue : RetainedEvents) :
    (retained event queue).event = event := by
  rw [retained, other]
  simp only [Bool.false_eq_true, false_and, if_false]

/-- An append trims the queue with the event, or gives up an event that is no log. -/
theorem appendEvent_cases (event : RuntimeEvent) (fits : queue.Fits) :
    ∃ after, after.Fits ∧
      ((appendEvent event queue = (.ok (), after) ∧
        Trims (retain event (flushedFor event queue)) after) ∨
      (event.isLog = false ∧ ∃ failure, appendEvent event queue = (.error failure, after) ∧
        Trims { flushedFor event queue with ordinal := (flushedFor event queue).ordinal + 1 }
          after)) := by
  obtain ⟨after, room, outcome⟩ :=
    trimEvents_cases (flushedFor_fits event fits) (retain_events event _)
  rw [retained_isLog, retain_ordinal] at outcome
  rw [appendEvent_eq fits]
  exact ⟨after, room, outcome⟩

theorem eventBytes_eq (events : List RuntimeEvent) :
    eventBytes events =
      2 + (events.map fun event => Json.byteLength event.toJson).sum + (events.length - 1) := by
  rw [eventBytes, Json.byteLength_array, List.map_map, List.length_map]
  rfl

/-- What a list of events takes that is mostly one of them. -/
theorem overflows_replicate {size count : Nat} (bytes : Json.byteLength event.toJson = size)
    (first last : List RuntimeEvent) :
    overflows (first ++ List.replicate count event ++ last) =
      decide (first.length + count + last.length > 256 ∨
        2 + ((first.map fun event => Json.byteLength event.toJson).sum + count * size +
          (last.map fun event => Json.byteLength event.toJson).sum) +
          (first.length + count + last.length - 1) > executionSocketFrameMaxBytes / 2) := by
  rw [overflows, eventBytes_eq]
  simp only [List.map_append, List.sum_append, List.map_replicate, List.sum_replicate, bytes,
    List.length_append, List.length_replicate]
  rfl

end RetainedEvents

/-- A call that changes the retained queue. -/
inductive EventCall where
  | append (event : RuntimeEvent)
  | flush
  deriving DecidableEq, Repr

/-- The event that a call appends. -/
def EventCall.event? : EventCall → Option RuntimeEvent
  | .append event => some event
  | .flush => none

namespace RetainedEvents
variable {queue : RetainedEvents}

def call (queue : RetainedEvents) : EventCall → RetainedEvents
  | .append event => (appendEvent event queue).2
  | .flush => (flushDroppedLogs queue).2

/-- The queue that a supervisor reaches by these calls. -/
def runCalls (calls : List EventCall) : RetainedEvents := calls.foldl call {}

theorem runCalls_concat (calls : List EventCall) (next : EventCall) :
    runCalls (calls ++ [next]) = (runCalls calls).call next :=
  List.foldl_concat ..

theorem Fits.call (fits : queue.Fits) (call : EventCall) : (queue.call call).Fits := by
  cases call with
  | append event =>
    obtain ⟨after, room, ⟨ran, _⟩ | ⟨_, _, ran, _⟩⟩ := appendEvent_cases event fits
    · rw [RetainedEvents.call, ran]
      exact room
    · rw [RetainedEvents.call, ran]
      exact room
  | flush =>
    obtain ⟨after, ran, room, _⟩ := flushDroppedLogs_cases fits
    rw [RetainedEvents.call, ran]
    exact room

theorem runCalls_fits (calls : List EventCall) : (runCalls calls).Fits :=
  List.foldlRecOn calls call fits_empty fun _ fits next _ => fits.call next

end RetainedEvents
end Anastom
