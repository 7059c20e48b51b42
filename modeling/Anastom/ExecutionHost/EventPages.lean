import Anastom.ExecutionHost.EventHistory
import Anastom.ExecutionHost.FrameCapacity

/-! The pages of events that a supervisor answers with, and the check that its client makes.
A page always fits the frame; it passes the check where the counts that the supervisor adds
to the logs leave them within the bounds of a public event. -/
namespace Anastom
open JsonValue RetainedEvents

inductive ExecutionManifestState where
  | awaitingStart
  | starting
  | active
  | terminal
  deriving DecidableEq, Repr

def ExecutionManifestState.text : ExecutionManifestState → String
  | .awaitingStart => "awaiting-start"
  | .starting => "starting"
  | .active => "active"
  | .terminal => "terminal"

def supervisorOperations : List String :=
  ["authorize", "inspect", "events", "collect", "terminate", "release"]

/-- `Array.isArray(events) && !events.some((event) => !validRuntimeEvent(event))` -/
def validRuntimeEvents (value : JsonValue) : Bool := (itemsOf value).any (·.all validRuntimeEvent)

/-- Validate one normalized supervisor response. -/
def assertSupervisorResponse (value : JsonValue) : Except Failure Unit := do
  require (value.isRecord && (value.get? "ok").any isBoolean)
    (.typeError "Invalid supervisor response")
  if value.get? "ok" == some (.bool true) then
    require (value.hasOnlyKeys ["ok", "operation", "state"]
        ["events", "nextCursor", "terminalAvailable"] &&
      (value.get? "operation").any (stringIn supervisorOperations) &&
      (value.get? "state").any (stringIn ["awaiting-start", "starting", "active", "terminal"]) &&
      (value.get? "events").all validRuntimeEvents &&
      (value.get? "nextCursor").all counter &&
      (value.get? "terminalAvailable").all isBoolean)
      (.typeError "Invalid successful supervisor response")
  else
    require (value.exactKeys ["category", "message", "ok"] &&
      (value.get? "category").any
        (stringIn ["unauthorized", "invalid-state", "invalid-request", "internal"]) &&
      (value.get? "message").any isString)
      (.typeError "Invalid failed supervisor response")

/-- The answer to a poll of events. -/
structure EventPage where
  state : ExecutionManifestState
  events : List RuntimeEvent
  nextCursor : Nat
  terminalAvailable : Bool
  deriving DecidableEq, Repr

def EventPage.toJson (page : EventPage) : JsonValue :=
  .object [("ok", .bool true), ("operation", .string "events"), ("state", .string page.state.text),
    ("events", .array (page.events.map RuntimeEvent.toJson)), ("nextCursor", nat page.nextCursor),
    ("terminalAvailable", .bool page.terminalAvailable)]

namespace RetainedEvents

/-- `events.filter((value) => value.ordinal > cursor)` -/
def beyond (cursor : Nat) (queue : RetainedEvents) : List RetainedEvent :=
  queue.events.filter fun value => cursor < value.ordinal

/-- `retained.at(-1)?.ordinal ?? cursor` -/
def nextCursor (cursor : Nat) (queue : RetainedEvents) : Nat :=
  (((beyond cursor queue).getLast?).map RetainedEvent.ordinal).getD cursor

/-- What `dispatch` answers to a request for the events beyond a cursor. -/
def eventPage (queue : RetainedEvents) (state : ExecutionManifestState)
    (terminalAvailable : Bool) (cursor : Nat) : EventPage where
  state
  events := (beyond cursor queue).map RetainedEvent.event
  nextCursor := nextCursor cursor queue
  terminalAvailable

end RetainedEvents

/-- Within the bounds of a public event that the client accepts. -/
def RuntimeEvent.Deliverable (event : RuntimeEvent) : Prop :=
  event.valid = true ∧ Json.byteLength event.toJson ≤ executionPrivateRecordMaxBytes

instance (event : RuntimeEvent) : Decidable event.Deliverable :=
  inferInstanceAs (Decidable (_ ∧ _))

variable {page : EventPage} {queue : RetainedEvents} {event : RuntimeEvent}

theorem validRuntimeEvent_event : validRuntimeEvent event.toJson = true ↔ event.Deliverable := by
  rw [validRuntimeEvent, Bool.and_eq_true, observationValidator_event, decide_eq_true_iff]
  exact Iff.rfl

theorem validRuntimeEvent_reread (value : JsonValue) :
    validRuntimeEvent value.reread = validRuntimeEvent value := by
  rw [validRuntimeEvent, validRuntimeEvent, observationValidator_textual, byteLength_reread]

theorem isTrue_reread (found : Option JsonValue) :
    (found.map reread == some (.bool true)) = (found == some (.bool true)) := by
  cases found with
  | none => rfl
  | some value => cases value <;> rfl

theorem validRuntimeEvents_reread (value : JsonValue) :
    validRuntimeEvents value.reread = validRuntimeEvents value := by
  cases value with
  | array items =>
    have same : items.all (validRuntimeEvent ∘ reread) = items.all validRuntimeEvent :=
      List.all_congr rfl fun item => validRuntimeEvent_reread item
    rw [reread, validRuntimeEvents, validRuntimeEvents, itemsOf, itemsOf, Option.any_some, Option.any_some, rereadItems_map, List.all_map,
      same]
  | _ => rfl

/-- What the supervisor writes is checked as it is read back. -/
theorem assertSupervisorResponse_reread (value : JsonValue) :
    assertSupervisorResponse value.reread = assertSupervisorResponse value := by
  simp only [assertSupervisorResponse, isRecord_reread, hasOnlyKeys_reread, exactKeys_reread,
    get?_reread, any_reread (stringIn_reread _), any_reread isString_reread,
    any_reread isBoolean_reread, all_reread isBoolean_reread, counter,
    all_reread (integerIn_reread _ _), all_reread validRuntimeEvents_reread, isTrue_reread]

theorem assertSupervisorResponse_page : assertSupervisorResponse page.toJson = .ok () ↔
    (∀ event ∈ page.events, event.Deliverable) ∧ page.nextCursor ≤ maxSafeInteger := by
  have states : ["awaiting-start", "starting", "active", "terminal"].contains page.state.text := by
    cases page.state <;> decide
  have events : (page.events.map RuntimeEvent.toJson).all validRuntimeEvent = true ↔
      ∀ event ∈ page.events, event.Deliverable := by
    rw [List.all_map, List.all_eq_true]
    exact forall₂_congr fun _ _ => validRuntimeEvent_event
  have cursor : counter (nat page.nextCursor) = true ↔ page.nextCursor ≤ maxSafeInteger := by
    rw [counter_nat, nonnegative_iff]
  rw [← events, ← cursor]
  simp [assertSupervisorResponse, EventPage.toJson, hasOnlyKeys, isRecord, get?, keys,
    List.lookup_cons, isBoolean, stringIn, supervisorOperations, validRuntimeEvents, itemsOf] at states ⊢
  rw [require_bind_ok, require_ok]
  simpa using fun _ _ => states

theorem EventPage.bytes_le (safe : page.nextCursor ≤ maxSafeInteger) :
    Json.byteLength page.toJson ≤ eventBytes page.events + 300 := by
  have texts : Json.byteLength (.string "ok") ≤ 20 ∧ Json.byteLength (.string "operation") ≤ 20 ∧
      Json.byteLength (.string "events") ≤ 20 ∧ Json.byteLength (.string "state") ≤ 20 ∧
      Json.byteLength (.string "nextCursor") ≤ 20 ∧
      Json.byteLength (.string "terminalAvailable") ≤ 20 := by
    repeat' apply And.intro
    all_goals
      rw [Json.byteLength_ofList]
      decide
  have state : Json.byteLength (.string page.state.text) ≤ 20 := by
    cases page.state <;>
      (rw [ExecutionManifestState.text, Json.byteLength_ofList]; decide)
  have bools : ∀ value, Json.byteLength (.bool value) ≤ 5 := by decide
  have cursor : Json.byteLength (nat page.nextCursor) ≤ 16 :=
    Json.byteLength_safe (nonnegative_iff.mpr safe)
  have ok := bools true
  have available := bools page.terminalAvailable
  have events : Json.byteLength (.array (page.events.map RuntimeEvent.toJson)) =
      eventBytes page.events := rfl
  rw [EventPage.toJson, Json.byteLength_object]
  simp only [List.map_cons, List.map_nil, List.sum_cons, List.sum_nil, Json.memberLength,
    List.length_cons, List.length_nil, events]
  omega

/-- A page is no longer than the queue it is taken from. -/
theorem eventPage_bytes {state : ExecutionManifestState} {terminalAvailable : Bool} {cursor : Nat}
    (fits : queue.Fits) :
    eventBytes (queue.eventPage state terminalAvailable cursor).events ≤
      executionSocketFrameMaxBytes / 2 := by
  have whole := fits.fits
  simp only [overflows, decide_eq_false_iff_not, not_or, Nat.not_lt] at whole
  refine Nat.le_trans ?_ whole.2
  exact Json.byteLength_sublist ((List.filter_sublist.map _).map _)

/-- The answer passes the client's check and fits the frame. -/
def EventPage.Deliverable (page : EventPage) : Prop :=
  assertSupervisorResponse page.toJson.reread = .ok () ∧
    ∃ frame, encodeFrame page.toJson executionSocketFrameMaxBytes = .ok frame

/-- A page is refused for the logs in it and for its cursor alone: never for its size. -/
theorem eventPage_deliverable {state : ExecutionManifestState} {terminalAvailable : Bool}
    {cursor : Nat} (fits : queue.Fits) :
    (queue.eventPage state terminalAvailable cursor).Deliverable ↔
      (∀ value ∈ beyond cursor queue, value.event.Deliverable) ∧
        nextCursor cursor queue ≤ maxSafeInteger := by
  have checked : assertSupervisorResponse
      (queue.eventPage state terminalAvailable cursor).toJson.reread = .ok () ↔
      (∀ value ∈ beyond cursor queue, value.event.Deliverable) ∧
        nextCursor cursor queue ≤ maxSafeInteger := by
    rw [assertSupervisorResponse_reread, assertSupervisorResponse_page, eventPage,
      List.forall_mem_map]
  rw [EventPage.Deliverable, checked, and_iff_left_iff_imp]
  rintro ⟨_, safe⟩
  have bytes : Json.byteLength (queue.eventPage state terminalAvailable cursor).toJson ≤
      eventBytes (queue.eventPage state terminalAvailable cursor).events + 300 :=
    EventPage.bytes_le safe
  have events : eventBytes (queue.eventPage state terminalAvailable cursor).events ≤
      executionSocketFrameMaxBytes / 2 := eventPage_bytes fits
  exact encodeFrame_ok.mpr (Nat.le_trans bytes
    (Nat.le_trans (Nat.add_le_add_right events 300) (by decide)))

/-- The sum that a turn writes into a summary is in range. -/
def SummaryWithin (queue : RetainedEvents) (removed : RetainedEvent) : Prop :=
  ∀ summary, (queue.events.eraseP (·.event.isLog)).find? (isSummary ·.event) = some summary →
    Doubles.add summary.event.dropped (Doubles.add removed.event.dropped 1) ≤ maxSafeInteger

/-- A flush that numbers its summary, and counts in it, within the safe integers. -/
def FlushWithin (queue : RetainedEvents) : Prop :=
  1 ≤ queue.droppedLogs → queue.droppedLogs ≤ maxSafeInteger ∧
    queue.ordinal + 1 ≤ maxSafeInteger ∧ TrimsWhile SummaryWithin queue.summarize

/-- A call whose counts leave every log that takes one within the bounds of an event. -/
def CallWithin (queue : RetainedEvents) : EventCall → Prop
  | .flush => FlushWithin queue
  | .append event =>
    (event.isCompleted = true → FlushWithin queue) ∧
    (event.isLog = true → queue.droppedLogs > 0 →
      (event.addDropped queue.droppedLogs).Deliverable) ∧
    (flushedFor event queue).ordinal + 1 ≤ maxSafeInteger ∧
    TrimsWhile SummaryWithin (retain event (flushedFor event queue))

/-- Every call of a run is within bounds in the state where it is made. -/
def WithinRun (calls : List EventCall) : Prop :=
  ∀ before call after, calls = before ++ call :: after → CallWithin (runCalls before) call

/-- The runtime host may emit these events. -/
def Accepted (calls : List EventCall) : Prop :=
  ∀ event ∈ calls.filterMap EventCall.event?,
    assertRuntimeHostOutput (RuntimeHostOutput.event event).toJson = .ok ()

theorem mem_modifyFirst_find {α : Type} {test : α → Bool} {f : α → α} {items : List α} {a : α}
    (member : a ∈ modifyFirst test f items) :
    a ∈ items ∨ ∃ original, items.find? test = some original ∧ a = f original := by
  induction items with
  | nil => cases member
  | cons head rest ih =>
    unfold modifyFirst at member
    split at member
    case isTrue passes =>
      rcases List.mem_cons.mp member with rfl | later
      · exact .inr ⟨head, List.find?_cons_of_pos passes, rfl⟩
      · exact .inl (List.mem_cons_of_mem _ later)
    case isFalse fails =>
      rcases List.mem_cons.mp member with rfl | later
      · exact .inl List.mem_cons_self
      · rcases ih later with listed | ⟨original, found, rfl⟩
        · exact .inl (List.mem_cons_of_mem _ listed)
        · exact .inr ⟨original, (List.find?_cons_of_neg fails).trans found, rfl⟩

/-- A summary is an event that the client accepts as long as its count is in range. -/
theorem summary_deliverable {count : Nat} (least : 1 ≤ count) (safe : count ≤ maxSafeInteger) :
    (RuntimeEvent.log truncatedLogMessage (some count)).Deliverable := by
  have brief : Json.byteLength (.string truncatedLogMessage) ≤ 100 := by
    rw [truncatedLogMessage, Json.byteLength_ofList]
    decide
  have short : Json.byteLength (RuntimeEvent.log truncatedLogMessage (some count)).toJson ≤ 200 :=
    log_short brief fun other same => Option.some.inj same ▸ Nat.lt_of_le_of_lt safe (by decide)
  exact ⟨positive_iff.mpr ⟨least, safe⟩, Nat.le_trans short (by decide)⟩

theorem turn_deliverable {removed : RetainedEvent}
    (held : ∀ event ∈ queue.observed, event.Deliverable) (within : SummaryWithin queue removed) :
    ∀ event ∈ (turn removed queue).observed, event.Deliverable := by
  have erased : ∀ value ∈ queue.events.eraseP (·.event.isLog), value.event.Deliverable :=
    fun value listed => held _ (List.mem_map_of_mem (List.mem_of_mem_eraseP listed))
  rw [RetainedEvents.observed, List.forall_mem_map, turn]
  intro value listed
  unfold account at listed
  split at listed
  case isFalse => exact erased value listed
  case isTrue =>
    rcases mem_modifyFirst_find listed with old | ⟨summary, found, rfl⟩
    · exact erased value old
    · have sum := within summary found
      have isSummary : isSummary summary.event = true := by simpa using List.find?_some found
      obtain ⟨ordinal, event⟩ := summary
      cases event with
      | log message droppedLogs =>
        obtain rfl : message = truncatedLogMessage := by simpa [RetainedEvents.isSummary] using isSummary
        exact summary_deliverable (Doubles.add_positive (Nat.le_trans
          (Doubles.add_positive (Nat.le_add_left 1 _)) (Nat.le_add_left _ _))) sum
      | _ => cases isSummary

theorem trimEvents_deliverable {next : RetainedEvents} {value : RetainedEvent} (fits : queue.Fits)
    (pushed : next.events = queue.events ++ [value])
    (held : ∀ event ∈ next.observed, event.Deliverable) (within : TrimsWhile SummaryWithin next) :
    ∀ event ∈ (trimEvents next).2.observed, event.Deliverable := by
  refine trimEvents_rule (fun queue => ∀ event ∈ queue.observed, event.Deliverable) ?_ ?_
    fits.required pushed held within
  · exact fun queue removed held _ within => turn_deliverable held within
  · intro queue last held _ _ event listed
    exact held event ((List.dropLast_sublist _).map _ |>.subset listed)

theorem FlushWithin.flush (fits : queue.Fits) (within : FlushWithin queue)
    (held : ∀ event ∈ queue.observed, event.Deliverable) :
    ∀ event ∈ (flushDroppedLogs queue).2.observed, event.Deliverable := by
  rcases Nat.eq_zero_or_pos queue.droppedLogs with none | some
  · rw [flushDroppedLogs_none none]
    exact held
  · obtain ⟨safe, _, turns⟩ := within some
    rw [flushDroppedLogs_some some]
    refine trimEvents_deliverable fits (summarize_events queue) ?_ turns
    intro event listed
    rw [RetainedEvents.observed, summarize_events, List.map_append] at listed
    rcases List.mem_append.mp listed with old | new
    · exact held event old
    · rw [List.mem_singleton.mp new]
      exact summary_deliverable some safe

theorem CallWithin.call (fits : queue.Fits) {call : EventCall} (within : CallWithin queue call)
    (accepted : ∀ event ∈ call.event?, event.Deliverable)
    (held : ∀ event ∈ queue.observed, event.Deliverable) :
    ∀ event ∈ (queue.call call).observed, event.Deliverable := by
  cases call with
  | flush => exact within.flush fits held
  | append event =>
    obtain ⟨flush, merged, _, turns⟩ := within
    have flushed : ∀ other ∈ (flushedFor event queue).observed, other.Deliverable := by
      rw [flushedFor]
      split
      case isTrue completed => exact (flush completed).flush fits held
      case isFalse => exact held
    rw [RetainedEvents.call, appendEvent_eq fits]
    refine trimEvents_deliverable (flushedFor_fits event fits) (retain_events event _) ?_ turns
    intro other listed
    rw [RetainedEvents.observed, retain_events, List.map_append] at listed
    rcases List.mem_append.mp listed with old | new
    · exact flushed other old
    · rw [List.mem_singleton.mp new, retained]
      split
      case isTrue pending =>
        have same : flushedFor event queue = queue := by
          cases event with
          | log message droppedLogs => rfl
          | _ => exact absurd pending.1 Bool.false_ne_true
        rw [same] at pending ⊢
        exact merged pending.1 pending.2
      case isFalse => exact accepted event rfl

theorem call_ordinal (fits : queue.Fits) {call : EventCall} (within : CallWithin queue call)
    (safe : queue.ordinal ≤ maxSafeInteger) : (queue.call call).ordinal ≤ maxSafeInteger := by
  cases call with
  | flush =>
    obtain ⟨after, ran, _, ⟨_, rfl⟩ | ⟨some, trims⟩⟩ := flushDroppedLogs_cases fits
    · rw [RetainedEvents.call, ran]
      exact safe
    · rw [RetainedEvents.call, ran, trims.ordinal]
      exact (within some).2.1
  | append event =>
    obtain ⟨_, _, numbered, _⟩ := within
    obtain ⟨after, _, ⟨ran, trims⟩ | ⟨_, _, ran, trims⟩⟩ := appendEvent_cases event fits
    · rw [RetainedEvents.call, ran, trims.ordinal, retain_ordinal]
      exact numbered
    · rw [RetainedEvents.call, ran, trims.ordinal]
      exact numbered

/-- Within bounds, a supervisor holds events that its client accepts. -/
theorem withinRun_deliverable {calls : List EventCall} (accepted : Accepted calls)
    (within : WithinRun calls) :
    (∀ event ∈ (runCalls calls).observed, event.Deliverable) ∧
      (runCalls calls).ordinal ≤ maxSafeInteger := by
  induction calls using List.reverseRecOn with
  | nil => exact ⟨fun event listed => absurd listed List.not_mem_nil, Nat.zero_le _⟩
  | append_singleton calls next ih =>
    have called := within calls next [] rfl
    have fits := runCalls_fits calls
    have before : WithinRun calls := by
      rintro first call after rfl
      exact within first call (after ++ [next]) (by rw [List.append_assoc]; rfl)
    have earlier : Accepted calls := by
      intro event listed
      exact accepted event (by rw [List.filterMap_append]; exact List.mem_append_left _ listed)
    have latest : ∀ event ∈ next.event?, event.Deliverable := by
      intro event taken
      refine assertRuntimeHostOutput_event.mp (accepted event ?_)
      rw [List.filterMap_append]
      exact List.mem_append_right _ (List.mem_filterMap.mpr ⟨next, List.mem_singleton_self _, taken⟩)
    obtain ⟨held, safe⟩ := ih earlier before
    rw [runCalls_concat]
    exact ⟨called.call fits latest held, call_ordinal fits called safe⟩

/-- A cursor as the check of a request admits it. -/
abbrev RequestCursor := { cursor : Nat // cursor ≤ maxSafeInteger }

theorem nextCursor_le {cursor bound : Nat} (least : cursor ≤ bound)
    (ordinals : ∀ ordinal ∈ queue.ordinals, ordinal ≤ bound) : nextCursor cursor queue ≤ bound := by
  rw [nextCursor]
  cases last : (beyond cursor queue).getLast? with
  | none => exact least
  | some value =>
    have listed := (List.mem_filter.mp (List.mem_of_getLast? last)).1
    exact ordinals value.ordinal (List.mem_map_of_mem listed)

theorem required_deliverable {calls : List EventCall} (accepted : Accepted calls)
    {value : RetainedEvent} (listed : value ∈ (runCalls calls).events)
    (other : value.event.isLog = false) : value.event.Deliverable := by
  have recorded := History.run_recorded calls
  have kept : value ∈ (History.run calls).queue.kept := by
    rw [History.run_queue]
    exact List.mem_filter.mpr ⟨listed, by rw [other]; rfl⟩
  rw [recorded.kept] at kept
  exact assertRuntimeHostOutput_event.mp
    (accepted _ (History.run_pushed (List.mem_filter.mp kept).1 other))

/-- Whatever events a runtime host emits, a page is refused only for a log whose count the
supervisor changed, or for its cursor. -/
theorem runPage_deliverable {calls : List EventCall} (accepted : Accepted calls)
    (state : ExecutionManifestState) (terminalAvailable : Bool) (cursor : Nat) :
    ((runCalls calls).eventPage state terminalAvailable cursor).Deliverable ↔
      (∀ value ∈ beyond cursor (runCalls calls), value.event.isLog = true →
        value.event.Deliverable) ∧
      nextCursor cursor (runCalls calls) ≤ maxSafeInteger := by
  rw [eventPage_deliverable (runCalls_fits calls)]
  refine and_congr_left fun _ => forall₂_congr fun value listed => ?_
  cases log : value.event.isLog with
  | true => simp
  | false =>
    have held := required_deliverable accepted (List.mem_filter.mp listed).1 log
    simpa using held

/-- In a run whose calls all keep within bounds, every page passes the client's check and fits
the frame, whatever events the runtime host emits. -/
theorem pages_deliverable (calls : List EventCall) (accepted : Accepted calls)
    (within : WithinRun calls) (state : ExecutionManifestState) (terminalAvailable : Bool)
    (cursor : RequestCursor) :
    ((runCalls calls).eventPage state terminalAvailable cursor.1).Deliverable := by
  obtain ⟨held, safe⟩ := withinRun_deliverable accepted within
  refine (runPage_deliverable accepted state terminalAvailable cursor.1).mpr ⟨?_, ?_⟩
  · intro value listed _
    exact held _ (List.mem_map_of_mem (List.mem_filter.mp listed).1)
  · refine nextCursor_le cursor.2 fun ordinal listed => Nat.le_trans ?_ safe
    have recorded := History.run_recorded calls
    rw [← History.run_queue] at listed ⊢
    exact recorded.bound ordinal listed

def wideLog (n : Nat) (droppedLogs : Option Nat) : RuntimeEvent :=
  .log (String.ofList (List.replicate n 'm')) droppedLogs

theorem wideLog_bytes (n : Nat) (droppedLogs : Option Nat) :
    Json.byteLength (wideLog n droppedLogs).toJson = n + 27 +
      (droppedLogs.map fun count => Json.byteLength (nat count) + 15).getD 0 := by
  have message : Json.byteLength (.string (String.ofList (List.replicate n 'm'))) = 2 + n := by
    rw [Json.byteLength_unescaped, String.toList_ofList, List.length_replicate]
    intro c member
    rw [String.toList_ofList] at member
    rw [List.eq_of_mem_replicate member]
    decide
  rw [wideLog, RuntimeEvent.log_bytes, message]
  omega

theorem wideLog_silent {n : Nat} (long : 100 ≤ n) (droppedLogs : Option Nat) :
    isSummary (wideLog n droppedLogs) = false := by
  have message : (String.ofList (List.replicate n 'm') == truncatedLogMessage) = false := by
    rw [beq_eq_false_iff_ne]
    intro same
    have length := congrArg (fun text => text.toList.length) same
    rw [truncatedLogMessage, String.toList_ofList, String.toList_ofList,
      List.length_replicate] at length
    rw [length] at long
    exact absurd long (by decide)
  exact message

/-- Logs of the same size. -/
def wideLogCalls (n count : Nat) : List EventCall :=
  List.replicate count (.append (wideLog n none))

/-- Seven of them fit. -/
theorem runCalls_wide {n count : Nat} (few : count ≤ 7) (fits : n ≤ 65509) :
    ∃ rest, runCalls (wideLogCalls n count) = ⟨rest, count, 0⟩ ∧
      rest.map RetainedEvent.event = List.replicate count (wideLog n none) := by
  induction count with
  | zero => exact ⟨[], rfl, rfl⟩
  | succ count ih =>
    obtain ⟨rest, ran, form⟩ := ih (Nat.le_of_succ_le few)
    have observed : (push (wideLog n none) ⟨rest, count, 0⟩).observed =
        [] ++ List.replicate (count + 1) (wideLog n none) ++ [] := by
      rw [observed_push, RetainedEvents.observed, form, List.append_nil, List.nil_append,
        List.replicate_succ']
    have logs : ∀ event ∈ (push (wideLog n none) ⟨rest, count, 0⟩).observed,
        event.isLog = true := by
      intro event listed
      rw [observed, List.append_nil, List.nil_append] at listed
      rw [List.eq_of_mem_replicate listed]
      rfl
    have room : overflows (push (wideLog n none) ⟨rest, count, 0⟩).observed = false := by
      rw [observed, overflows_replicate (wideLog_bytes n none)]
      have wide : (count + 1) * (n + 27) ≤ 7 * 65536 := Nat.mul_le_mul few (by omega)
      simp only [List.map_nil, List.sum_nil, List.length_nil, executionSocketFrameMaxBytes,
        Option.map_none, Option.getD_none, Nat.add_zero, decide_eq_false_iff_not]
      omega
    refine ⟨rest ++ [⟨count + 1, wideLog n none⟩], ?_, ?_⟩
    · rw [wideLogCalls, List.replicate_succ', ← wideLogCalls, runCalls_concat, ran]
      have appended : appendEvent (wideLog n none) ⟨rest, count, 0⟩ =
          trimEvents (push (wideLog n none) ⟨rest, count, 0⟩) := rfl
      rw [RetainedEvents.call, appended, trimEvents_room (required_logs logs) room]
      rfl
    · rw [List.map_append, form, List.replicate_succ']
      rfl

theorem required_wide {n count : Nat} {last : List RuntimeEvent}
    (logs : ∀ event ∈ last, event.isLog = true) :
    (required (List.replicate count (wideLog n none) ++ last)).length ≤ 16 := by
  refine required_logs fun event listed => ?_
  rcases List.mem_append.mp listed with wide | final
  · rw [List.eq_of_mem_replicate wide]
    rfl
  · exact logs event final

/-- A queue of wide logs that takes one more than fits drops the oldest. -/
theorem trimEvents_wide {n count ordinal : Nat} {first : RetainedEvent} {rest : List RetainedEvent}
    {last : RuntimeEvent} (long : 100 ≤ n) (log : last.isLog = true)
    (silent : isSummary last = false)
    (form : first.event :: rest.map RetainedEvent.event =
      List.replicate (count + 1) (wideLog n none) ++ [last])
    (full : overflows (List.replicate (count + 1) (wideLog n none) ++ [last]) = true)
    (fits : overflows (List.replicate count (wideLog n none) ++ [last]) = false) :
    trimEvents ⟨first :: rest, ordinal, 0⟩ = (.ok (), ⟨rest, ordinal, 1⟩) := by
  rw [List.replicate_succ, List.cons_append, List.cons.injEq] at form
  obtain ⟨head, tail⟩ := form
  have observed : RetainedEvents.observed ⟨first :: rest, ordinal, 0⟩ =
      List.replicate (count + 1) (wideLog n none) ++ [last] := by
    rw [RetainedEvents.observed, List.map_cons, head, tail]
    rfl
  have accounted : account (Doubles.add first.event.dropped 1) ⟨rest, ordinal, 0⟩ =
      ⟨rest, ordinal, 1⟩ := by
    rw [head]
    refine account_silent fun event listed => ?_
    rw [RetainedEvents.observed, tail] at listed
    rcases List.mem_append.mp listed with wide | final
    · rw [List.eq_of_mem_replicate wide]
      exact wideLog_silent long none
    · rw [List.mem_singleton.mp final]
      exact silent
  have turn := @trimEvents_turn ⟨first :: rest, ordinal, 0⟩ first rest rfl (by rw [head]; rfl)
    (by rw [observed]; exact required_wide (by simpa using log)) (by rw [observed]; exact full)
  rw [accounted] at turn
  exact turn (by rw [RetainedEvents.observed, tail]; exact fits)

theorem overflows_wideLog {n count : Nat} {last : RuntimeEvent} {size : Nat}
    (bytes : Json.byteLength last.toJson = size) :
    overflows (List.replicate count (wideLog n none) ++ [last]) =
      decide (count + 1 > 256 ∨ 2 + (count * (n + 27) + size) + count >
        executionSocketFrameMaxBytes / 2) := by
  have sizes := @overflows_replicate _ _ count (wideLog_bytes n none) [] [last]
  simp only [List.nil_append, List.map_nil, List.sum_nil, List.length_nil, List.map_cons,
    List.sum_cons, List.length_cons, bytes, Option.map_none, Option.getD_none, Nat.add_zero,
    Nat.zero_add, Nat.add_sub_cancel] at sizes
  exact sizes

/-- A wide log on a queue of wide logs that is full. -/
theorem append_wideLog {n ordinal pending : Nat} {events : List RetainedEvent}
    {droppedLogs : Option Nat} (long : 100 ≤ n)
    (form : events.map RetainedEvent.event = List.replicate 7 (wideLog n none))
    (retained : retain (wideLog n none) ⟨events, ordinal, pending⟩ =
      push (wideLog n droppedLogs) ⟨events, ordinal, 0⟩)
    (full : overflows (List.replicate 7 (wideLog n none) ++ [wideLog n droppedLogs]) = true)
    (fits : overflows (List.replicate 6 (wideLog n none) ++ [wideLog n droppedLogs]) = false) :
    ∃ rest, appendEvent (wideLog n none) ⟨events, ordinal, pending⟩ =
        (.ok (), ⟨rest, ordinal + 1, 1⟩) ∧
      rest.map RetainedEvent.event =
        List.replicate 6 (wideLog n none) ++ [wideLog n droppedLogs] := by
  cases events with
  | nil => cases form
  | cons first older =>
    rw [List.map_cons, List.replicate_succ, List.cons.injEq] at form
    obtain ⟨head, tail⟩ := form
    refine ⟨older ++ [⟨ordinal + 1, wideLog n droppedLogs⟩], ?_, ?_⟩
    · have appended : appendEvent (wideLog n none) ⟨first :: older, ordinal, pending⟩ =
          trimEvents (retain (wideLog n none) ⟨first :: older, ordinal, pending⟩) := rfl
      have shape : push (wideLog n droppedLogs) ⟨first :: older, ordinal, 0⟩ =
          ⟨first :: (older ++ [⟨ordinal + 1, wideLog n droppedLogs⟩]), ordinal + 1, 0⟩ := rfl
      rw [appended, retained, shape]
      refine trimEvents_wide long rfl (wideLog_silent long droppedLogs) ?_ full fits
      rw [head, List.map_append, tail]
      rfl
    · rw [List.map_append, tail]
      rfl

theorem wideLogCalls_succ (n count : Nat) : wideLogCalls n (count + 1) =
    wideLogCalls n count ++ [.append (wideLog n none)] := List.replicate_succ'

/-- The eighth drops the first. -/
theorem runCalls_eight {n : Nat} (size : n = 65509) :
    ∃ rest, runCalls (wideLogCalls n 8) = ⟨rest, 8, 1⟩ ∧
      rest.map RetainedEvent.event = List.replicate 7 (wideLog n none) := by
  obtain ⟨seven, ran, form⟩ := @runCalls_wide n 7 (Nat.le_refl 7) (by omega)
  have plain := wideLog_bytes n none
  rw [Option.map_none, Option.getD_none] at plain
  obtain ⟨eight, eighth, form⟩ := @append_wideLog n 7 0 seven none (by omega) form rfl
    (by rw [overflows_wideLog plain, executionSocketFrameMaxBytes, decide_eq_true_eq]; omega)
    (by rw [overflows_wideLog plain, executionSocketFrameMaxBytes, decide_eq_false_iff_not]; omega)
  refine ⟨eight, ?_, form.trans List.replicate_succ'.symm⟩
  rw [wideLogCalls_succ, runCalls_concat, ran]
  exact congrArg Prod.snd eighth

/-- And the ninth takes along that count. -/
theorem runCalls_annotated {n : Nat} (size : n = 65509) :
    ∃ rest, runCalls (wideLogCalls n 9) = ⟨rest, 9, 1⟩ ∧ rest.map RetainedEvent.event =
      List.replicate 6 (wideLog n none) ++ [wideLog n (some 1)] := by
  obtain ⟨eight, before, form⟩ := runCalls_eight size
  have counted := wideLog_bytes n (some 1)
  have digit : Json.byteLength (nat 1) ≤ 1 :=
    Json.byteLength_nat (by decide) (by decide) (by decide)
  rw [Option.map_some, Option.getD_some] at counted
  generalize Json.byteLength (nat 1) = one at digit counted
  obtain ⟨nine, ninth, form⟩ := @append_wideLog n 8 1 eight (some 1) (by omega) form rfl
    (by rw [overflows_wideLog counted, executionSocketFrameMaxBytes, decide_eq_true_eq]; omega)
    (by rw [overflows_wideLog counted, executionSocketFrameMaxBytes, decide_eq_false_iff_not]
        omega)
  refine ⟨nine, ?_, form⟩
  rw [wideLogCalls_succ, runCalls_concat, before]
  exact congrArg Prod.snd ninth

theorem wideLog_accepted {n : Nat} (fits : n ≤ 65509) :
    assertRuntimeHostOutput (RuntimeHostOutput.event (wideLog n none)).toJson = .ok () := by
  rw [assertRuntimeHostOutput_event, wideLog_bytes]
  exact ⟨rfl, Nat.add_le_add_right fits 27⟩

theorem wideLogs_accepted {n count : Nat} (fits : n ≤ 65509) : Accepted (wideLogCalls n count) := by
  intro event listed
  obtain ⟨call, made, same⟩ := List.mem_filterMap.mp listed
  rw [List.eq_of_mem_replicate made] at same
  obtain rfl := Option.some.inj same
  exact wideLog_accepted fits

/-- A queue without summaries stays without them, so that no sum is written. -/
theorem silent_within (silent : ∀ value ∈ queue.events, isSummary value.event = false) :
    TrimsWhile SummaryWithin queue := by
  have turns (fuel : Nat) : ∀ {queue : RetainedEvents},
      (∀ value ∈ queue.events, isSummary value.event = false) →
        EachTurn SummaryWithin fuel queue := by
    induction fuel with
    | zero => exact fun _ => trivial
    | succ fuel ih =>
      intro queue silent removed drops
      have left : ∀ value ∈ queue.events.eraseP (·.event.isLog), isSummary value.event = false :=
        fun value listed => silent value (List.mem_of_mem_eraseP listed)
      constructor
      · intro summary found
        have isSummary := List.find?_some found
        rw [left summary (List.mem_of_find?_eq_some found)] at isSummary
        cases isSummary
      · refine ih fun value listed => ?_
        rw [turn, account_silent (List.forall_mem_map.mpr left)] at listed
        exact left value listed
  exact fun _ => turns _ silent

theorem WithinRun.concat {calls : List EventCall} {call : EventCall} (within : WithinRun calls)
    (last : CallWithin (runCalls calls) call) : WithinRun (calls ++ [call]) := by
  intro before other after split
  rcases after.eq_nil_or_concat' with rfl | ⟨older, newest, rfl⟩
  · obtain ⟨rfl, same⟩ := List.append_inj' split rfl
    rwa [← (List.cons.inj same).1]
  · rw [← List.cons_append, ← List.append_assoc] at split
    exact within before other older (List.append_inj' split rfl).1

/-- A log is within bounds on a queue of wide logs, if it can take the pending count. -/
theorem wideLog_within {m n count ordinal pending : Nat} {events : List RetainedEvent}
    (long : 100 ≤ m ∧ 100 ≤ n)
    (form : events.map RetainedEvent.event = List.replicate count (wideLog m none))
    (merged : pending > 0 → ((wideLog n none).addDropped pending).Deliverable)
    (numbered : ordinal + 1 ≤ maxSafeInteger) :
    CallWithin ⟨events, ordinal, pending⟩ (.append (wideLog n none)) := by
  refine ⟨by rintro ⟨⟩, fun _ => merged, numbered, silent_within fun value listed => ?_⟩
  rw [retain_events] at listed
  rcases List.mem_append.mp listed with old | new
  · have wide : value.event ∈ events.map RetainedEvent.event := List.mem_map_of_mem old
    rw [form] at wide
    rw [List.eq_of_mem_replicate wide]
    exact wideLog_silent long.1 none
  · rw [List.mem_singleton.mp new, retained]
    split
    case isTrue => exact wideLog_silent long.2 (some _)
    case isFalse => exact wideLog_silent long.2 none

theorem wideLogs_within {n count : Nat} (size : n = 65509) (few : count ≤ 8) :
    WithinRun (wideLogCalls n count) := by
  induction count with
  | zero =>
    intro before call after split
    exact absurd split.symm (List.append_ne_nil_of_right_ne_nil _ (List.cons_ne_nil _ _))
  | succ count ih =>
    obtain ⟨rest, ran, form⟩ := @runCalls_wide n count (by omega) (by omega)
    have safe : count + 1 ≤ maxSafeInteger := by
      rw [maxSafeInteger]
      omega
    rw [wideLogCalls_succ]
    refine (ih (Nat.le_of_succ_le few)).concat ?_
    rw [ran]
    exact wideLog_within ⟨by omega, by omega⟩ form (fun more => absurd more (Nat.lt_irrefl 0)) safe

/-- After eight logs of 64 KiB each, of which the first was dropped, a shorter one takes the
count and is delivered with it. -/
theorem annotatedLog_deliverable :
    let page := (runCalls (wideLogCalls 65509 8 ++ [.append (wideLog 100 none)])).eventPage
      .active false 0
    wideLog 100 (some 1) ∈ page.events ∧ page.Deliverable := by
  obtain ⟨n, size⟩ : ∃ n, n = 65509 := ⟨_, rfl⟩
  rw [← size]
  obtain ⟨eight, before, form⟩ := runCalls_eight size
  have annotated : (wideLog 100 none).addDropped 1 = wideLog 100 (some 1) := rfl
  have digit : Json.byteLength (nat 1) ≤ 1 :=
    Json.byteLength_nat (by decide) (by decide) (by decide)
  have bytes := wideLog_bytes 100 (some 1)
  rw [Option.map_some, Option.getD_some] at bytes
  have short : Json.byteLength (wideLog 100 (some 1)).toJson ≤ 143 := by omega
  have within : WithinRun (wideLogCalls n 8 ++ [.append (wideLog 100 none)]) := by
    refine (wideLogs_within size (Nat.le_refl 8)).concat ?_
    rw [before]
    refine wideLog_within ⟨by omega, by omega⟩ form (fun _ => ?_) (by decide)
    rw [annotated]
    exact ⟨by decide, Nat.le_trans short (by decide)⟩
  have accepted : Accepted (wideLogCalls n 8 ++ [.append (wideLog 100 none)]) := by
    intro event listed
    rw [List.filterMap_append] at listed
    rcases List.mem_append.mp listed with wide | last
    · exact wideLogs_accepted (by omega) event wide
    · rw [List.mem_singleton.mp last]
      exact wideLog_accepted (by decide)
  refine ⟨?_, pages_deliverable _ accepted within .active false ⟨0, by decide⟩⟩
  have observed : (push (wideLog 100 (some 1)) ⟨eight, 8, 0⟩).observed =
      List.replicate 7 (wideLog n none) ++ [wideLog 100 (some 1)] := by
    rw [observed_push, RetainedEvents.observed, form]
  have few : (required (push (wideLog 100 (some 1)) ⟨eight, 8, 0⟩).observed).length ≤ 16 := by
    rw [observed]
    exact required_wide fun event listed => List.mem_singleton.mp listed ▸ rfl
  have room : overflows (push (wideLog 100 (some 1)) ⟨eight, 8, 0⟩).observed = false := by
    rw [observed, overflows_wideLog bytes, executionSocketFrameMaxBytes, decide_eq_false_iff_not]
    omega
  have appended : appendEvent (wideLog 100 none) ⟨eight, 8, 1⟩ =
      trimEvents (push (wideLog 100 (some 1)) ⟨eight, 8, 0⟩) := rfl
  rw [runCalls_concat, before, RetainedEvents.call, appended, trimEvents_room few room]
  have listed : (⟨9, wideLog 100 (some 1)⟩ : RetainedEvent) ∈
      beyond 0 (push (wideLog 100 (some 1)) ⟨eight, 8, 0⟩) :=
    List.mem_filter.mpr ⟨List.mem_append_right _ List.mem_cons_self, by decide⟩
  exact List.mem_map_of_mem (f := RetainedEvent.event) listed

/-- Nine of them, all accepted, make a page that is refused. -/
theorem wideLogs_undeliverable : Accepted (wideLogCalls 65509 9) ∧
    ¬((runCalls (wideLogCalls 65509 9)).eventPage .active false 0).Deliverable := by
  obtain ⟨n, size⟩ : ∃ n, n = 65509 := ⟨_, rfl⟩
  rw [← size]
  constructor
  · exact wideLogs_accepted (by omega)
  · obtain ⟨rest, ran, form⟩ := runCalls_annotated size
    rw [eventPage_deliverable (runCalls_fits _)]
    rintro ⟨held, _⟩
    have annotated : wideLog n (some 1) ∈ rest.map RetainedEvent.event := by
      rw [form]
      exact List.mem_append_right _ List.mem_cons_self
    obtain ⟨value, listed, same⟩ := List.mem_map.mp annotated
    have numbered : 0 < value.ordinal := by
      refine @History.run_ordinal (wideLogCalls n 9) _ ?_
      rw [ran]
      exact List.mem_map_of_mem listed
    have page : value ∈ beyond 0 (runCalls (wideLogCalls n 9)) := by
      rw [ran]
      exact List.mem_filter.mpr ⟨listed, decide_eq_true numbered⟩
    obtain ⟨_, bounded⟩ := held value page
    rw [same, wideLog_bytes, Option.map_some, Option.getD_some] at bounded
    have limit : executionPrivateRecordMaxBytes = 65536 := rfl
    omega

end Anastom
