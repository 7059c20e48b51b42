import Anastom.ExecutionHost.RetainedEvents

/-! The bounds of the retained queue hold in every state it can reach: at most 16 events
that are no logs, all of them kept, and at most 256 events of half a socket frame. What
trimming drops is logs, so it fails only where the events that must be kept do not fit. -/
namespace Anastom

/-- Valid but for the range of the counts of dropped logs. -/
def RuntimeEvent.Counted : RuntimeEvent → Prop
  | .log _ droppedLogs => ∀ count ∈ droppedLogs, 1 ≤ count
  | event => event.valid = true

theorem RuntimeEvent.counted_of_valid {event : RuntimeEvent} (valid : event.valid = true) :
    event.Counted := by
  cases event with
  | log message droppedLogs =>
    rintro count rfl
    exact (positive_iff.mp valid).1
  | _ => exact valid

theorem RuntimeEvent.Counted.addDropped {event : RuntimeEvent} (counted : event.Counted)
    {count : Nat} (some : 1 ≤ count) : (event.addDropped count).Counted := by
  cases event with
  | log message droppedLogs =>
    rintro total same
    rw [← Option.some.inj same]
    exact Doubles.add_positive (Nat.le_trans some (Nat.le_add_left _ _))
  | _ => exact counted

@[simp] theorem RuntimeEvent.isLog_addDropped (event : RuntimeEvent) (count : Nat) :
    (event.addDropped count).isLog = event.isLog := by
  cases event <;> rfl

namespace RetainedEvents
variable {queue next : RetainedEvents} {event : RuntimeEvent}

/-- The events that trimming never drops. -/
def required (events : List RuntimeEvent) : List RuntimeEvent := events.filter (!·.isLog)

theorem required_sublist (events : List RuntimeEvent) : (required events).Sublist events :=
  List.filter_sublist

theorem required_append (first second : List RuntimeEvent) :
    required (first ++ second) = required first ++ required second := List.filter_append ..

theorem overflows_sublist {events others : List RuntimeEvent} (fewer : events.Sublist others)
    (fits : overflows others = false) : overflows events = false := by
  have bytes : eventBytes events ≤ eventBytes others :=
    Json.byteLength_sublist (fewer.map RuntimeEvent.toJson)
  have length := fewer.length_le
  simp only [overflows, decide_eq_false_iff_not, not_or, Nat.not_lt] at fits ⊢
  omega

theorem required_eraseP (events : List RuntimeEvent) :
    required (events.eraseP RuntimeEvent.isLog) = required events := by
  induction events with
  | nil => rfl
  | cons head rest ih =>
    cases log : head.isLog with
    | true => simp [required, log]
    | false =>
      unfold required at ih ⊢
      simp [log, ih]

theorem required_modifyFirst (events : List RuntimeEvent) (count : Nat) :
    required (modifyFirst isSummary (RuntimeEvent.addDropped count) events) = required events := by
  induction events with
  | nil => rfl
  | cons head rest ih =>
    cases summary : isSummary head with
    | true =>
      have log : head.isLog = true := by
        cases head <;> first | rfl | cases summary
      simp [modifyFirst, summary, required, log]
    | false =>
      simp only [modifyFirst, summary, Bool.false_eq_true, if_false, required] at ih ⊢
      rw [List.filter_cons, List.filter_cons, ih]

theorem countP_modifyFirst (events : List RuntimeEvent) (count : Nat) :
    (modifyFirst isSummary (RuntimeEvent.addDropped count) events).countP RuntimeEvent.isLog =
      events.countP RuntimeEvent.isLog := by
  induction events with
  | nil => rfl
  | cons head rest ih =>
    cases summary : isSummary head with
    | true => simp [modifyFirst, summary, List.countP_cons]
    | false => simp [modifyFirst, summary, List.countP_cons, ih]

theorem mem_modifyFirst {events : List RuntimeEvent} {count : Nat}
    (member : event ∈ modifyFirst isSummary (RuntimeEvent.addDropped count) events) :
    event ∈ events ∨ ∃ original ∈ events, event = original.addDropped count := by
  induction events with
  | nil => cases member
  | cons head rest ih =>
    unfold modifyFirst at member
    split at member
    · rcases List.mem_cons.mp member with rfl | later
      · exact .inr ⟨head, List.mem_cons_self, rfl⟩
      · exact .inl (List.mem_cons_of_mem _ later)
    · rcases List.mem_cons.mp member with rfl | later
      · exact .inl List.mem_cons_self
      · rcases ih later with listed | ⟨original, listed, rfl⟩
        · exact .inl (List.mem_cons_of_mem _ listed)
        · exact .inr ⟨original, List.mem_cons_of_mem _ listed, rfl⟩

theorem map_modifyFirst (events : List RetainedEvent) (count : Nat) :
    (modifyFirst (isSummary ·.event)
      (fun value => { value with event := value.event.addDropped count }) events).map
        RetainedEvent.event =
      modifyFirst isSummary (RuntimeEvent.addDropped count) (events.map RetainedEvent.event) := by
  induction events with
  | nil => rfl
  | cons head rest ih =>
    simp only [modifyFirst, List.map_cons]
    split
    · rfl
    · rw [List.map_cons, ih]

theorem map_eraseP (events : List RetainedEvent) :
    (events.eraseP (·.event.isLog)).map RetainedEvent.event =
      (events.map RetainedEvent.event).eraseP RuntimeEvent.isLog := by
  rw [List.eraseP_map]
  rfl

/-- The events after one turn: the oldest log is gone and a summary may count it. -/
theorem account_observed (removed : Nat) (queue : RetainedEvents) :
    (account removed queue).observed = queue.observed ∨
      (account removed queue).observed =
        modifyFirst isSummary (RuntimeEvent.addDropped removed) queue.observed := by
  unfold account
  split
  · exact .inr (map_modifyFirst queue.events removed)
  · exact .inl rfl

/-- What one turn of the loop keeps. -/
structure Turned (before after : RetainedEvents) : Prop where
  required : required after.observed = required before.observed
  counted : (∀ event ∈ before.observed, event.Counted) → ∀ event ∈ after.observed, event.Counted
  fewer : after.observed.countP RuntimeEvent.isLog + 1 = before.observed.countP RuntimeEvent.isLog

theorem turned {removed : RetainedEvent} (found : queue.events.find? (·.event.isLog) = some removed) :
    Turned queue (account (Doubles.add removed.event.dropped 1)
      { queue with events := queue.events.eraseP (·.event.isLog) }) := by
  have some : 1 ≤ Doubles.add removed.event.dropped 1 :=
    Doubles.add_positive (Nat.le_add_left _ _)
  have erased : ({ queue with events := queue.events.eraseP (·.event.isLog) } :
      RetainedEvents).observed = queue.observed.eraseP RuntimeEvent.isLog := map_eraseP queue.events
  have listed : removed.event ∈ queue.observed :=
    List.mem_map_of_mem (List.mem_of_find?_eq_some found)
  have log : removed.event.isLog = true := by simpa using List.find?_some found
  have fewer : (queue.observed.eraseP RuntimeEvent.isLog).countP RuntimeEvent.isLog + 1 =
      queue.observed.countP RuntimeEvent.isLog := by
    obtain ⟨event, before, after, _, isLog, split, rest⟩ := List.exists_of_eraseP listed log
    rw [rest, split]
    simp [List.countP_append, isLog]
    omega
  rcases account_observed (Doubles.add removed.event.dropped 1)
    { queue with events := queue.events.eraseP (·.event.isLog) } with same | changed
  · constructor
    · rw [same, erased, required_eraseP]
    · intro counted event member
      rw [same, erased] at member
      exact counted event (List.mem_of_mem_eraseP member)
    · rw [same, erased, fewer]
  · constructor
    · rw [changed, required_modifyFirst, erased, required_eraseP]
    · intro counted event member
      rw [changed, erased] at member
      rcases mem_modifyFirst member with kept | ⟨original, kept, rfl⟩
      · exact counted event (List.mem_of_mem_eraseP kept)
      · exact (counted original (List.mem_of_mem_eraseP kept)).addDropped some
    · rw [changed, countP_modifyFirst, erased, fewer]

/-- What trimming ends with where the events that must be kept fit. -/
structure Trimmed (before after : RetainedEvents) : Prop where
  required : required after.observed = required before.observed
  counted : (∀ event ∈ before.observed, event.Counted) → ∀ event ∈ after.observed, event.Counted
  fits : overflows after.observed = false

theorem required_of_noLog {events : List RuntimeEvent} (none : ∀ event ∈ events, event.isLog = false) :
    required events = events := by
  rw [required, List.filter_eq_self]
  intro event member
  rw [none event member]
  rfl

theorem noLog_of_find (absent : queue.events.find? (·.event.isLog) = none) :
    ∀ event ∈ queue.observed, event.isLog = false := by
  intro event member
  obtain ⟨value, listed, rfl⟩ := List.mem_map.mp member
  simpa using List.find?_eq_none.mp absent value listed

/-- The induction is on the turns that are left, more than there are logs. -/
theorem dropLogs_fits {fuel : Nat} (enough : queue.observed.countP RuntimeEvent.isLog < fuel)
    (fits : overflows (required queue.observed) = false) :
    ∃ next, dropLogs fuel queue = (.ok (), next) ∧ Trimmed queue next := by
  induction fuel generalizing queue with
  | zero => exact absurd enough (Nat.not_lt_zero _)
  | succ fuel ih =>
    unfold dropLogs
    cases full : overflows queue.observed with
    | false => exact ⟨queue, rfl, rfl, id, full⟩
    | true =>
      cases found : queue.events.find? (·.event.isLog) with
      | none =>
        rw [required_of_noLog (noLog_of_find found), full] at fits
        cases fits
      | some removed =>
        have turn := turned found
        have fewer := turn.fewer
        obtain ⟨next, ended, trimmed⟩ := ih (by omega) (turn.required ▸ fits)
        exact ⟨next, ended, trimmed.required.trans turn.required,
          trimmed.counted ∘ turn.counted, trimmed.fits⟩

/-- Where the events that must be kept do not fit, the last of the queue is given up. -/
theorem dropLogs_overflow {fuel : Nat} (enough : queue.observed.countP RuntimeEvent.isLog < fuel)
    (full : overflows (required queue.observed) = true) :
    ∃ failure next, dropLogs fuel queue = (.error failure, next) ∧
      next.observed = (required queue.observed).dropLast := by
  induction fuel generalizing queue with
  | zero => exact absurd enough (Nat.not_lt_zero _)
  | succ fuel ih =>
    have all : overflows queue.observed = true := by
      by_contra fits
      rw [overflows_sublist (required_sublist _) (Bool.eq_false_iff.mpr fits)] at full
      cases full
    unfold dropLogs
    rw [all]
    cases found : queue.events.find? (·.event.isLog) with
    | none =>
      refine ⟨_, _, rfl, ?_⟩
      rw [required_of_noLog (noLog_of_find found)]
      exact List.map_dropLast
    | some removed =>
      have turn := turned found
      have fewer := turn.fewer
      obtain ⟨failure, next, ended, rest⟩ := ih (by omega) (turn.required ▸ full)
      exact ⟨failure, next, ended, by rw [rest, turn.required]⟩

/-- Short events fit as long as they are few. -/
theorem overflows_short {events : List RuntimeEvent} (few : events.length ≤ 256)
    (short : ∀ event ∈ events, Json.byteLength event.toJson ≤ 200) : overflows events = false := by
  have sizes : (events.map fun event => Json.byteLength event.toJson).sum ≤
      events.length * 200 := by
    simpa using List.sum_le_card_nsmul (events.map fun event => Json.byteLength event.toJson) 200
      (by simpa using short)
  have bytes : eventBytes events =
      2 + (events.map fun event => Json.byteLength event.toJson).sum + (events.length - 1) := by
    rw [eventBytes, Json.byteLength_array, List.map_map, List.length_map]
    rfl
  simp only [overflows, bytes, executionSocketFrameMaxBytes, decide_eq_false_iff_not, not_or,
    Nat.not_lt]
  omega

theorem log_short {message : String} {droppedLogs : Option Nat}
    (brief : Json.byteLength (.string message) ≤ 100)
    (small : ∀ count ∈ droppedLogs, count < 10 ^ 17) :
    Json.byteLength (RuntimeEvent.log message droppedLogs).toJson ≤ 200 := by
  rw [RuntimeEvent.log_bytes]
  cases droppedLogs with
  | none => simpa using Nat.le_trans brief (by decide)
  | some count =>
    have digits := Json.byteLength_nat (small count rfl) (by decide) (by decide)
    simp only [Option.map_some, Option.getD_some]
    omega

theorem dropLogs_room {fuel : Nat} (fits : overflows queue.observed = false) :
    dropLogs (fuel + 1) queue = (.ok (), queue) :=
  if_neg (Bool.eq_false_iff.mp fits)

theorem dropLogs_turn {fuel : Nat} {removed : RetainedEvent}
    (full : overflows queue.observed = true)
    (found : queue.events.find? (·.event.isLog) = some removed) :
    dropLogs (fuel + 1) queue = dropLogs fuel (account (Doubles.add removed.event.dropped 1)
      { queue with events := queue.events.eraseP (·.event.isLog) }) := by
  conv_lhs => unfold dropLogs
  simp only [full, if_true, found]

theorem trimEvents_few (few : (required queue.observed).length ≤ 16) :
    trimEvents queue = dropLogs (queue.events.length + 1) queue :=
  if_neg (Nat.not_lt.mpr few)

/-- A queue that fits is left as it is. -/
theorem trimEvents_room (few : (required queue.observed).length ≤ 16)
    (fits : overflows queue.observed = false) : trimEvents queue = (.ok (), queue) := by
  rw [trimEvents_few few, dropLogs_room fits]

/-- A queue that one turn makes fit loses its oldest log. -/
theorem trimEvents_turn {first : RetainedEvent} {rest : List RetainedEvent}
    (form : queue.events = first :: rest) (log : first.event.isLog = true)
    (few : (required queue.observed).length ≤ 16) (full : overflows queue.observed = true)
    (fits : overflows (account (Doubles.add first.event.dropped 1)
      { queue with events := rest }).observed = false) :
    trimEvents queue =
      (.ok (), account (Doubles.add first.event.dropped 1) { queue with events := rest }) := by
  have found : queue.events.find? (·.event.isLog) = some first := by
    rw [form]
    exact List.find?_cons_of_pos log
  have erased : queue.events.eraseP (·.event.isLog) = rest := by
    rw [form]
    exact List.eraseP_cons_of_pos log
  rw [trimEvents_few few, dropLogs_turn full found, erased, form, List.length_cons,
    dropLogs_room fits]

theorem account_silent {removed : Nat} (silent : ∀ event ∈ queue.observed, isSummary event = false) :
    account removed queue = { queue with droppedLogs := Doubles.add queue.droppedLogs removed } := by
  refine if_neg fun summary => ?_
  obtain ⟨value, listed, isSummary⟩ := List.any_eq_true.mp summary
  rw [silent _ (List.mem_map_of_mem listed)] at isSummary
  cases isSummary

theorem length_modifyFirst {α : Type} (test : α → Bool) (f : α → α) (items : List α) :
    (modifyFirst test f items).length = items.length := by
  induction items with
  | nil => rfl
  | cons head rest ih =>
    unfold modifyFirst
    split
    · rfl
    · rw [List.length_cons, List.length_cons, ih]

theorem required_logs {events : List RuntimeEvent} (logs : ∀ event ∈ events, event.isLog = true) :
    (required events).length ≤ 16 := by
  have none : required events = [] := List.filter_eq_nil_iff.mpr fun event member => by
    rw [logs event member]
    exact Bool.false_ne_true
  rw [none]
  exact Nat.zero_le _

theorem overflows_many {events : List RuntimeEvent} (many : 256 < events.length) :
    overflows events = true :=
  decide_eq_true (.inl many)

/-- One log more than are retained. -/
theorem trimEvents_many {first : RetainedEvent} {rest : List RetainedEvent}
    (form : queue.events = first :: rest) (many : rest.length = 256)
    (logs : ∀ event ∈ queue.observed, event.isLog = true)
    (short : ∀ event ∈ (account (Doubles.add first.event.dropped 1)
      { queue with events := rest }).observed, Json.byteLength event.toJson ≤ 200) :
    trimEvents queue =
      (.ok (), account (Doubles.add first.event.dropped 1) { queue with events := rest }) := by
  have shape : queue.observed = first.event :: rest.map RetainedEvent.event := by
    rw [observed, form]
    rfl
  have length : (account (Doubles.add first.event.dropped 1)
      { queue with events := rest }).observed.length ≤ 256 := by
    rcases account_observed (Doubles.add first.event.dropped 1)
      { queue with events := rest } with same | changed
    · rw [same, observed, List.length_map, many]
    · rw [changed, length_modifyFirst, observed, List.length_map, many]
  refine trimEvents_turn form ?_ (required_logs logs) (overflows_many ?_)
    (overflows_short length short)
  · exact logs _ (by rw [shape]; exact List.mem_cons_self)
  · rw [shape]
    simp [many]

/-- The bounds of a retained queue. -/
structure Bounded (queue : RetainedEvents) : Prop where
  required : (required queue.observed).length ≤ 16
  fits : overflows queue.observed = false
  counted : ∀ event ∈ queue.observed, event.Counted

theorem Bounded.length (bounded : queue.Bounded) : queue.observed.length ≤ 256 := by
  have fits := bounded.fits
  simp only [overflows, decide_eq_false_iff_not, not_or, Nat.not_lt] at fits
  exact fits.1

theorem Bounded.bytes (bounded : queue.Bounded) :
    eventBytes queue.observed ≤ executionSocketFrameMaxBytes / 2 := by
  have fits := bounded.fits
  simp only [overflows, decide_eq_false_iff_not, not_or, Nat.not_lt] at fits
  exact fits.2

theorem enough (queue : RetainedEvents) :
    queue.observed.countP RuntimeEvent.isLog < queue.events.length + 1 := by
  have bound := List.countP_le_length (p := RuntimeEvent.isLog) (l := queue.observed)
  rw [observed, List.length_map] at bound
  rw [observed]
  omega

/-- A log never makes trimming fail. -/
theorem trimEvents_log (bounded : queue.Bounded) (counted : event.Counted)
    (log : event.isLog = true) (pushed : next.observed = queue.observed ++ [event]) :
    ∃ trimmed, trimEvents next = (.ok (), trimmed) ∧ trimmed.Bounded ∧
      RetainedEvents.required trimmed.observed = RetainedEvents.required queue.observed := by
  have kept : RetainedEvents.required next.observed = RetainedEvents.required queue.observed := by
    rw [pushed, required_append]
    simp [RetainedEvents.required, log]
  have fits : overflows (RetainedEvents.required next.observed) = false := by
    rw [kept]
    exact overflows_sublist (required_sublist _) bounded.fits
  obtain ⟨trimmed, ended, trim⟩ := dropLogs_fits (enough next) fits
  have few : (RetainedEvents.required next.observed).length ≤ 16 := by
    rw [kept]
    exact bounded.required
  refine ⟨trimmed, ?_, ⟨?_, trim.fits, trim.counted ?_⟩, trim.required.trans kept⟩
  · rw [trimEvents_few few, ended]
  · rw [trim.required, kept]
    exact bounded.required
  · rw [pushed]
    intro other member
    rcases List.mem_append.mp member with old | new
    · exact bounded.counted other old
    · rwa [List.mem_singleton.mp new]

theorem trimEvents_bounded (bounded : queue.Bounded) (counted : event.Counted)
    (pushed : next.observed = queue.observed ++ [event]) : (trimEvents next).2.Bounded := by
  cases log : event.isLog with
  | true =>
    obtain ⟨trimmed, ended, kept, _⟩ := trimEvents_log bounded counted log pushed
    rw [ended]
    exact kept
  | false =>
    have kept : RetainedEvents.required next.observed =
        RetainedEvents.required queue.observed ++ [event] := by
      rw [pushed, required_append]
      simp [RetainedEvents.required, log]
    have dropped (after : RetainedEvents) (rest : after.observed.Sublist queue.observed)
        (few : (RetainedEvents.required after.observed).length ≤ 16) : after.Bounded :=
      ⟨few, overflows_sublist rest bounded.fits, fun other member =>
        bounded.counted other (rest.subset member)⟩
    unfold trimEvents
    split
    · have last : next.events.dropLast.map RetainedEvent.event = queue.observed := by
        rw [List.map_dropLast]
        change next.observed.dropLast = _
        rw [pushed, List.dropLast_concat]
      refine dropped _ ?_ ?_
      · exact last ▸ List.Sublist.refl _
      · change (RetainedEvents.required (next.events.dropLast.map RetainedEvent.event)).length ≤ 16
        rw [last]
        exact bounded.required
    case isFalse few =>
      cases full : overflows (RetainedEvents.required next.observed) with
      | false =>
        obtain ⟨trimmed, ended, trim⟩ := dropLogs_fits (enough next) full
        rw [ended]
        refine ⟨?_, trim.fits, trim.counted ?_⟩
        · rw [trim.required]
          exact Nat.not_lt.mp few
        · rw [pushed]
          intro other member
          rcases List.mem_append.mp member with old | new
          · exact bounded.counted other old
          · rwa [List.mem_singleton.mp new]
      | true =>
        obtain ⟨failure, trimmed, ended, rest⟩ := dropLogs_overflow (enough next) full
        rw [ended]
        rw [kept, List.dropLast_concat] at rest
        have noLogs : RetainedEvents.required trimmed.observed = trimmed.observed := by
          rw [rest]
          simp [RetainedEvents.required]
        refine dropped _ ?_ ?_
        · rw [rest]
          exact List.filter_sublist
        · rw [noLogs, rest]
          exact bounded.required

theorem observed_push (event : RuntimeEvent) (queue : RetainedEvents) :
    (push event queue).observed = queue.observed ++ [event] := by
  simp [push, observed]

/-- The summary of what was dropped is itself a log, so reporting it never fails. -/
theorem flushDroppedLogs_bounded (bounded : queue.Bounded) :
    ∃ flushed, flushDroppedLogs queue = (.ok (), flushed) ∧ flushed.Bounded ∧
      RetainedEvents.required flushed.observed = RetainedEvents.required queue.observed := by
  unfold flushDroppedLogs
  split
  · exact ⟨queue, rfl, bounded, rfl⟩
  case isFalse pending =>
    have counted : (RuntimeEvent.log truncatedLogMessage (some queue.droppedLogs)).Counted := by
      rintro count ⟨⟩
      omega
    exact trimEvents_log bounded counted rfl (observed_push _ queue)

theorem retain_observed (event : RuntimeEvent) (queue : RetainedEvents) :
    ∃ retained, (retain event queue).observed = queue.observed ++ [retained] ∧
      (retained = event ∨ (1 ≤ queue.droppedLogs ∧ retained = event.addDropped queue.droppedLogs)) := by
  unfold retain
  split
  case isTrue merged => exact ⟨_, observed_push _ queue, .inr ⟨merged.2, rfl⟩⟩
  case isFalse => exact ⟨event, observed_push _ queue, .inl rfl⟩

theorem appendEvent_bounded (bounded : queue.Bounded) (counted : event.Counted) :
    (appendEvent event queue).2.Bounded := by
  have before : ∃ flushed, flushBefore event queue = (.ok (), flushed) ∧ flushed.Bounded := by
    cases event with
    | completed status =>
      obtain ⟨flushed, ran, kept, _⟩ := flushDroppedLogs_bounded bounded
      exact ⟨flushed, ran, kept⟩
    | _ => exact ⟨queue, rfl, bounded⟩
  obtain ⟨flushed, ran, kept⟩ := before
  have run : appendEvent event queue = trimEvents (retain event flushed) := by
    simp only [appendEvent, bind, ran]
    rfl
  obtain ⟨retained, pushed, form⟩ := retain_observed event flushed
  have retainedCounted : retained.Counted := by
    rcases form with rfl | ⟨some, rfl⟩
    · exact counted
    · exact counted.addDropped some
  rw [run]
  exact trimEvents_bounded kept retainedCounted pushed

theorem empty_bounded : ({} : RetainedEvents).Bounded where
  required := Nat.zero_le _
  fits := overflows_short (Nat.zero_le _) fun _ member => absurd member List.not_mem_nil
  counted _ member := absurd member List.not_mem_nil

end RetainedEvents

/-- The queues that a supervisor can hold: whatever events it accepts from its runtime
host, and whether or not it refuses to retain one of them. -/
inductive RetainedEvents.Reachable : RetainedEvents → Prop
  | empty : Reachable {}
  | append {queue : RetainedEvents} {event : RuntimeEvent} (reached : Reachable queue)
      (accepted : assertRuntimeHostOutput (RuntimeHostOutput.event event).toJson = .ok ()) :
      Reachable (appendEvent event queue).2

theorem RetainedEvents.Reachable.bounded {queue : RetainedEvents} (reached : queue.Reachable) :
    queue.Bounded := by
  induction reached with
  | empty => exact empty_bounded
  | append reached accepted ih =>
    have admitted := assertRuntimeHostOutput_event.mp accepted
    exact appendEvent_bounded ih (RuntimeEvent.counted_of_valid admitted.1)

/-- The queue after what a runtime host reported. -/
def RetainedEvents.reported (events : List RuntimeEvent) : RetainedEvents :=
  events.foldl (fun queue event => (appendEvent event queue).2) {}

theorem RetainedEvents.reported_concat (events : List RuntimeEvent) (event : RuntimeEvent) :
    reported (events ++ [event]) = (appendEvent event (reported events)).2 :=
  List.foldl_concat ..

theorem RetainedEvents.reported_reachable {events : List RuntimeEvent}
    (accepted : ∀ event ∈ events,
      assertRuntimeHostOutput (RuntimeHostOutput.event event).toJson = .ok ()) :
    (reported events).Reachable := by
  induction events using List.reverseRecOn with
  | nil => exact .empty
  | append_singleton events event ih =>
    rw [reported_concat]
    refine .append (ih fun other member => accepted other ?_) (accepted event ?_)
    · exact List.mem_append_left _ member
    · exact List.mem_append_right _ (List.mem_singleton_self event)

end Anastom
