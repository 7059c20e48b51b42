import Anastom.ExecutionHost.EventTurns

/-! What trimming does to the count of logs. A log weighs one and the logs it counts, and a
supervisor's summary the logs it counts alone; dropping a log moves its weight to a summary
or to the pending counter. A summary that is dropped counts for one more than it weighs, so
the weight is conserved as long as none is. -/
namespace Anastom
namespace RetainedEvents

/-- The weight of a log that a runtime emits. -/
def logWeight (event : RuntimeEvent) : Nat := if event.isLog then 1 + event.dropped else 0

def totalWeight (events : List RuntimeEvent) : Nat := (events.map logWeight).sum

/-- The weight of a retained event, where the logs with these ordinals are summaries. -/
def weight (summaries : List Nat) (value : RetainedEvent) : Nat :=
  if value.ordinal ∈ summaries then value.event.dropped else logWeight value.event

def queueWeight (summaries : List Nat) (events : List RetainedEvent) : Nat :=
  (events.map (weight summaries)).sum

/-- The weight that a queue holds, with its pending counter. -/
def held (summaries : List Nat) (queue : RetainedEvents) : Nat :=
  queueWeight summaries queue.events + queue.droppedLogs

variable {summaries : List Nat} {queue : RetainedEvents} {removed value : RetainedEvent}
  {event : RuntimeEvent}

theorem queueWeight_append (first second : List RetainedEvent) :
    queueWeight summaries (first ++ second) =
      queueWeight summaries first + queueWeight summaries second := by
  rw [queueWeight, List.map_append, List.sum_append]
  rfl

theorem queueWeight_cons (value : RetainedEvent) (rest : List RetainedEvent) :
    queueWeight summaries (value :: rest) = weight summaries value + queueWeight summaries rest := by
  rw [queueWeight, List.map_cons, List.sum_cons]
  rfl

theorem dropped_of_not_log (other : event.isLog = false) : event.dropped = 0 := by
  cases event with
  | log message droppedLogs => cases other
  | _ => rfl

theorem weight_of_not_log (other : value.event.isLog = false) : weight summaries value = 0 := by
  rw [weight, logWeight, other, dropped_of_not_log other]
  split <;> rfl

/-- A sum of counts that is not rounded. -/
def ExactSum (count other : Nat) : Prop := Doubles.add count other = count + other

theorem dropped_addDropped (log : event.isLog = true) {count : Nat}
    (exact_ : ExactSum event.dropped count) :
    (event.addDropped count).dropped = event.dropped + count := by
  cases event with
  | log message droppedLogs => exact exact_
  | _ => cases log

theorem weight_addDropped (log : value.event.isLog = true) {count : Nat}
    (exact_ : ExactSum value.event.dropped count) :
    weight summaries { value with event := value.event.addDropped count } =
      weight summaries value + count := by
  rw [weight, weight, logWeight, logWeight, RuntimeEvent.isLog_addDropped, log,
    dropped_addDropped log exact_]
  split
  · rfl
  · exact (Nat.add_assoc _ _ _).symm

theorem isSummary_log (summary : isSummary event = true) : event.isLog = true := by
  cases event with
  | log message droppedLogs => rfl
  | _ => cases summary

theorem queueWeight_modifyFirst {events : List RetainedEvent} {count : Nat}
    (found : events.find? (isSummary ·.event) = some value)
    (exact_ : ExactSum value.event.dropped count) :
    queueWeight summaries (modifyFirst (isSummary ·.event)
      (fun value => { value with event := value.event.addDropped count }) events) =
      queueWeight summaries events + count := by
  induction events with
  | nil => cases found
  | cons head rest ih =>
    unfold modifyFirst
    split
    case isTrue summary =>
      rw [List.find?_cons, summary] at found
      obtain rfl := Option.some.inj found
      rw [queueWeight_cons, queueWeight_cons, weight_addDropped (isSummary_log summary) exact_]
      exact Nat.add_right_comm _ _ _
    case isFalse other =>
      rw [List.find?_cons, Bool.not_eq_true _ |>.mp other] at found
      rw [queueWeight_cons, queueWeight_cons, ih found]
      exact (Nat.add_assoc _ _ _).symm

/-- The counter that takes what a removed log counts. -/
def counter (queue : RetainedEvents) : Nat :=
  ((queue.events.find? (isSummary ·.event)).map (·.event.dropped)).getD queue.droppedLogs

theorem account_held {count : Nat} (exact_ : ExactSum queue.counter count) :
    held summaries (account count queue) = held summaries queue + count := by
  unfold account
  cases found : queue.events.find? (isSummary ·.event) with
  | none =>
    have none : queue.events.any (isSummary ·.event) = false := by
      rw [← Bool.not_eq_true, List.any_eq_true]
      rintro ⟨value, listed, summary⟩
      exact List.find?_eq_none.mp found value listed summary
    rw [counter, found] at exact_
    rw [none, if_neg Bool.false_ne_true, held, held]
    exact (congrArg (queueWeight summaries queue.events + ·) exact_).trans
      (Nat.add_assoc _ _ _).symm
  | some value =>
    have summary : isSummary value.event = true := by simpa using List.find?_some found
    have some : queue.events.any (isSummary ·.event) = true :=
      List.any_eq_true.mpr ⟨value, List.mem_of_find?_eq_some found, summary⟩
    rw [counter, found] at exact_
    rw [some, if_pos rfl, held, held, queueWeight_modifyFirst found exact_]
    exact Nat.add_right_comm _ _ _

/-- A turn that drops a log other than the summaries, with exact sums. -/
structure ExactTurn (summaries : List Nat) (queue : RetainedEvents) (removed : RetainedEvent) :
    Prop where
  spared : removed.ordinal ∉ summaries
  counted : ExactSum removed.event.dropped 1
  accounted : ExactSum
    (counter { queue with events := queue.events.eraseP (·.event.isLog) })
    (removed.event.dropped + 1)

/-- Such a turn moves the weight of the log that it drops. -/
theorem turn_held (drops : Drops queue removed) (exact_ : ExactTurn summaries queue removed) :
    held summaries (turn removed queue) = held summaries queue := by
  obtain ⟨before, after, split, _, erased⟩ := drops.split
  have accounted := exact_.accounted
  rw [turn, exact_.counted, account_held accounted, erased, held, held, split,
    queueWeight_append, queueWeight_append, queueWeight_cons, weight, if_neg exact_.spared,
    logWeight, if_pos drops.log]
  dsimp only
  omega

theorem pop_held {last : RetainedEvent} (ends : queue.events.getLast? = some last)
    (other : last.event.isLog = false) : held summaries (pop queue) = held summaries queue := by
  obtain ⟨before, split⟩ := List.getLast?_eq_some_iff.mp ends
  rw [held, held, pop, split, List.dropLast_concat, queueWeight_append, queueWeight_cons,
    weight_of_not_log other]
  rfl

/-- Trimming that drops no summary and rounds no sum. -/
def TrimsExactly (summaries : List Nat) : RetainedEvents → Prop :=
  TrimsWhile (ExactTurn summaries)

theorem trimEvents_held {next : RetainedEvents} (fits : queue.Fits)
    (pushed : next.events = queue.events ++ [value]) (exact_ : TrimsExactly summaries next) :
    held summaries (trimEvents next).2 = held summaries next := by
  refine trimEvents_rule (fun queue => held summaries queue = held summaries next)
    ?_ ?_ fits.required pushed rfl exact_
  · intro queue removed same drops exact_
    rw [turn_held drops exact_, same]
  · intro queue last same ends other
    rw [pop_held ends other, same]

theorem retain_held (fresh : queue.ordinal + 1 ∉ summaries)
    (exact_ : event.isLog = true → ExactSum event.dropped queue.droppedLogs) :
    held summaries (retain event queue) = held summaries queue + logWeight event := by
  have new : weight summaries (retained event queue) = logWeight (retained event queue).event :=
    if_neg fresh
  have whole : queueWeight summaries (retain event queue).events =
      queueWeight summaries queue.events + logWeight (retained event queue).event := by
    rw [retain_events, queueWeight_append, queueWeight_cons, new]
    rfl
  rw [held, held, whole]
  by_cases merged : event.isLog ∧ queue.droppedLogs > 0
  · rw [retained, retain, if_pos merged, if_pos merged, logWeight, logWeight,
      RuntimeEvent.isLog_addDropped, if_pos merged.1, if_pos merged.1,
      dropped_addDropped merged.1 (exact_ merged.1)]
    dsimp only
    omega
  · rw [retained, retain, if_neg merged, if_neg merged]
    exact Nat.add_right_comm _ _ _

/-- A new ordinal weighs no event that was there before. -/
theorem queueWeight_fresh {events : List RetainedEvent} {ordinal : Nat}
    (fresh : ∀ value ∈ events, value.ordinal ≠ ordinal) :
    queueWeight (ordinal :: summaries) events = queueWeight summaries events := by
  rw [queueWeight, queueWeight]
  refine congrArg List.sum (List.map_congr_left fun value listed => ?_)
  simp only [weight, List.mem_cons, fresh value listed, false_or]

theorem summarize_held (bound : ∀ value ∈ queue.events, value.ordinal ≤ queue.ordinal) :
    held ((queue.ordinal + 1) :: summaries) queue.summarize = held summaries queue := by
  have fresh : ∀ value ∈ queue.events, value.ordinal ≠ queue.ordinal + 1 := by
    intro value listed same
    have below := bound value listed
    omega
  rw [held, held, summarize_events, queueWeight_append, queueWeight_fresh fresh, queueWeight_cons,
    weight, if_pos List.mem_cons_self]
  rfl

end RetainedEvents

open RetainedEvents

/-- The queue of a supervisor with the ordinals of the summaries it pushed, the events that
were appended and those of them that were accepted. -/
structure Ledger where
  queue : RetainedEvents := {}
  summaries : List Nat := []
  appended : List RuntimeEvent := []
  accepted : List RuntimeEvent := []

namespace Ledger

def flush (ledger : Ledger) : Ledger :=
  { ledger with
    queue := (flushDroppedLogs ledger.queue).2
    summaries :=
      if ledger.queue.droppedLogs < 1 then ledger.summaries
      else (ledger.queue.ordinal + 1) :: ledger.summaries }

/-- A completion flushes before it is appended. -/
def flushFor (event : RuntimeEvent) (ledger : Ledger) : Ledger :=
  if event.isCompleted then ledger.flush else ledger

def append (event : RuntimeEvent) (ledger : Ledger) : Ledger where
  queue := (appendEvent event ledger.queue).2
  summaries := (ledger.flushFor event).summaries
  appended := ledger.appended ++ [event]
  accepted :=
    if (appendEvent event ledger.queue).1.isOk then ledger.accepted ++ [event]
    else ledger.accepted

def call (ledger : Ledger) : EventCall → Ledger
  | .append event => ledger.append event
  | .flush => ledger.flush

def run (calls : List EventCall) : Ledger := calls.foldl call {}

/-- A flush that drops no summary, the one it pushes included. -/
def FlushesExactly (ledger : Ledger) : Prop :=
  1 ≤ ledger.queue.droppedLogs → TrimsExactly ledger.flush.summaries ledger.queue.summarize

/-- A call that drops no summary and rounds no sum of counts. -/
def Exact (ledger : Ledger) : EventCall → Prop
  | .flush => ledger.FlushesExactly
  | .append event =>
    (event.isCompleted = true → ledger.FlushesExactly) ∧
    (event.isLog = true → ExactSum event.dropped ledger.queue.droppedLogs) ∧
    TrimsExactly (ledger.flushFor event).summaries
      (retain event (ledger.flushFor event).queue)

/-- What holds of a supervisor's queue in any case. -/
structure Sound (ledger : Ledger) : Prop where
  fits : ledger.queue.Fits
  ordinals : ∀ value ∈ ledger.queue.events, value.ordinal ≤ ledger.queue.ordinal
  summaries : ∀ ordinal ∈ ledger.summaries, ordinal ≤ ledger.queue.ordinal
  accepted : required ledger.queue.observed = required ledger.accepted

variable {ledger : Ledger} {event : RuntimeEvent} {calls : List EventCall}

theorem sound_fresh : Sound {} where
  fits := fits_empty
  ordinals := by simp
  summaries := by simp
  accepted := rfl

theorem flushFor_queue (ledger : Ledger) (event : RuntimeEvent) :
    (ledger.flushFor event).queue = flushedFor event ledger.queue := by
  rw [flushFor, flushedFor]
  split <;> rfl

/-- The ordinals of a trimmed queue are among those before. -/
theorem trims_ordinals {before after : RetainedEvents} (trims : Trims before after)
    (bound : ∀ value ∈ before.events, value.ordinal ≤ before.ordinal) :
    ∀ value ∈ after.events, value.ordinal ≤ after.ordinal := by
  intro value listed
  obtain ⟨old, before, same⟩ :=
    List.mem_map.mp (trims.ordinals.subset (List.mem_map_of_mem listed))
  rw [trims.ordinal, ← same]
  exact bound old before

theorem ordinals_push {events : List RetainedEvent} {ordinal : Nat} (value : RetainedEvent)
    (bound : ∀ value ∈ events, value.ordinal ≤ ordinal) (new : value.ordinal = ordinal + 1) :
    ∀ other ∈ events ++ [value], other.ordinal ≤ ordinal + 1 := by
  intro other listed
  rcases List.mem_append.mp listed with old | last
  · exact Nat.le_succ_of_le (bound other old)
  · rw [List.mem_singleton.mp last, new]

theorem Sound.flush (sound : ledger.Sound) : ledger.flush.Sound := by
  obtain ⟨after, ran, room, ⟨none, rfl⟩ | ⟨some, trims⟩⟩ := flushDroppedLogs_cases sound.fits
  · have same : ledger.flush = ledger := by
      rw [Ledger.flush, ran, if_pos (by omega)]
    rwa [same]
  · refine ⟨?_, ?_, ?_, ?_⟩
    · rw [Ledger.flush, ran]
      exact room
    · rw [Ledger.flush, ran]
      exact trims_ordinals trims (ordinals_push ⟨_, _⟩ sound.ordinals rfl)
    · rw [Ledger.flush, ran, if_neg (by omega)]
      intro ordinal listed
      rw [trims.ordinal]
      rcases List.mem_cons.mp listed with rfl | old
      · exact Nat.le_refl _
      · exact Nat.le_succ_of_le (sound.summaries ordinal old)
    · rw [Ledger.flush, ran, required_observed, trims.kept,
        kept_log (summarize_events ledger.queue) rfl, ← required_observed]
      exact sound.accepted

theorem Sound.flushFor (sound : ledger.Sound) (event : RuntimeEvent) :
    (ledger.flushFor event).Sound := by
  rw [Ledger.flushFor]
  split
  · exact sound.flush
  · exact sound

theorem Sound.append (sound : ledger.Sound) (event : RuntimeEvent) :
    (ledger.append event).Sound := by
  have flushed := sound.flushFor event
  have same := flushFor_queue ledger event
  have accepted : (ledger.flushFor event).accepted = ledger.accepted := by
    rw [Ledger.flushFor]
    split <;> rfl
  have before := flushed.accepted
  rw [accepted] at before
  obtain ⟨after, room, ⟨ran, trims⟩ | ⟨other, failure, ran, trims⟩⟩ :=
    appendEvent_cases event sound.fits
  all_goals rw [← same] at trims
  · refine ⟨?_, ?_, ?_, ?_⟩
    · rw [Ledger.append, ran]
      exact room
    · rw [Ledger.append, ran]
      refine trims_ordinals trims ?_
      rw [retain_ordinal, retain_events]
      exact ordinals_push _ flushed.ordinals rfl
    · rw [Ledger.append, ran, trims.ordinal, retain_ordinal]
      exact fun ordinal listed => Nat.le_succ_of_le (flushed.summaries ordinal listed)
    · rw [Ledger.append, ran, required_observed, trims.kept]
      cases log : event.isLog with
      | true =>
        rw [kept_log (retain_events event _) (by rw [retained_isLog, log]), ← required_observed,
          before]
        simp [required, log, Except.isOk, Except.toBool]
      | false =>
        rw [kept_other (retain_events event _) (by rw [retained_isLog, log]), List.map_append,
          ← required_observed, before]
        simp [required, log, Except.isOk, Except.toBool,
          retained_other log]
  · refine ⟨?_, ?_, ?_, ?_⟩
    · rw [Ledger.append, ran]
      exact room
    · rw [Ledger.append, ran]
      refine trims_ordinals trims ?_
      exact fun value listed => Nat.le_succ_of_le (flushed.ordinals value listed)
    · rw [Ledger.append, ran, trims.ordinal]
      exact fun ordinal listed => Nat.le_succ_of_le (flushed.summaries ordinal listed)
    · rw [Ledger.append, ran, required_observed, trims.kept]
      exact (required_observed _).symm.trans before

theorem Sound.call (sound : ledger.Sound) (call : EventCall) : (ledger.call call).Sound := by
  cases call with
  | append event => exact sound.append event
  | flush => exact sound.flush

theorem sound_run (calls : List EventCall) : (run calls).Sound :=
  List.foldlRecOn calls Ledger.call sound_fresh fun _ sound call _ => sound.call call

/-- The queue holds the weight of the logs that were appended. -/
def Balanced (ledger : Ledger) : Prop :=
  held ledger.summaries ledger.queue = totalWeight ledger.appended

theorem totalWeight_concat (events : List RuntimeEvent) (event : RuntimeEvent) :
    totalWeight (events ++ [event]) = totalWeight events + logWeight event := by
  rw [totalWeight, List.map_append, List.sum_append, List.map_singleton, List.sum_singleton]
  rfl

theorem Balanced.flush (balanced : ledger.Balanced) (sound : ledger.Sound)
    (exact_ : ledger.FlushesExactly) : ledger.flush.Balanced := by
  rcases Nat.eq_zero_or_pos ledger.queue.droppedLogs with none | some
  · rw [Balanced, Ledger.flush, flushDroppedLogs_none none, if_pos (by omega)]
    exact balanced
  · have exact_ := exact_ some
    rw [Ledger.flush, if_neg (by omega)] at exact_
    rw [Balanced, Ledger.flush, flushDroppedLogs_some some, if_neg (by omega)]
    calc held ((ledger.queue.ordinal + 1) :: ledger.summaries)
          (trimEvents ledger.queue.summarize).2
        = held ((ledger.queue.ordinal + 1) :: ledger.summaries) ledger.queue.summarize :=
          trimEvents_held sound.fits (summarize_events ledger.queue) exact_
      _ = held ledger.summaries ledger.queue := summarize_held sound.ordinals
      _ = totalWeight ledger.appended := balanced

theorem Balanced.flushFor (balanced : ledger.Balanced) (sound : ledger.Sound)
    (exact_ : event.isCompleted = true → ledger.FlushesExactly) :
    (ledger.flushFor event).Balanced := by
  rw [Ledger.flushFor]
  split
  case isTrue completed => exact balanced.flush sound (exact_ completed)
  case isFalse => exact balanced

theorem flushFor_log (log : event.isLog = true) : ledger.flushFor event = ledger := by
  cases event with
  | log message droppedLogs => rfl
  | _ => cases log

theorem flushFor_appended : (ledger.flushFor event).appended = ledger.appended := by
  rw [Ledger.flushFor]
  split <;> rfl

theorem Balanced.call (balanced : ledger.Balanced) (sound : ledger.Sound) {call : EventCall}
    (exact_ : ledger.Exact call) : (ledger.call call).Balanced := by
  cases call with
  | flush => exact balanced.flush sound exact_
  | append event =>
    obtain ⟨flushes, sums, trims⟩ := exact_
    have flushed := balanced.flushFor sound flushes
    have sound' := sound.flushFor event
    have fresh : (ledger.flushFor event).queue.ordinal + 1 ∉ (ledger.flushFor event).summaries :=
      fun listed => absurd (sound'.summaries _ listed) (Nat.not_succ_le_self _)
    have sums' : event.isLog = true →
        ExactSum event.dropped (ledger.flushFor event).queue.droppedLogs := by
      intro log
      rw [flushFor_log log]
      exact sums log
    rw [Balanced, Ledger.call, Ledger.append, appendEvent_eq sound.fits, ← flushFor_queue]
    calc held (ledger.flushFor event).summaries
          (trimEvents (retain event (ledger.flushFor event).queue)).2
        = held (ledger.flushFor event).summaries (retain event (ledger.flushFor event).queue) :=
          trimEvents_held sound'.fits (retain_events event _) trims
      _ = held (ledger.flushFor event).summaries (ledger.flushFor event).queue + logWeight event :=
          retain_held fresh sums'
      _ = totalWeight ledger.appended + logWeight event := by rw [flushed, flushFor_appended]
      _ = totalWeight (ledger.appended ++ [event]) := (totalWeight_concat _ _).symm

/-- Every call of a run meets the condition in the state where it is made. -/
def ExactRun (calls : List EventCall) : Prop :=
  ∀ before call after, calls = before ++ call :: after → (run before).Exact call

theorem run_concat (calls : List EventCall) (call : EventCall) :
    run (calls ++ [call]) = (run calls).call call :=
  List.foldl_concat ..

theorem balanced_run (exact_ : ExactRun calls) : (run calls).Balanced := by
  induction calls using List.reverseRecOn with
  | nil => rfl
  | append_singleton calls call ih =>
    rw [run_concat]
    refine (ih ?_).call (sound_run calls) (exact_ calls call [] rfl)
    rintro before other after rfl
    exact exact_ before other (after ++ [call]) (by rw [List.append_assoc]; rfl)

/-- The queue is within its bounds and keeps every accepted event that is no log, in order. -/
structure Retains (ledger : Ledger) : Prop where
  length : ledger.queue.events.length ≤ 256
  bytes : eventBytes ledger.queue.observed ≤ executionSocketFrameMaxBytes / 2
  required : required ledger.queue.observed = required ledger.accepted

theorem Sound.retains (sound : ledger.Sound) : ledger.Retains := by
  have fits := sound.fits.fits
  simp only [overflows, decide_eq_false_iff_not, not_or, Nat.not_lt] at fits
  rw [observed, List.length_map] at fits
  exact ⟨fits.1, fits.2, sound.accepted⟩

/-- Trimming keeps to its bounds and to the required events in every run, and to the weight
of the logs where it drops no summary and rounds no sum. -/
theorem trimming_conserves (calls : List EventCall) :
    (run calls).Retains ∧ (ExactRun calls → (run calls).Balanced) :=
  ⟨(sound_run calls).retains, balanced_run⟩

end Ledger

/-- An event that must be kept, of any size. -/
def wideMetadata (n : Nat) : RuntimeEvent :=
  .metadata ⟨"p", String.ofList (List.replicate n 'm'), none, none⟩

theorem wideMetadata_bytes (n : Nat) : Json.byteLength (wideMetadata n).toJson = n + 45 := by
  have texts : Json.byteLength (.string "type") = 6 ∧ Json.byteLength (.string "metadata") = 10 ∧
      Json.byteLength (.string "provider") = 10 ∧ Json.byteLength (.string "p") = 3 ∧
      Json.byteLength (.string "model") = 7 := by
    repeat' apply And.intro
    all_goals
      rw [Json.byteLength_ofList]
      decide
  have model : Json.byteLength (.string (String.ofList (List.replicate n 'm'))) = 2 + n := by
    rw [Json.byteLength_unescaped, String.toList_ofList, List.length_replicate]
    intro c member
    rw [String.toList_ofList] at member
    rw [List.eq_of_mem_replicate member]
    decide
  rw [wideMetadata, RuntimeEvent.toJson, RuntimeMetadata.toJson, Json.byteLength_object]
  simp only [JsonValue.field, JsonValue.optional, Option.map_none, List.append_nil, List.map_cons,
    List.map_nil, List.sum_cons, List.sum_nil, Json.memberLength, List.length_cons,
    List.length_nil, texts, model]
  omega

/-- The log that the wide events displace. -/
def shortLog : RuntimeEvent := .log "x" none

theorem overflows_wide {n count : Nat} (first last : List RuntimeEvent) :
    overflows (first ++ List.replicate count (wideMetadata n) ++ last) =
      decide (first.length + count + last.length > 256 ∨
        2 + ((first.map fun event => Json.byteLength event.toJson).sum + count * (n + 45) +
          (last.map fun event => Json.byteLength event.toJson).sum) +
          (first.length + count + last.length - 1) > executionSocketFrameMaxBytes / 2) :=
  overflows_replicate (wideMetadata_bytes n) first last

/-- The queue of a short log and some wide events after it. -/
def widened (n count : Nat) : RetainedEvents :=
  (push (wideMetadata n))^[count] ⟨[⟨1, shortLog⟩], 1, 0⟩

theorem widened_succ (n count : Nat) :
    widened n (count + 1) = push (wideMetadata n) (widened n count) :=
  Function.iterate_succ_apply' _ _ _

theorem widened_form (n count : Nat) : ∃ rest, widened n count = ⟨⟨1, shortLog⟩ :: rest, count + 1, 0⟩ ∧
    rest.map RetainedEvent.event = List.replicate count (wideMetadata n) := by
  induction count with
  | zero => exact ⟨[], rfl, rfl⟩
  | succ count ih =>
    obtain ⟨rest, form, events⟩ := ih
    refine ⟨rest ++ [⟨count + 2, wideMetadata n⟩], ?_, ?_⟩
    · rw [widened_succ, form]
      rfl
    · rw [List.map_append, events, List.replicate_succ']
      rfl

theorem shortLog_bytes : Json.byteLength shortLog.toJson = 28 := by
  have text : Json.byteLength (.string "x") = 3 := by
    rw [Json.byteLength_ofList]
    decide
  rw [shortLog, RuntimeEvent.log_bytes, text]
  rfl

theorem append_wide (n : Nat) (queue : RetainedEvents) :
    appendEvent (wideMetadata n) queue = trimEvents (push (wideMetadata n) queue) := rfl

/-- Seven wide events fit beside the log. -/
theorem trim_widened {n count : Nat} (few : count ≤ 7) (fits : n ≤ 65489) :
    trimEvents (widened n count) = (.ok (), widened n count) := by
  obtain ⟨rest, form, events⟩ := widened_form n count
  have observed : (widened n count).observed =
      [shortLog] ++ List.replicate count (wideMetadata n) ++ [] := by
    rw [form, RetainedEvents.observed, List.map_cons, events]
    simp
  refine trimEvents_room ?_ ?_
  · refine Nat.le_trans (required_sublist _).length_le ?_
    rw [observed]
    simp only [List.append_nil, List.length_append, List.length_replicate, List.length_singleton]
    omega
  · rw [observed, overflows_wide]
    have wide : count * (n + 45) ≤ 7 * 65534 := Nat.mul_le_mul few (by omega)
    simp only [List.map_cons, List.map_nil, List.sum_cons, List.sum_nil, shortLog_bytes,
      List.length_cons, List.length_nil, executionSocketFrameMaxBytes, decide_eq_false_iff_not]
    omega

/-- The calls that append the log and some wide events. -/
def wideCalls (n count : Nat) : List EventCall :=
  .append shortLog :: List.replicate count (.append (wideMetadata n))

theorem run_wide {n count : Nat} (few : count ≤ 7) (fits : n ≤ 65489) :
    (Ledger.run (wideCalls n count)).queue = widened n count := by
  induction count with
  | zero =>
    have trimmed : (trimEvents (widened n 0)).2 = widened n 0 := by
      rw [trim_widened (Nat.zero_le _) fits]
    exact trimmed
  | succ count ih =>
    have before := ih (Nat.le_of_succ_le few)
    rw [wideCalls, List.replicate_succ', ← List.cons_append, ← wideCalls, Ledger.run_concat,
      Ledger.call, Ledger.append, before, append_wide, ← widened_succ, trim_widened few fits]

theorem silent_wide {n : Nat} {events : List RetainedEvent} {count : Nat}
    (wide : events.map RetainedEvent.event = List.replicate count (wideMetadata n)) :
    ∀ event ∈ events.map RetainedEvent.event, event.isLog = false ∧ isSummary event = false := by
  intro event listed
  rw [wide] at listed
  rw [List.eq_of_mem_replicate listed]
  exact ⟨rfl, rfl⟩

/-- The eighth displaces the log. -/
theorem run_displaced {n : Nat} (size : n = 65489) :
    ∃ rest, (Ledger.run (wideCalls n 8)).queue = ⟨rest, 9, 1⟩ ∧
      rest.map RetainedEvent.event = List.replicate 8 (wideMetadata n) := by
  have before : (Ledger.run (wideCalls n 7)).queue = widened n 7 :=
    run_wide (Nat.le_refl _) (by omega)
  obtain ⟨rest, form, events⟩ := widened_form n 8
  have silent := silent_wide events
  have accounted : account (Doubles.add shortLog.dropped 1) ⟨rest, 9, 0⟩ = ⟨rest, 9, 1⟩ :=
    account_silent fun event listed => (silent event listed).2
  have full : overflows (widened n 8).observed = true := by
    have observed : (widened n 8).observed =
        [shortLog] ++ List.replicate 8 (wideMetadata n) ++ [] := by
      rw [form, RetainedEvents.observed, List.map_cons, events]
      rfl
    rw [observed, overflows_wide]
    simp only [List.map_cons, List.map_nil, List.sum_cons, List.sum_nil, shortLog_bytes,
      List.length_cons, List.length_nil, executionSocketFrameMaxBytes, decide_eq_true_eq]
    omega
  have fits : overflows (rest.map RetainedEvent.event) = false := by
    have observed : rest.map RetainedEvent.event =
        [] ++ List.replicate 8 (wideMetadata n) ++ [] := by
      rw [events]
      rfl
    rw [observed, overflows_wide]
    simp only [List.map_nil, List.sum_nil, List.length_nil, executionSocketFrameMaxBytes,
      decide_eq_false_iff_not]
    omega
  have few : (required (widened n 8).observed).length ≤ 16 := by
    refine Nat.le_trans (required_sublist _).length_le ?_
    rw [form, RetainedEvents.observed, List.map_cons, events]
    simp
  have turn := @trimEvents_turn (widened n 8) ⟨1, shortLog⟩ rest (by rw [form]) rfl few full
  rw [form] at turn
  have trimmed := turn (by rw [accounted]; exact fits)
  rw [accounted] at trimmed
  refine ⟨rest, ?_, events⟩
  rw [wideCalls, List.replicate_succ', ← List.cons_append, ← wideCalls, Ledger.run_concat,
    Ledger.call, Ledger.append, before, append_wide, ← widened_succ, form, trimmed]

theorem summary_bytes :
    28 ≤ Json.byteLength (RuntimeEvent.log truncatedLogMessage (some 1)).toJson := by
  have truncated : Json.byteLength (.string truncatedLogMessage) = 49 := by
    rw [truncatedLogMessage, Json.byteLength_ofList]
    decide
  rw [RuntimeEvent.log_bytes, truncated]
  omega

/-- The summary of the log is dropped at once, and counted as a log. -/
theorem flush_displaced {n : Nat} (size : n = 65489) {rest : List RetainedEvent}
    (wide : rest.map RetainedEvent.event = List.replicate 8 (wideMetadata n)) :
    flushDroppedLogs ⟨rest, 9, 1⟩ = (.ok (), ⟨rest, 10, 2⟩) := by
  have silent := silent_wide wide
  let summary : RetainedEvent := ⟨10, .log truncatedLogMessage (some 1)⟩
  have observed : RetainedEvents.observed ⟨rest ++ [summary], 10, 0⟩ =
      [] ++ List.replicate 8 (wideMetadata n) ++ [summary.event] := by
    rw [RetainedEvents.observed, List.map_append, wide]
    rfl
  have full : overflows (RetainedEvents.observed ⟨rest ++ [summary], 10, 0⟩) = true := by
    rw [observed, overflows_wide]
    have bytes : 28 ≤ Json.byteLength summary.event.toJson := summary_bytes
    simp only [List.map_cons, List.map_nil, List.sum_cons, List.sum_nil, List.length_cons,
      List.length_nil, executionSocketFrameMaxBytes, decide_eq_true_eq]
    omega
  have fits : overflows (RetainedEvents.observed ⟨rest, 10, 2⟩) = false := by
    have form : RetainedEvents.observed ⟨rest, 10, 2⟩ =
        [] ++ List.replicate 8 (wideMetadata n) ++ [] := by
      rw [RetainedEvents.observed, wide]
      rfl
    rw [form, overflows_wide]
    simp only [List.map_nil, List.sum_nil, List.length_nil, executionSocketFrameMaxBytes,
      decide_eq_false_iff_not]
    omega
  have none : ∀ value ∈ rest, ¬value.event.isLog = true := by
    intro value listed
    rw [(silent _ (List.mem_map_of_mem listed)).1]
    exact Bool.false_ne_true
  have drops : Drops ⟨rest ++ [summary], 10, 0⟩ summary :=
    ⟨full, List.find?_eq_some_iff_append.mpr ⟨rfl, rest, [], rfl, by simpa using none⟩⟩
  have erased : (rest ++ [summary]).eraseP (·.event.isLog) = rest := by
    rw [List.eraseP_append_right _ none]
    exact List.append_nil rest
  have turned : turn summary ⟨rest ++ [summary], 10, 0⟩ = ⟨rest, 10, 2⟩ := by
    rw [turn, erased]
    exact account_silent fun event listed => (silent event listed).2
  have few : (required (RetainedEvents.observed ⟨rest ++ [summary], 10, 0⟩)).length ≤ 16 := by
    refine Nat.le_trans (required_sublist _).length_le ?_
    rw [observed]
    simp
  have started : flushDroppedLogs ⟨rest, 9, 1⟩ = trimEvents ⟨rest ++ [summary], 10, 0⟩ :=
    flushDroppedLogs_some (Nat.le_refl 1)
  rw [started, trimEvents_few few, dropLogs_drops drops, turned, List.length_append,
    List.length_singleton, dropLogs_room fits]

theorem trimsWhile_room {queue : RetainedEvents} {Holds : RetainedEvents → RetainedEvent → Prop}
    (room : overflows queue.observed = false) : TrimsWhile Holds queue := by
  intro _ removed drops
  exact absurd (drops.1.symm.trans room) (by decide)

theorem trimsWhile_turn {queue : RetainedEvents} {removed : RetainedEvent}
    {Holds : RetainedEvents → RetainedEvent → Prop} (drops : Drops queue removed)
    (holds : Holds queue removed) (room : overflows (turn removed queue).observed = false) :
    TrimsWhile Holds queue := by
  intro _
  obtain ⟨before, rest, form, -, -⟩ := drops.split
  rw [form, List.length_append, List.length_cons, ← Nat.add_assoc]
  intro other drops'
  obtain rfl := Option.some.inj (drops.2.symm.trans drops'.2)
  refine ⟨holds, fun next drops => ?_⟩
  exact absurd (drops.1.symm.trans room) (by decide)

theorem Ledger.exactRun_concat {calls : List EventCall} {call : EventCall}
    (exact_ : ExactRun calls) (last : (run calls).Exact call) : ExactRun (calls ++ [call]) := by
  intro before other after split
  rcases after.eq_nil_or_concat' with rfl | ⟨older, newest, rfl⟩
  · obtain ⟨rfl, same⟩ := List.append_inj' split rfl
    rwa [← (List.cons.inj same).1]
  · rw [← List.cons_append, ← List.append_assoc] at split
    exact exact_ before other older (List.append_inj' split rfl).1

/-- Short logs with successive ordinals. -/
def shortLogs (first count : Nat) : List RetainedEvent :=
  (List.range' first count).map (⟨·, shortLog⟩)

theorem shortLogs_succ (first count : Nat) :
    shortLogs first (count + 1) = ⟨first, shortLog⟩ :: shortLogs (first + 1) count := by
  rw [shortLogs, List.range'_succ]
  rfl

theorem shortLogs_concat (count : Nat) :
    shortLogs 1 (count + 1) = shortLogs 1 count ++ [⟨count + 1, shortLog⟩] := by
  rw [shortLogs, List.range'_concat, List.map_append, Nat.one_mul, Nat.add_comm 1 count]
  rfl

theorem shortLogs_events (first count : Nat) :
    (shortLogs first count).map RetainedEvent.event = List.replicate count shortLog := by
  rw [shortLogs, List.map_map]
  exact List.map_const.trans (congrArg (List.replicate · shortLog) List.length_range')

theorem shortLog_brief {event : RuntimeEvent} {count : Nat}
    (listed : event ∈ List.replicate count shortLog) : Json.byteLength event.toJson ≤ 200 := by
  rw [List.eq_of_mem_replicate listed, shortLog_bytes]
  decide

/-- As many short logs as are retained are held as they come. -/
theorem run_shortLogs {count : Nat} (few : count ≤ 256) :
    Ledger.ExactRun (List.replicate count (.append shortLog)) ∧
      (Ledger.run (List.replicate count (.append shortLog))).queue =
        ⟨shortLogs 1 count, count, 0⟩ ∧
      (Ledger.run (List.replicate count (.append shortLog))).summaries = [] := by
  induction count with
  | zero =>
    refine ⟨fun before call after split => ?_, rfl, rfl⟩
    cases before <;> cases split
  | succ count ih =>
    obtain ⟨exact_, queue, summaries⟩ := ih (Nat.le_of_succ_le few)
    have pushed : retain shortLog ⟨shortLogs 1 count, count, 0⟩ =
        ⟨shortLogs 1 (count + 1), count + 1, 0⟩ := by
      rw [shortLogs_concat]
      rfl
    have observed : RetainedEvents.observed ⟨shortLogs 1 (count + 1), count + 1, 0⟩ =
        List.replicate (count + 1) shortLog := shortLogs_events 1 (count + 1)
    have room : overflows (RetainedEvents.observed ⟨shortLogs 1 (count + 1), count + 1, 0⟩) =
        false := by
      rw [observed]
      exact overflows_short (by rwa [List.length_replicate]) fun event => shortLog_brief
    have few' : (required (RetainedEvents.observed ⟨shortLogs 1 (count + 1), count + 1, 0⟩)).length
        ≤ 16 := by
      rw [observed]
      exact required_logs fun event listed => by rw [List.eq_of_mem_replicate listed]; rfl
    have appended : appendEvent shortLog ⟨shortLogs 1 count, count, 0⟩ =
        (.ok (), ⟨shortLogs 1 (count + 1), count + 1, 0⟩) := by
      change trimEvents (retain shortLog ⟨shortLogs 1 count, count, 0⟩) = _
      rw [pushed, trimEvents_room few' room]
    rw [List.replicate_succ']
    refine ⟨Ledger.exactRun_concat exact_ ⟨nofun, fun _ => ?_, ?_⟩, ?_, ?_⟩
    · rw [queue]
      rfl
    · change TrimsExactly (Ledger.run _).summaries (retain shortLog (Ledger.run _).queue)
      rw [queue, pushed]
      exact trimsWhile_room room
    · rw [Ledger.run_concat, Ledger.call, Ledger.append, queue, appended]
    · rw [Ledger.run_concat]
      exact summaries

theorem drops_shortLogs {first count ordinal pending : Nat} {last : List RetainedEvent}
    (many : 256 < count + 1 + last.length) :
    Drops ⟨shortLogs first (count + 1) ++ last, ordinal, pending⟩ ⟨first, shortLog⟩ := by
  refine ⟨overflows_many ?_, ?_⟩
  · rwa [RetainedEvents.observed, List.length_map, List.length_append, shortLogs, List.length_map,
      List.length_range']
  · rw [shortLogs_succ]
    exact List.find?_cons_of_pos rfl

theorem erased_shortLogs (first count : Nat) (last : List RetainedEvent) :
    (shortLogs first (count + 1) ++ last).eraseP (·.event.isLog) =
      shortLogs (first + 1) count ++ last := by
  rw [shortLogs_succ]
  exact List.eraseP_cons_of_pos rfl

theorem turn_shortLogs (first count ordinal pending : Nat) (last : List RetainedEvent) :
    turn ⟨first, shortLog⟩ ⟨shortLogs first (count + 1) ++ last, ordinal, pending⟩ =
      account 1 ⟨shortLogs (first + 1) count ++ last, ordinal, pending⟩ := by
  rw [turn, erased_shortLogs]
  rfl

theorem shortLogs_silent {first count : Nat} {value : RetainedEvent}
    (listed : value ∈ shortLogs first count) : isSummary value.event = false := by
  obtain ⟨ordinal, -, rfl⟩ := List.mem_map.mp listed
  rfl

theorem find?_shortLogs (first count : Nat) :
    (shortLogs first count).find? (isSummary ·.event) = none := by
  rw [List.find?_eq_none]
  intro value listed
  rw [shortLogs_silent listed]
  exact Bool.false_ne_true

/-- Trimming that takes one turn. -/
theorem trimEvents_drops {queue after : RetainedEvents} {removed : RetainedEvent}
    (few : (required queue.observed).length ≤ 16) (drops : Drops queue removed)
    (turned : turn removed queue = after) (room : overflows after.observed = false) :
    trimEvents queue = (.ok (), after) := by
  obtain ⟨before, rest, form, -, -⟩ := drops.split
  rw [trimEvents_few few, form, List.length_append, List.length_cons, ← Nat.add_assoc,
    dropLogs_drops drops, turned, dropLogs_room room]

theorem observed_shortLogs (first count ordinal pending : Nat) (last : List RetainedEvent) :
    RetainedEvents.observed ⟨shortLogs first count ++ last, ordinal, pending⟩ =
      List.replicate count shortLog ++ last.map RetainedEvent.event := by
  rw [RetainedEvents.observed, List.map_append, shortLogs_events]

theorem few_shortLogs {first count ordinal pending : Nat} {last : List RetainedEvent}
    (logs : ∀ value ∈ last, value.event.isLog = true) :
    (required (RetainedEvents.observed ⟨shortLogs first count ++ last, ordinal, pending⟩)).length
      ≤ 16 := by
  rw [observed_shortLogs]
  refine required_logs fun event listed => ?_
  rcases List.mem_append.mp listed with short | later
  · rw [List.eq_of_mem_replicate short]
    rfl
  · obtain ⟨value, member, rfl⟩ := List.mem_map.mp later
    exact logs value member

theorem room_shortLogs {first count ordinal pending : Nat} {last : List RetainedEvent}
    (few : count + last.length ≤ 256)
    (brief : ∀ value ∈ last, Json.byteLength value.event.toJson ≤ 200) :
    overflows (RetainedEvents.observed ⟨shortLogs first count ++ last, ordinal, pending⟩) =
      false := by
  rw [observed_shortLogs]
  refine overflows_short ?_ fun event listed => ?_
  · rwa [List.length_append, List.length_replicate, List.length_map]
  · rcases List.mem_append.mp listed with short | later
    · exact shortLog_brief short
    · obtain ⟨value, member, rfl⟩ := List.mem_map.mp later
      exact brief value member

/-- The log that is too much evicts the oldest one. -/
theorem append_overflowing {n : Nat} (size : n = 256) :
    TrimsExactly [] (retain shortLog ⟨shortLogs 1 n, n, 0⟩) ∧
      appendEvent shortLog ⟨shortLogs 1 n, n, 0⟩ = (.ok (), ⟨shortLogs 2 n, n + 1, 1⟩) := by
  have pushed : retain shortLog ⟨shortLogs 1 n, n, 0⟩ =
      ⟨shortLogs 1 (n + 1) ++ [], n + 1, 0⟩ := by
    rw [List.append_nil, shortLogs_concat]
    rfl
  have drops : Drops ⟨shortLogs 1 (n + 1) ++ [], n + 1, 0⟩ ⟨1, shortLog⟩ :=
    drops_shortLogs (by rw [size]; decide)
  have turned : turn ⟨1, shortLog⟩ ⟨shortLogs 1 (n + 1) ++ [], n + 1, 0⟩ =
      ⟨shortLogs 2 n, n + 1, 1⟩ := by
    rw [turn_shortLogs, List.append_nil]
    refine account_silent fun event listed => ?_
    obtain ⟨value, member, rfl⟩ := List.mem_map.mp listed
    exact shortLogs_silent member
  have room : overflows (RetainedEvents.observed ⟨shortLogs 2 n, n + 1, 1⟩) = false := by
    rw [← List.append_nil (shortLogs 2 n)]
    exact room_shortLogs (by rw [size]; decide) nofun
  constructor
  · rw [pushed]
    refine trimsWhile_turn drops ⟨nofun, rfl, ?_⟩ (turned ▸ room)
    dsimp only
    rw [erased_shortLogs, List.append_nil, RetainedEvents.counter, find?_shortLogs]
    rfl
  · change trimEvents (retain shortLog ⟨shortLogs 1 n, n, 0⟩) = _
    rw [pushed]
    exact trimEvents_drops (few_shortLogs nofun) drops turned room

/-- So does its summary, which stays. -/
theorem flush_overflowing {n : Nat} (size : n = 255) :
    TrimsExactly [n + 3] (summarize ⟨shortLogs 2 (n + 1), n + 2, 1⟩) ∧
      flushDroppedLogs ⟨shortLogs 2 (n + 1), n + 2, 1⟩ =
        (.ok (), ⟨shortLogs 3 n ++ [⟨n + 3, .log truncatedLogMessage (some 2)⟩], n + 3, 0⟩) := by
  have pushed : summarize ⟨shortLogs 2 (n + 1), n + 2, 1⟩ =
      ⟨shortLogs 2 (n + 1) ++ [⟨n + 3, .log truncatedLogMessage (some 1)⟩], n + 3, 0⟩ := rfl
  have drops : Drops ⟨shortLogs 2 (n + 1) ++ [⟨n + 3, .log truncatedLogMessage (some 1)⟩], n + 3, 0⟩
      ⟨2, shortLog⟩ := drops_shortLogs (by rw [size]; decide)
  have turned : turn ⟨2, shortLog⟩
      ⟨shortLogs 2 (n + 1) ++ [⟨n + 3, .log truncatedLogMessage (some 1)⟩], n + 3, 0⟩ =
        ⟨shortLogs 3 n ++ [⟨n + 3, .log truncatedLogMessage (some 2)⟩], n + 3, 0⟩ := by
    rw [turn_shortLogs, account_last fun _ => shortLogs_silent]
    rfl
  have truncated : Json.byteLength (.string truncatedLogMessage) ≤ 100 := by
    rw [truncatedLogMessage, Json.byteLength_ofList]
    decide
  have room : overflows (RetainedEvents.observed
      ⟨shortLogs 3 n ++ [⟨n + 3, .log truncatedLogMessage (some 2)⟩], n + 3, 0⟩) = false := by
    refine room_shortLogs (by rw [size]; decide) fun value listed => ?_
    rw [List.mem_singleton.mp listed]
    exact log_short truncated (by rintro count ⟨⟩; decide)
  constructor
  · rw [pushed]
    refine trimsWhile_turn drops ⟨?_, rfl, ?_⟩ (turned ▸ room)
    · rw [List.mem_singleton]
      dsimp only
      omega
    · dsimp only
      rw [erased_shortLogs, RetainedEvents.counter, List.find?_append, find?_shortLogs]
      rfl
  · rw [flushDroppedLogs_some (Nat.le_refl 1), pushed]
    refine trimEvents_drops (few_shortLogs fun value listed => ?_) drops turned room
    rw [List.mem_singleton.mp listed]
    rfl

/-- One log more than are retained, and a flush. -/
def overflowingCalls : List EventCall := List.replicate 257 (.append shortLog) ++ [.flush]

/-- Two logs are evicted, and the summary that stays counts both. -/
theorem trimming_conserves_overflow :
    Ledger.ExactRun overflowingCalls ∧ (Ledger.run overflowingCalls).Balanced ∧
      (Ledger.run overflowingCalls).queue =
        ⟨shortLogs 3 255 ++ [⟨258, .log truncatedLogMessage (some 2)⟩], 258, 0⟩ := by
  obtain ⟨n, size⟩ : ∃ n, n = 255 := ⟨_, rfl⟩
  have calls : overflowingCalls =
      List.replicate (n + 1) (.append shortLog) ++ [.append shortLog] ++ [.flush] := by
    rw [← List.replicate_succ', size, overflowingCalls]
  have form : (⟨shortLogs 3 255 ++ [⟨258, .log truncatedLogMessage (some 2)⟩], 258, 0⟩ :
      RetainedEvents) =
      ⟨shortLogs 3 n ++ [⟨n + 3, .log truncatedLogMessage (some 2)⟩], n + 3, 0⟩ := by
    rw [size]
  rw [form, calls]
  obtain ⟨held, queue, summaries⟩ := run_shortLogs (show n + 1 ≤ 256 by omega)
  obtain ⟨trimmed, appended⟩ := append_overflowing (show n + 1 = 256 by omega)
  obtain ⟨flushed, ended⟩ := flush_overflowing size
  have queue' : (Ledger.run (List.replicate (n + 1) (.append shortLog) ++
      [.append shortLog])).queue = ⟨shortLogs 2 (n + 1), n + 2, 1⟩ := by
    rw [Ledger.run_concat, Ledger.call, Ledger.append, queue, appended]
  have summaries' : (Ledger.run (List.replicate (n + 1) (.append shortLog) ++
      [.append shortLog])).summaries = [] := by
    rw [Ledger.run_concat]
    exact summaries
  have exact_ : Ledger.ExactRun
      (List.replicate (n + 1) (.append shortLog) ++ [.append shortLog] ++ [.flush]) := by
    refine Ledger.exactRun_concat (Ledger.exactRun_concat held ⟨nofun, fun _ => ?_, ?_⟩) fun _ => ?_
    · rw [queue]
      rfl
    · change TrimsExactly (Ledger.run _).summaries (retain shortLog (Ledger.run _).queue)
      rw [queue, summaries]
      exact trimmed
    · rw [Ledger.flush, queue', summaries']
      exact flushed
  refine ⟨exact_, (Ledger.trimming_conserves _).2 exact_, ?_⟩
  rw [Ledger.run_concat, Ledger.call, Ledger.flush, queue', ended]

theorem Ledger.run_appended (calls : List EventCall) :
    (Ledger.run calls).appended = calls.filterMap EventCall.event? := by
  induction calls using List.reverseRecOn with
  | nil => rfl
  | append_singleton calls call ih =>
    rw [Ledger.run_concat, List.filterMap_append, ← ih]
    cases call with
    | append event => rfl
    | flush => exact (List.append_nil _).symm

/-- The calls that append the log and eight wide events, and flush. -/
def displacingCalls : List EventCall := wideCalls 65489 8 ++ [.flush]

theorem displacingCalls_appended (n : Nat) :
    (Ledger.run (wideCalls n 8 ++ [.flush])).appended =
      shortLog :: List.replicate 8 (wideMetadata n) := by
  rw [Ledger.run_appended]
  rfl

/-- The runtime host may report these events. One log is appended; in the end the queue holds
none and the counter says two. -/
theorem displacingCalls_unbalanced :
    (∀ event ∈ (Ledger.run displacingCalls).appended,
      assertRuntimeHostOutput (RuntimeHostOutput.event event).toJson = .ok ()) ∧
    ¬(Ledger.run displacingCalls).Balanced := by
  obtain ⟨n, size⟩ : ∃ n, n = 65489 := ⟨_, rfl⟩
  rw [displacingCalls, ← size]
  have appended := displacingCalls_appended n
  constructor
  · rw [appended]
    intro event listed
    rw [assertRuntimeHostOutput_event]
    rcases List.mem_cons.mp listed with rfl | wide
    · rw [shortLog_bytes]
      exact ⟨rfl, by decide⟩
    · rw [List.eq_of_mem_replicate wide, wideMetadata_bytes, size]
      exact ⟨rfl, by decide⟩
  · obtain ⟨rest, queue, wide⟩ := run_displaced size
    have flushed : (Ledger.run (wideCalls n 8 ++ [.flush])).queue = ⟨rest, 10, 2⟩ := by
      rw [Ledger.run_concat, Ledger.call, Ledger.flush, queue, flush_displaced size wide]
    have none : ∀ summaries, queueWeight summaries rest = 0 := by
      intro summaries
      rw [queueWeight, List.sum_eq_zero_iff]
      intro weight weighed
      obtain ⟨value, listed, rfl⟩ := List.mem_map.mp weighed
      have other : value.event.isLog = false :=
        (silent_wide wide value.event (List.mem_map_of_mem listed)).1
      exact weight_of_not_log other
    have total : totalWeight (shortLog :: List.replicate 8 (wideMetadata n)) = 1 := by
      rw [totalWeight, List.map_cons, List.map_replicate, List.sum_cons, List.sum_replicate]
      rfl
    rw [Ledger.Balanced, flushed, appended, total, held, none]
    exact Nat.succ_ne_self 1

end Anastom
