import Anastom.ExecutionHost.EventTurns

/-! What was ever pushed on the retained queue. Ordinals grow with every event, the events
that are no logs stay, and a log that is gone stays away. -/
namespace Anastom
open RetainedEvents

/-- A retained queue with everything that was ever pushed on it and not refused. -/
structure History where
  queue : RetainedEvents := {}
  pushed : List RetainedEvent := []

namespace History

/-- The summary that a flush pushes. -/
def summaryOf (queue : RetainedEvents) : List RetainedEvent :=
  if queue.droppedLogs < 1 then []
  else [⟨queue.ordinal + 1, .log truncatedLogMessage (some queue.droppedLogs)⟩]

def flush (history : History) : History where
  queue := (flushDroppedLogs history.queue).2
  pushed := history.pushed ++ summaryOf history.queue

def flushFor (event : RuntimeEvent) (history : History) : History :=
  if event.isCompleted then history.flush else history

def append (event : RuntimeEvent) (history : History) : History where
  queue := (appendEvent event history.queue).2
  pushed := (history.flushFor event).pushed ++
    if (appendEvent event history.queue).1.isOk then [retained event (history.flushFor event).queue]
    else []

def call (history : History) : EventCall → History
  | .append event => history.append event
  | .flush => history.flush

/-- The queue holds every pushed event that is no log, and its ordinals grow. -/
structure Recorded (history : History) : Prop where
  fits : history.queue.Fits
  increasing : history.queue.ordinals.Pairwise (· < ·)
  bound : ∀ ordinal ∈ history.queue.ordinals, ordinal ≤ history.queue.ordinal
  pushed : ∀ value ∈ history.pushed, value.ordinal ≤ history.queue.ordinal
  kept : history.queue.kept = history.pushed.filter (!·.event.isLog)
  origin : history.queue.ordinals ⊆ history.pushed.map RetainedEvent.ordinal

/-- What is pushed later has a greater ordinal, and what is gone stays away. -/
structure Extends (before after : History) : Prop where
  ordinal : before.queue.ordinal ≤ after.queue.ordinal
  grows : before.pushed ⊆ after.pushed
  pushed : ∀ value ∈ after.pushed, value ∈ before.pushed ∨ before.queue.ordinal < value.ordinal
  retained : ∀ ordinal ∈ after.queue.ordinals,
    ordinal ∈ before.queue.ordinals ∨ before.queue.ordinal < ordinal

variable {history before after : History} {event : RuntimeEvent} {value : RetainedEvent}

theorem recorded_fresh : Recorded {} :=
  ⟨fits_empty, .nil, by simp [ordinals], by simp, rfl, List.Subset.refl _⟩

theorem Extends.refl (history : History) : Extends history history :=
  ⟨Nat.le_refl _, List.Subset.refl _, fun _ => .inl, fun _ => .inl⟩

theorem Extends.trans {first second third : History} (one : Extends first second)
    (two : Extends second third) : Extends first third where
  ordinal := Nat.le_trans one.ordinal two.ordinal
  grows := List.Subset.trans one.grows two.grows
  pushed value listed := (two.pushed value listed).elim (one.pushed value)
    fun later => .inr (Nat.lt_of_le_of_lt one.ordinal later)
  retained ordinal listed := (two.retained ordinal listed).elim (one.retained ordinal)
    fun later => .inr (Nat.lt_of_le_of_lt one.ordinal later)

theorem increasing_push {ordinals : List Nat} {ordinal : Nat}
    (increasing : ordinals.Pairwise (· < ·)) (bound : ∀ other ∈ ordinals, other ≤ ordinal) :
    (ordinals ++ [ordinal + 1]).Pairwise (· < ·) := by
  rw [List.pairwise_append]
  refine ⟨increasing, List.pairwise_singleton _ _, fun other listed last isLast => ?_⟩
  rw [List.mem_singleton.mp isLast]
  exact Nat.lt_succ_of_le (bound other listed)

/-- Trimming a queue that took the event with the next ordinal. -/
theorem recorded_push {next trimmed : RetainedEvents} (recorded : Recorded history)
    (pushed : next.events = history.queue.events ++ [value])
    (ordinal : next.ordinal = history.queue.ordinal + 1)
    (numbered : value.ordinal = history.queue.ordinal + 1) (fits : trimmed.Fits)
    (trims : Trims next trimmed) :
    Recorded ⟨trimmed, history.pushed ++ [value]⟩ ∧
      Extends history ⟨trimmed, history.pushed ++ [value]⟩ := by
  have ordinals : next.ordinals = history.queue.ordinals ++ [history.queue.ordinal + 1] := by
    rw [RetainedEvents.ordinals, pushed, List.map_append, List.map_singleton, numbered]
    rfl
  have sublist := trims.ordinals
  rw [ordinals] at sublist
  have renumbered := trims.ordinal.trans ordinal
  constructor
  · refine ⟨fits, ?_, ?_, ?_, ?_, ?_⟩
    · exact (increasing_push recorded.increasing recorded.bound).sublist sublist
    · intro other listed
      rw [renumbered]
      rcases List.mem_append.mp (sublist.subset listed) with old | new
      · exact Nat.le_succ_of_le (recorded.bound other old)
      · exact (List.mem_singleton.mp new).le
    · intro other listed
      rw [renumbered]
      rcases List.mem_append.mp listed with old | new
      · exact Nat.le_succ_of_le (recorded.pushed other old)
      · rw [List.mem_singleton.mp new, numbered]
    · rw [List.filter_append, ← recorded.kept, trims.kept]
      cases log : value.event.isLog with
      | true =>
        rw [kept_log pushed log, List.filter_cons, log]
        exact (List.append_nil _).symm
      | false =>
        rw [kept_other pushed log, List.filter_cons, log]
        rfl
    · intro other listed
      rw [List.map_append, List.map_singleton, numbered]
      rcases List.mem_append.mp (sublist.subset listed) with old | new
      · exact List.mem_append_left _ (recorded.origin old)
      · exact List.mem_append_right _ new
  · refine ⟨?_, List.subset_append_left _ _, ?_, ?_⟩
    · rw [renumbered]
      exact Nat.le_succ _
    · intro other listed
      rcases List.mem_append.mp listed with old | new
      · exact .inl old
      · right
        rw [List.mem_singleton.mp new, numbered]
        exact Nat.lt_succ_self _
    · intro other listed
      rcases List.mem_append.mp (sublist.subset listed) with old | new
      · exact .inl old
      · right
        rw [List.mem_singleton.mp new]
        exact Nat.lt_succ_self _

theorem flush_recorded (recorded : Recorded history) :
    Recorded history.flush ∧ Extends history history.flush := by
  obtain ⟨trimmed, ran, fits, ⟨none, rfl⟩ | ⟨some, trims⟩⟩ := flushDroppedLogs_cases recorded.fits
  · have same : history.flush = history := by
      rw [flush, ran, summaryOf, if_pos (by omega), List.append_nil]
    rw [same]
    exact ⟨recorded, .refl history⟩
  · rw [flush, ran, summaryOf, if_neg (by omega)]
    exact recorded_push recorded (summarize_events _) rfl rfl fits trims

theorem flushFor_recorded (event : RuntimeEvent) (recorded : Recorded history) :
    Recorded (history.flushFor event) ∧ Extends history (history.flushFor event) := by
  rw [flushFor]
  split
  · exact flush_recorded recorded
  · exact ⟨recorded, .refl history⟩

theorem flushFor_queue (history : History) (event : RuntimeEvent) :
    (history.flushFor event).queue = flushedFor event history.queue := by
  rw [flushFor, flushedFor]
  split <;> rfl

theorem append_recorded (event : RuntimeEvent) (recorded : Recorded history) :
    Recorded (history.append event) ∧ Extends history (history.append event) := by
  obtain ⟨flushed, extends'⟩ := flushFor_recorded event recorded
  obtain ⟨trimmed, fits, ⟨ran, trims⟩ | ⟨other, failure, ran, trims⟩⟩ :=
    appendEvent_cases event recorded.fits
  all_goals rw [← flushFor_queue] at trims
  · have taken := recorded_push flushed (retain_events event _) (retain_ordinal event _) rfl fits
      trims
    rw [append, ran]
    exact ⟨taken.1, extends'.trans taken.2⟩
  · have refused : Recorded ⟨trimmed, (history.flushFor event).pushed⟩ ∧
        Extends (history.flushFor event) ⟨trimmed, (history.flushFor event).pushed⟩ := by
      have renumbered := trims.ordinal
      refine ⟨⟨fits, flushed.increasing.sublist trims.ordinals, ?_, ?_, ?_, ?_⟩, ?_,
        List.Subset.refl _, ?_, ?_⟩
      · intro ordinal listed
        rw [renumbered]
        exact Nat.le_succ_of_le (flushed.bound ordinal (trims.ordinals.subset listed))
      · intro value listed
        rw [renumbered]
        exact Nat.le_succ_of_le (flushed.pushed value listed)
      · exact trims.kept.trans flushed.kept
      · exact fun ordinal listed => flushed.origin (trims.ordinals.subset listed)
      · rw [renumbered]
        exact Nat.le_succ _
      · exact fun value listed => .inl listed
      · exact fun ordinal listed => .inl (trims.ordinals.subset listed)
    rw [append, ran]
    simp only [Except.isOk, Except.toBool, Bool.false_eq_true, if_false, List.append_nil]
    exact ⟨refused.1, extends'.trans refused.2⟩

theorem call_recorded (call : EventCall) (recorded : Recorded history) :
    Recorded (history.call call) ∧ Extends history (history.call call) := by
  cases call with
  | append event => exact append_recorded event recorded
  | flush => exact flush_recorded recorded

def run (calls : List EventCall) : History := calls.foldl call {}

theorem run_concat (calls : List EventCall) (next : EventCall) :
    run (calls ++ [next]) = (run calls).call next :=
  List.foldl_concat ..

theorem run_queue (calls : List EventCall) : (run calls).queue = runCalls calls := by
  induction calls using List.reverseRecOn with
  | nil => rfl
  | append_singleton calls next ih =>
    rw [run_concat, runCalls_concat, ← ih]
    cases next <;> rfl

theorem run_recorded (calls : List EventCall) : Recorded (run calls) :=
  List.foldlRecOn calls call recorded_fresh fun _ recorded next _ => (call_recorded next recorded).1

/-- Ordinals start at one. -/
theorem run_ordinal {calls : List EventCall} {ordinal : Nat}
    (listed : ordinal ∈ (runCalls calls).ordinals) : 0 < ordinal := by
  have later : Extends {} (run calls) := by
    clear listed
    induction calls using List.reverseRecOn with
    | nil => exact .refl _
    | append_singleton calls next ih =>
      rw [run_concat]
      exact ih.trans (call_recorded next (run_recorded calls)).2
  rw [← run_queue] at listed
  exact (later.retained ordinal listed).resolve_left List.not_mem_nil

theorem flush_pushed {value : RetainedEvent} (listed : value ∈ history.flush.pushed) :
    value ∈ history.pushed ∨ value.event.isLog = true := by
  rcases List.mem_append.mp listed with old | new
  · exact .inl old
  · right
    rw [summaryOf] at new
    split at new
    · cases new
    · rw [List.mem_singleton.mp new]
      rfl

/-- What is retained beside logs are events that were appended. -/
theorem run_pushed {calls : List EventCall} {value : RetainedEvent}
    (listed : value ∈ (run calls).pushed) (other : value.event.isLog = false) :
    value.event ∈ calls.filterMap EventCall.event? := by
  have notLog : ¬value.event.isLog = true := by
    rw [other]
    exact Bool.false_ne_true
  induction calls using List.reverseRecOn with
  | nil => cases listed
  | append_singleton calls next ih =>
    rw [List.filterMap_append, List.mem_append]
    rw [run_concat] at listed
    cases next with
    | flush => exact .inl (ih ((flush_pushed listed).resolve_right notLog))
    | append event =>
      rcases List.mem_append.mp listed with old | new
      · rw [flushFor] at old
        split at old
        · exact .inl (ih ((flush_pushed old).resolve_right notLog))
        · exact .inl (ih old)
      · split at new
        case isTrue =>
          rw [List.mem_singleton.mp new, retained_isLog] at other
          rw [List.mem_singleton.mp new, retained_other other]
          exact .inr List.mem_cons_self
        case isFalse => cases new

end History
end Anastom
