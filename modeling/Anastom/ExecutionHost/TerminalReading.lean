import Anastom.ExecutionHost.FlushedCounts
import Anastom.ExecutionHost.TerminalSize

/-! Reading a published terminal record back. The record always fits and keeps what it
promises; it is unreadable exactly when a count in it has left the range of safe integers:
the bytes a command wrote, or the dropped logs that the supervisor adds up in a log. -/
namespace Anastom

/-- What an execution can end with: a result that a runtime host may emit, or the record
of a command it executed. -/
inductive TerminalResult.Emitted : TerminalResult → Prop
  | runtime {value : ExecutionResult} (accepted : assertExecutionResult value.toJson = .ok ()) :
      Emitted (.runtime value)
  | command (command : CommandDefinition) (stdoutChunks stderrChunks : List (List UInt8))
      (close : ChildClose) :
      Emitted (.command (commandExecutionToRecord
        (executeCommand command stdoutChunks stderrChunks close)))

/-- The counts of bytes that a command's report carries are safe integers. -/
def TerminalResult.countsSafe : TerminalResult → Bool
  | .runtime _ => true
  | .command value => nonnegative value.output.stdoutBytes && nonnegative value.output.stderrBytes

/-- A typed failure of the category that an oversized result gets. -/
def TerminalResult.SchemaViolation : TerminalResult → Prop
  | .runtime value => ∃ message, value = .failed ⟨.schemaViolation, message⟩
  | .command value => value.output.passed = false ∧
      ∃ message, value.failure = some ⟨.schemaViolation, message⟩

/-- What a record is that is published from a queue, beside the full record. -/
structure Publishes (terminationRequested : Bool) (queue : RetainedEvents)
    (full record : ExecutionTerminalRecord) : Prop where
  fits : record.fits = true
  readsBack : readRecord record.toJson executionTerminalMaxBytes assertExecutionTerminalRecord =
    .ok record.toJson.reread
  cleanup : record.cleanup = full.cleanup
  whole : full.fits = true → record.result = full.result ∧ record.events = full.events
  compact : full.fits = false → record.result.SchemaViolation ∧
    record.events = queue.observed.filter (!·.isLog)
  outcome : record.outcome = terminalOutcome terminationRequested record.result

variable {plan : ExecutionPlanRef} {queue : RetainedEvents} {terminationRequested : Bool}
  {result : TerminalResult} {cleanup : CleanupOutcome}

/-- Every log of the queue counts its dropped logs in the range that is read back. -/
def RetainedEvents.countsSafe (queue : RetainedEvents) : Bool :=
  queue.observed.all fun event => nonnegative event.dropped

theorem RuntimeEvent.Counted.valid_iff {event : RuntimeEvent} (counted : event.Counted) :
    event.valid = true ↔ nonnegative event.dropped = true := by
  cases event with
  | log message droppedLogs =>
    cases droppedLogs with
    | none => exact iff_of_true rfl rfl
    | some count =>
      have some := counted count rfl
      simp only [RuntimeEvent.valid, RuntimeEvent.dropped, Option.all_some, positive_iff,
        Option.getD_some, nonnegative_iff, some, true_and]
  | _ => exact iff_of_true counted rfl

theorem readRecord_ok {record : ExecutionTerminalRecord} (fits : record.fits = true) :
    readRecord record.toJson executionTerminalMaxBytes assertExecutionTerminalRecord =
        .ok record.toJson.reread ↔
      positive record.generation = true ∧ record.events.length ≤ 256 ∧
        (∀ event ∈ record.events, event.valid = true) ∧ record.result.Readable := by
  rw [readRecord, require_bind_ok, bind_ok, assertExecutionTerminalRecord_reread]
  simp only [pure_ok, and_true, exists_const, assertExecutionTerminalRecord_ok]
  exact and_iff_right fits

namespace TerminalResult.Emitted

theorem readable (emitted : result.Emitted) : result.Readable ↔ result.countsSafe = true := by
  cases emitted with
  | runtime accepted => exact iff_of_true accepted rfl
  | command command stdoutChunks stderrChunks close =>
    rw [TerminalResult.Readable, assertSerializedCommandExecution_ok,
      close.readable rfl rfl]
    rfl

theorem compact_violates (emitted : result.Emitted) : (compactResult result).SchemaViolation := by
  cases emitted with
  | runtime accepted => exact ⟨_, rfl⟩
  | command command stdoutChunks stderrChunks close => exact ⟨rfl, _, rfl⟩

theorem compact_readable (emitted : result.Emitted) :
    (compactResult result).Readable ↔ result.countsSafe = true := by
  cases emitted with
  | runtime accepted =>
    refine iff_of_true (assertExecutionResult_ok.mpr ?_) rfl
    rw [failedResult_bytes, compactFailure_bytes]
    decide
  | command command stdoutChunks stderrChunks close =>
    rw [compactResult, TerminalResult.Readable, assertSerializedCommandExecution_ok,
      close.readable rfl rfl]
    rfl

theorem compact_bytes (emitted : result.Emitted) (safe : result.countsSafe = true) :
    Json.byteLength (compactResult result).toJson ≤ 600 := by
  cases emitted with
  | runtime accepted => exact Nat.le_trans (compactRuntime_bytes _) (by decide)
  | command command stdoutChunks stderrChunks close =>
    have counts := (Emitted.command command stdoutChunks stderrChunks close).readable.mpr safe
    exact compactCommand_bytes (assertSerializedCommandExecution_ok.mp counts) close.elapsed.1
      close.named

end TerminalResult.Emitted

/-- The compact record always fits. -/
theorem compactTerminal_fits (valid : assertExecutionPlanRef plan = .ok ())
    (bounded : queue.Bounded) (emitted : result.Emitted) (safe : result.countsSafe = true) :
    (compactTerminal terminationRequested
      (fullTerminal plan terminationRequested queue.observed result cleanup)).fits = true := by
  simp only [assertExecutionPlanRef, require_ok, Bool.and_eq_true] at valid
  obtain ⟨⟨⟨_, identified⟩, generation⟩, _⟩ := valid
  have kept := RetainedEvents.overflows_sublist (RetainedEvents.required_sublist _) bounded.fits
  simp only [RetainedEvents.overflows, decide_eq_false_iff_not, not_or, Nat.not_lt] at kept
  have events := kept.2
  have failure := emitted.compact_bytes safe
  have bytes := @terminalRecord_bytes (compactTerminal terminationRequested
    (fullTerminal plan terminationRequested queue.observed result cleanup)) identified generation
  simp only [RetainedEvents.required, executionSocketFrameMaxBytes] at events
  simp only [compactTerminal, fullTerminal] at bytes ⊢
  rw [ExecutionTerminalRecord.fits, decide_eq_true_iff, executionTerminalMaxBytes]
  omega

theorem boundedTerminal_cases {full : ExecutionTerminalRecord}
    (compact : (compactTerminal terminationRequested full).fits = true) :
    boundedTerminal terminationRequested full =
      if full.fits then full else compactTerminal terminationRequested full := by
  simp only [boundedTerminal, compact, if_true]

/-- A supervisor publishes what its flushed queue and its result lead to. -/
theorem publishTerminal_run {flushed : RetainedEvents}
    (ran : RetainedEvents.flushDroppedLogs queue = (.ok (), flushed))
    {record : ExecutionTerminalRecord} {after : RetainedEvents} :
    publishTerminal plan terminationRequested result cleanup queue = (.ok record, after) ↔
      record.fits = true ∧ after = flushed ∧ record = boundedTerminal terminationRequested
        (fullTerminal plan terminationRequested flushed.observed result cleanup) := by
  have run : publishTerminal plan terminationRequested result cleanup queue =
      (do
        let value := boundedTerminal terminationRequested
          (fullTerminal plan terminationRequested flushed.observed result cleanup)
        let _ ← Action.lift (boundedBytes value.toJson executionTerminalMaxBytes)
        pure value : Action RetainedEvents ExecutionTerminalRecord) flushed := by
    simp only [publishTerminal, bind, ran]
    rfl
  rw [run]
  generalize boundedTerminal terminationRequested
    (fullTerminal plan terminationRequested flushed.observed result cleanup) = value
  by_cases fits : Json.byteLength value.toJson ≤ executionTerminalMaxBytes
  · have bytes : boundedBytes value.toJson executionTerminalMaxBytes =
        .ok (Json.canonicalJson value.toJson) := by
      rw [boundedBytes, decide_eq_true fits]
      rfl
    simp only [bytes]
    constructor
    · rintro ⟨⟩
      exact ⟨decide_eq_true fits, rfl, rfl⟩
    · rintro ⟨_, rfl, rfl⟩
      rfl
  · have bytes : boundedBytes value.toJson executionTerminalMaxBytes =
        .error (.error "Private record exceeds its byte limit") := by
      rw [boundedBytes, decide_eq_false fits]
      rfl
    simp only [bytes]
    refine iff_of_false (by rintro ⟨⟩) ?_
    rintro ⟨small, rfl, rfl⟩
    exact fits (of_decide_eq_true small)

theorem boundedTerminal_compact {full : ExecutionTerminalRecord} (size : full.fits = false) :
    (boundedTerminal terminationRequested full).result = compactResult full.result := by
  simp only [boundedTerminal, size, Bool.false_eq_true, if_false]
  split <;> rfl

/-- What is published of a queue whose counts can be read back. -/
theorem boundedTerminal_publishes (valid : assertExecutionPlanRef plan = .ok ())
    {flushed : RetainedEvents} (bounded : flushed.Bounded)
    (kept : RetainedEvents.required flushed.observed = RetainedEvents.required queue.observed)
    (emitted : result.Emitted) (safe : result.countsSafe = true)
    {full : ExecutionTerminalRecord}
    (form : full = fullTerminal plan terminationRequested flushed.observed result cleanup)
    (counts : full.fits = true → flushed.countsSafe = true) :
    Publishes terminationRequested queue full (boundedTerminal terminationRequested full) := by
  have generation : positive plan.generation = true := by
    simp only [assertExecutionPlanRef, require_ok, Bool.and_eq_true] at valid
    exact valid.1.2
  have length := bounded.length
  have compact : (compactTerminal terminationRequested full).fits = true := by
    rw [form]
    exact compactTerminal_fits valid bounded emitted safe
  obtain ⟨sameGeneration, sameEvents, sameResult, sameOutcome⟩ :
      full.generation = plan.generation ∧ full.events = flushed.observed ∧ full.result = result ∧
        full.outcome = terminalOutcome terminationRequested result := by
    rw [form]
    exact ⟨rfl, rfl, rfl, rfl⟩
  rw [← sameGeneration] at generation
  rw [boundedTerminal_cases compact]
  cases size : full.fits with
  | true =>
    have events : ∀ event ∈ flushed.observed, event.valid = true := fun event member =>
      (bounded.counted event member).valid_iff.mpr (List.all_eq_true.mp (counts size) event member)
    rw [← sameEvents] at events length
    exact
      { fits := size
        readsBack := (readRecord_ok size).mpr
          ⟨generation, length, events, sameResult ▸ emitted.readable.mpr safe⟩
        cleanup := rfl
        whole := fun _ => ⟨rfl, rfl⟩
        compact := by
          rw [size]
          rintro ⟨⟩
        outcome := by
          rw [if_pos rfl, sameResult]
          exact sameOutcome }
  | false =>
    have events : (compactTerminal terminationRequested full).events =
        RetainedEvents.required flushed.observed := by
      rw [← sameEvents]
      rfl
    rw [if_neg Bool.false_ne_true]
    refine
      { fits := compact
        readsBack := (readRecord_ok compact).mpr ⟨generation, ?_, ?_, ?_⟩
        cleanup := rfl
        whole := by
          rw [size]
          rintro ⟨⟩
        compact := fun _ => ⟨?_, events.trans kept⟩
        outcome := rfl }
    · rw [events]
      exact Nat.le_trans (RetainedEvents.required_sublist _).length_le length
    · rw [events]
      intro event member
      obtain ⟨listed, required⟩ := List.mem_filter.mp member
      have counted := bounded.counted event listed
      cases event with
      | log message droppedLogs => cases required
      | _ => exact counted
    · change (compactResult full.result).Readable
      rw [sameResult]
      exact emitted.compact_readable.mpr safe
    · change (compactResult full.result).SchemaViolation
      rw [sameResult]
      exact emitted.compact_violates

/-- What a record that reads back says about the counts it was made from. -/
theorem Publishes.counts {flushed : RetainedEvents} (bounded : flushed.Bounded)
    (emitted : result.Emitted) {full record : ExecutionTerminalRecord}
    (form : full = fullTerminal plan terminationRequested flushed.observed result cleanup)
    (bounding : record = boundedTerminal terminationRequested full)
    (published : Publishes terminationRequested queue full record) :
    result.countsSafe = true ∧ (full.fits = true → flushed.countsSafe = true) := by
  obtain ⟨_, _, events, readable⟩ := (readRecord_ok published.fits).mp published.readsBack
  refine ⟨?_, fun whole => ?_⟩
  · cases size : full.fits with
    | true =>
      rw [(published.whole size).1, form] at readable
      exact emitted.readable.mp readable
    | false =>
      rw [bounding, boundedTerminal_compact size, form] at readable
      exact emitted.compact_readable.mp readable
  · rw [(published.whole whole).2, form] at events
    exact List.all_eq_true.mpr fun event member =>
      (bounded.counted event member).valid_iff.mp (events event member)

/-- The bytes that a record of a result leaves for its events. -/
def eventRoom (plan : ExecutionPlanRef) (terminationRequested : Bool) (result : TerminalResult)
    (cleanup : CleanupOutcome) : Nat :=
  executionTerminalMaxBytes + 2 -
    Json.byteLength (fullTerminal plan terminationRequested [] result cleanup).toJson

theorem fullTerminal_room {events : List RuntimeEvent} :
    (fullTerminal plan terminationRequested events result cleanup).fits = true ↔
      RetainedEvents.eventBytes events ≤ eventRoom plan terminationRequested result cleanup := by
  have empty : RetainedEvents.eventBytes [] = 2 := RetainedEvents.eventBytes_eq []
  have some : 2 ≤ RetainedEvents.eventBytes events := by
    rw [RetainedEvents.eventBytes_eq]
    omega
  have bytes : Json.byteLength (fullTerminal plan terminationRequested events result cleanup).toJson
      + 2 = Json.byteLength (fullTerminal plan terminationRequested [] result cleanup).toJson +
        RetainedEvents.eventBytes events := by
    rw [← empty, ExecutionTerminalRecord.toJson, ExecutionTerminalRecord.toJson,
      Json.byteLength_object, Json.byteLength_object]
    simp only [fullTerminal, List.map_cons, List.map_nil, List.sum_cons, List.sum_nil,
      Json.memberLength, List.length_cons, List.length_nil, RetainedEvents.eventBytes]
    omega
  rw [ExecutionTerminalRecord.fits, decide_eq_true_iff, eventRoom]
  omega

/-- A published terminal record reads back, keeping its verdict, its result and its events or
else a typed failure and every event that is no log, exactly when the counts it carries are
safe integers. -/
theorem publishTerminal_reads (valid : assertExecutionPlanRef plan = .ok ())
    (reached : queue.Reachable) (emitted : result.Emitted) :
    (∃ record flushed,
      publishTerminal plan terminationRequested result cleanup queue = (.ok record, flushed) ∧
      Publishes terminationRequested queue
        (fullTerminal plan terminationRequested flushed.observed result cleanup) record) ↔
    result.countsSafe = true ∧
      queue.CountsSafe (eventRoom plan terminationRequested result cleanup) := by
  obtain ⟨flushed, ran, bounded, kept⟩ := RetainedEvents.flushDroppedLogs_bounded reached.bounded
  have counted : queue.CountsSafe (eventRoom plan terminationRequested result cleanup) ↔
      ((fullTerminal plan terminationRequested flushed.observed result cleanup).fits = true →
        flushed.countsSafe = true) := by
    rw [RetainedEvents.countsSafe_iff reached ran, fullTerminal_room, RetainedEvents.countsSafe,
      List.all_eq_true]
    simp only [nonnegative_iff]
  rw [counted]
  simp only [publishTerminal_run ran]
  generalize form : fullTerminal plan terminationRequested flushed.observed result cleanup = full
  constructor
  · rintro ⟨record, after, ⟨fits, same, bounding⟩, published⟩
    rw [same, form] at published
    exact published.counts bounded emitted form.symm bounding
  · rintro ⟨safe, counts⟩
    have published := boundedTerminal_publishes valid bounded kept emitted safe form.symm counts
    refine ⟨boundedTerminal terminationRequested full, flushed, ⟨published.fits, rfl, rfl⟩, ?_⟩
    rw [form]
    exact published

def terminalPlan : ExecutionPlanRef where
  runId := "run"
  executionId := "00000000-0000-4000-8000-000000000000"
  kind := .runtime
  generation := 1
  planDigest := "sha256:0000000000000000000000000000000000000000000000000000000000000000"

theorem terminalPlan_valid : assertExecutionPlanRef terminalPlan = .ok () := by
  have identified : Text.identifier terminalPlan.runId = true := by
    rw [Text.identifier, Text.nodeName, terminalPlan, String.toList_ofList]
    decide
  have uuid : Text.uuid terminalPlan.executionId = true := by
    rw [Text.uuid, terminalPlan, String.toList_ofList]
    decide
  have digest : Text.digest terminalPlan.planDigest = true := by
    rw [Text.digest, terminalPlan, String.toList_ofList]
    decide
  rw [assertExecutionPlanRef, identified, uuid, digest]
  rfl

/-- The smallest result of a runtime. -/
theorem nullResult_bytes : Json.byteLength (ExecutionResult.succeeded .null).toJson = 36 := by
  have texts : Json.byteLength (.string "status") = 8 ∧
      Json.byteLength (.string "succeeded") = 11 ∧ Json.byteLength (.string "output") = 8 := by
    repeat' apply And.intro
    all_goals
      rw [Json.byteLength_ofList]
      decide
  rw [ExecutionResult.toJson, Json.byteLength_object]
  simp only [List.map_cons, List.map_nil, List.sum_cons, List.sum_nil, Json.memberLength,
    List.length_cons, List.length_nil, texts, byteLength_null]
  rfl

theorem nullResult_emitted : (TerminalResult.runtime (.succeeded .null)).Emitted := by
  refine .runtime (assertExecutionResult_ok.mpr ?_)
  rw [nullResult_bytes]
  decide

/-- A queue that cannot be read back, of a record that fits. -/
theorem publishTerminal_unread {flushed : RetainedEvents}
    (ran : RetainedEvents.flushDroppedLogs queue = (.ok (), flushed)) (bounded : queue.Bounded)
    (emitted : result.Emitted) (outside : flushed.countsSafe = false)
    (fits : (fullTerminal plan terminationRequested flushed.observed result cleanup).fits = true) :
    ¬ ∃ record after,
      publishTerminal plan terminationRequested result cleanup queue = (.ok record, after) ∧
      Publishes terminationRequested queue
        (fullTerminal plan terminationRequested after.observed result cleanup) record := by
  rintro ⟨record, after, published, reads⟩
  obtain ⟨_, same, bounding⟩ := (publishTerminal_run ran).mp published
  rw [same] at reads
  obtain ⟨other, flush, kept, _⟩ := RetainedEvents.flushDroppedLogs_bounded bounded
  rw [ran] at flush
  have counts := (reads.counts ((Prod.mk.inj flush).2 ▸ kept) emitted rfl bounding).2 fits
  rw [outside] at counts
  exact Bool.false_ne_true counts

/-- Without a large result the full record fits. -/
theorem fullTerminal_fits (valid : assertExecutionPlanRef plan = .ok ())
    {flushed : RetainedEvents}
    (ran : RetainedEvents.flushDroppedLogs queue = (.ok (), flushed)) (bounded : queue.Bounded)
    (small : Json.byteLength result.toJson ≤ 3 * 1024 * 1024) :
    (fullTerminal plan terminationRequested flushed.observed result cleanup).fits = true := by
  simp only [assertExecutionPlanRef, require_ok, Bool.and_eq_true] at valid
  obtain ⟨⟨⟨_, identified⟩, generation⟩, _⟩ := valid
  obtain ⟨other, flush, kept, _⟩ := RetainedEvents.flushDroppedLogs_bounded bounded
  rw [ran] at flush
  have events := kept.bytes
  rw [← (Prod.mk.inj flush).2, executionSocketFrameMaxBytes] at events
  have bytes := @terminalRecord_bytes
    (fullTerminal plan terminationRequested flushed.observed result cleanup) identified generation
  simp only [fullTerminal] at bytes ⊢
  rw [ExecutionTerminalRecord.fits, decide_eq_true_iff, executionTerminalMaxBytes]
  omega

namespace RetainedEvents
variable {event : RuntimeEvent}

/-- A log that reports nothing. -/
def silentLog : RuntimeEvent := .log "" none

/-- More logs than are retained, then one with the largest count that is accepted. -/
def flood : List RuntimeEvent :=
  List.replicate 257 silentLog ++ [.log "" (some maxSafeInteger)]

theorem silentLog_short {n : Nat} : ∀ event ∈ List.replicate n silentLog,
    Json.byteLength event.toJson ≤ 200 := by
  have short : Json.byteLength silentLog.toJson ≤ 200 :=
    log_short (by decide) (by rintro count ⟨⟩)
  intro event member
  rw [List.eq_of_mem_replicate member]
  exact short

theorem reported_silent {n : Nat} (room : n ≤ 256) :
    ∃ events, reported (List.replicate n silentLog) = ⟨events, n, 0⟩ ∧
      events.map RetainedEvent.event = List.replicate n silentLog := by
  induction n with
  | zero => exact ⟨[], rfl, rfl⟩
  | succ n ih =>
    obtain ⟨events, ran, form⟩ := ih (Nat.le_of_succ_le room)
    have pushed : (push silentLog ⟨events, n, 0⟩).observed = List.replicate (n + 1) silentLog := by
      rw [observed_push, observed, form, List.replicate_succ']
    have append : appendEvent silentLog ⟨events, n, 0⟩ =
        (.ok (), push silentLog ⟨events, n, 0⟩) := by
      change trimEvents (push silentLog ⟨events, n, 0⟩) = _
      refine trimEvents_room ?_ ?_ <;> rw [pushed]
      · exact required_logs fun event member => by
          rw [List.eq_of_mem_replicate member]
          rfl
      · exact overflows_short (by rwa [List.length_replicate]) silentLog_short
    refine ⟨_, ?_, pushed⟩
    rw [List.replicate_succ', reported_concat, ran, append]
    rfl

/-- A full queue of silent logs drops one for a log that does not fit. -/
theorem trimEvents_silent {events : List RetainedEvent} {ordinal pending : Nat}
    (silent : events.map RetainedEvent.event = List.replicate 256 silentLog)
    (log : event.isLog = true) (plain : isSummary event = false)
    (short : Json.byteLength event.toJson ≤ 200) :
    ∃ rest, trimEvents (push event ⟨events, ordinal, pending⟩) =
        (.ok (), ⟨rest, ordinal + 1, Doubles.add pending 1⟩) ∧
      rest.map RetainedEvent.event = List.replicate 255 silentLog ++ [event] := by
  cases events with
  | nil => cases silent
  | cons first older =>
    rw [List.map_cons, List.replicate_succ, List.cons.injEq] at silent
    obtain ⟨head, tail⟩ := silent
    let rest := older ++ [⟨ordinal + 1, event⟩]
    have shape : rest.map RetainedEvent.event = List.replicate 255 silentLog ++ [event] := by
      rw [List.map_append, tail]
      rfl
    have length : rest.length = 256 := by
      rw [← List.length_map RetainedEvent.event, shape, List.length_append, List.length_replicate]
      rfl
    have members : ∀ other ∈ rest.map RetainedEvent.event, other = silentLog ∨ other = event := by
      intro other member
      rw [shape] at member
      rcases List.mem_append.mp member with old | new
      · exact .inl (List.eq_of_mem_replicate old)
      · exact .inr (List.mem_singleton.mp new)
    have dropped : Doubles.add first.event.dropped 1 = 1 := by
      rw [head]
      rfl
    have accounted : account 1 ⟨rest, ordinal + 1, pending⟩ =
        ⟨rest, ordinal + 1, Doubles.add pending 1⟩ := by
      refine account_silent fun other member => ?_
      rcases members other member with rfl | rfl
      · rfl
      · exact plain
    refine ⟨rest, ?_, shape⟩
    have turn := @trimEvents_many (push event ⟨first :: older, ordinal, pending⟩) first rest rfl
      length ?_ ?_
    · rw [turn, dropped]
      exact congrArg _ accounted
    · intro other member
      rcases List.mem_cons.mp member with same | later
      · rw [same, head]
        rfl
      · rcases members other later with rfl | rfl
        · rfl
        · exact log
    · rw [dropped]
      intro other member
      have after : account 1 { push event ⟨first :: older, ordinal, pending⟩ with events := rest } =
          ⟨rest, ordinal + 1, Doubles.add pending 1⟩ := accounted
      rw [after] at member
      rcases members other member with rfl | rfl
      · exact @silentLog_short 1 _ (List.mem_singleton_self _)
      · exact short

/-- A queue of silent logs that one more has pushed a log out of. -/
theorem reported_pushed : ∃ events, reported (List.replicate 257 silentLog) = ⟨events, 257, 1⟩ ∧
    events.map RetainedEvent.event = List.replicate 256 silentLog := by
  obtain ⟨events, ran, silent⟩ := reported_silent (Nat.le_refl 256)
  obtain ⟨rest, turn, kept⟩ := @trimEvents_silent silentLog events 256 0 silent rfl rfl
    (@silentLog_short 1 _ (List.mem_singleton_self _))
  refine ⟨rest, ?_, kept.trans List.replicate_succ'.symm⟩
  rw [List.replicate_succ', reported_concat, ran]
  exact congrArg Prod.snd turn

/-- The summary of one log more pushes the oldest of a full queue. -/
theorem summarized_one {rest : List RuntimeEvent} :
    summarized 1 (silentLog :: rest) 1 = rest ++ [.log truncatedLogMessage (some 2)] := by
  have two : Doubles.add 1 (Doubles.add 0 1) = 2 := by decide
  change rest ++ [.log truncatedLogMessage (some (Doubles.add 1 (Doubles.add 0 1)))] = _
  rw [two]

theorem makesRoom_one {rest : List RuntimeEvent} (many : rest.length = 255)
    (short : ∀ event ∈ rest, Json.byteLength event.toJson ≤ 200) :
    MakesRoom 1 (silentLog :: rest) 1 where
  some := List.countP_pos_iff.mpr ⟨silentLog, List.mem_cons_self, rfl⟩
  room := by
    have truncated : Json.byteLength (.string truncatedLogMessage) ≤ 100 := by
      rw [truncatedLogMessage, Json.byteLength_ofList]
      decide
    rw [summarized_one]
    refine overflows_short ?_ fun event listed => ?_
    · rw [List.length_append, many]
      rfl
    · rcases List.mem_append.mp listed with old | new
      · exact short event old
      · rw [List.mem_singleton.mp new]
        exact log_short truncated (by rintro count ⟨⟩; decide)
  least := by
    intro fewer less
    obtain rfl := Nat.lt_one_iff.mp less
    refine overflows_many ?_
    rw [summarized_zero, List.length_append, List.length_cons, many]
    decide

/-- The flushed queue of such a queue. -/
theorem flushed_one {queue : RetainedEvents} {rest : List RuntimeEvent}
    (reached : queue.Reachable) (pending : queue.droppedLogs = 1)
    (observed : queue.observed = silentLog :: rest) (many : rest.length = 255)
    (short : ∀ event ∈ rest, Json.byteLength event.toJson ≤ 200) :
    ∃ flushed, flushDroppedLogs queue = (.ok (), flushed) ∧
      flushed.observed = rest ++ [.log truncatedLogMessage (some 2)] := by
  obtain ⟨flushed, ran, form⟩ := flushDroppedLogs_reached reached (by omega)
  rw [pending, observed] at form
  exact ⟨flushed, ran, (form.eq_summarized (makesRoom_one many short)).trans summarized_one⟩

theorem assertRuntimeHostOutput_log {message : String} {droppedLogs : Option Nat}
    (brief : Json.byteLength (.string message) ≤ 100)
    (counted : ∀ count ∈ droppedLogs, 1 ≤ count ∧ count ≤ maxSafeInteger) :
    assertRuntimeHostOutput (RuntimeHostOutput.event (.log message droppedLogs)).toJson =
      .ok () := by
  refine assertRuntimeHostOutput_event.mpr ⟨?_, ?_⟩
  · cases droppedLogs with
    | none => rfl
    | some count => exact positive_iff.mpr (counted count rfl)
  · refine Nat.le_trans (log_short brief fun count listed => ?_) (by decide)
    exact Nat.lt_of_le_of_lt (counted count listed).2 (by decide)

theorem reported_silent_reachable (n : Nat) : (reported (List.replicate n silentLog)).Reachable := by
  refine reported_reachable fun event listed => ?_
  rw [List.eq_of_mem_replicate listed]
  exact assertRuntimeHostOutput_log (by decide) nofun

end RetainedEvents

theorem nullResult_small :
    Json.byteLength (TerminalResult.runtime (.succeeded .null)).toJson ≤ 3 * 1024 * 1024 := by
  rw [runtimeResult_bytes, nullResult_bytes]
  decide

/-- 257 logs are reported, and 255 of them published with a summary of the others. -/
theorem publishTerminal_reads_pushed : ∃ record flushed,
    (publishTerminal terminalPlan false (.runtime (.succeeded .null)) .confirmed
        (RetainedEvents.reported (List.replicate 257 RetainedEvents.silentLog)) =
      (.ok record, flushed) ∧
    Publishes false (RetainedEvents.reported (List.replicate 257 RetainedEvents.silentLog))
      (fullTerminal terminalPlan false flushed.observed (.runtime (.succeeded .null)) .confirmed)
      record) ∧
    record.events = List.replicate 255 RetainedEvents.silentLog ++
      [.log RetainedEvents.truncatedLogMessage (some 2)] := by
  have reached := RetainedEvents.reported_silent_reachable 257
  obtain ⟨events, ran, silent⟩ := RetainedEvents.reported_pushed
  revert reached
  rw [ran]
  intro reached
  have observed : RetainedEvents.observed ⟨events, 257, 1⟩ =
      RetainedEvents.silentLog :: List.replicate 255 RetainedEvents.silentLog := silent
  have plain : ∀ event ∈ RetainedEvents.observed ⟨events, 257, 1⟩, event.dropped = 0 := by
    intro event listed
    rw [observed, ← List.replicate_succ] at listed
    rw [List.eq_of_mem_replicate listed]
    rfl
  have safe : RetainedEvents.CountsSafe ⟨events, 257, 1⟩
      (eventRoom terminalPlan false (.runtime (.succeeded .null)) .confirmed) := by
    refine ⟨nofun, fun count _ room _ => ⟨fun event listed => ?_, ?_⟩⟩
    · rw [plain event (RetainedEvents.mem_withoutOldest listed)]
      exact Nat.zero_le _
    · have few := room.some
      have bound := List.countP_le_length (p := RuntimeEvent.isLog)
        (l := RetainedEvents.observed ⟨events, 257, 1⟩)
      rw [observed, List.length_cons, List.length_replicate] at bound
      rw [observed] at few
      refine Nat.le_trans (RetainedEvents.summed_plain plain (by dsimp only; omega)) ?_
      rw [maxSafeInteger]
      dsimp only
      omega
  obtain ⟨record, flushed, run, published⟩ :=
    (publishTerminal_reads terminalPlan_valid reached nullResult_emitted).mpr ⟨rfl, safe⟩
  obtain ⟨after, flush, form⟩ := RetainedEvents.flushed_one reached rfl observed
    List.length_replicate RetainedEvents.silentLog_short
  obtain ⟨_, rfl, _⟩ := (publishTerminal_run flush).mp run
  have whole := published.whole
    (fullTerminal_fits terminalPlan_valid flush reached.bounded nullResult_small)
  exact ⟨record, flushed, ⟨run, published⟩, whole.2.trans form⟩

namespace RetainedEvents

/-- The log that the last one of the flood is retained as. -/
def floodedLog : RuntimeEvent := .log "" (some (maxSafeInteger + 1))

theorem reported_flood : ∃ events, reported flood = ⟨events, 258, 1⟩ ∧
    events.map RetainedEvent.event = List.replicate 255 silentLog ++ [floodedLog] := by
  obtain ⟨events, ran, silent⟩ := reported_pushed
  obtain ⟨last, ended, form⟩ := @trimEvents_silent floodedLog events 257 0 silent rfl rfl
    (log_short (by decide) (by rintro count ⟨⟩; decide))
  refine ⟨last, ?_, form⟩
  have sum : Doubles.add maxSafeInteger 1 = maxSafeInteger + 1 := by decide
  have append : appendEvent (.log "" (some maxSafeInteger)) ⟨events, 257, 1⟩ =
      trimEvents (push floodedLog ⟨events, 257, 0⟩) := by
    change trimEvents (push (.log "" (some (Doubles.add maxSafeInteger 1))) ⟨events, 257, 0⟩) = _
    rw [sum]
    rfl
  rw [flood, reported_concat, ran, append, ended]
  rfl

theorem flood_reachable : (reported flood).Reachable := by
  rw [flood, reported_concat]
  refine .append (reported_silent_reachable 257) (assertRuntimeHostOutput_log (by decide) ?_)
  rintro count ⟨⟩
  exact ⟨by decide, Nat.le_refl _⟩

theorem flushDroppedLogs_flood :
    ∃ flushed, flushDroppedLogs (reported flood) = (.ok (), flushed) ∧
      floodedLog ∈ flushed.observed := by
  have reached := flood_reachable
  obtain ⟨events, ran, form⟩ := reported_flood
  rw [ran] at reached ⊢
  have observed : RetainedEvents.observed ⟨events, 258, 1⟩ =
      silentLog :: (List.replicate 254 silentLog ++ [floodedLog]) := form
  have many : (List.replicate 254 silentLog ++ [floodedLog]).length = 255 := by
    rw [List.length_append, List.length_replicate, List.length_singleton]
  have short : ∀ event ∈ List.replicate 254 silentLog ++ [floodedLog],
      Json.byteLength event.toJson ≤ 200 := by
    intro event listed
    rcases List.mem_append.mp listed with silent | last
    · exact silentLog_short event silent
    · rw [List.mem_singleton.mp last]
      exact log_short (by decide) (by rintro count ⟨⟩; decide)
  obtain ⟨flushed, flush, left⟩ := flushed_one reached rfl observed many short
  refine ⟨flushed, flush, ?_⟩
  rw [left]
  exact List.mem_append_left _ (List.mem_append_right _ (List.mem_singleton_self _))

end RetainedEvents

/-- The count of a retained log leaves the safe integers, and the record does not read back. -/
theorem publishTerminal_flooded : (RetainedEvents.reported RetainedEvents.flood).Reachable ∧
    (TerminalResult.runtime (.succeeded .null)).Emitted ∧
    ¬ ∃ record flushed,
      publishTerminal terminalPlan false (.runtime (.succeeded .null)) .confirmed
          (RetainedEvents.reported RetainedEvents.flood) = (.ok record, flushed) ∧
        Publishes false (RetainedEvents.reported RetainedEvents.flood)
          (fullTerminal terminalPlan false flushed.observed (.runtime (.succeeded .null))
            .confirmed) record := by
  have reached := RetainedEvents.flood_reachable
  have emitted := nullResult_emitted
  obtain ⟨flushed, flush, flooded⟩ := RetainedEvents.flushDroppedLogs_flood
  refine ⟨reached, emitted, publishTerminal_unread flush reached.bounded emitted ?_ ?_⟩
  · refine Bool.eq_false_iff.mpr fun safe => ?_
    exact absurd (List.all_eq_true.mp safe _ flooded) (by decide)
  · exact fullTerminal_fits terminalPlan_valid flush reached.bounded nullResult_small

end Anastom
