import Anastom.ExecutionHost.Settlement
import Anastom.ExecutionHost.TerminalReading

/-! Which frames of an execution fit their limit. Launch frames wrap a launch input that was
admitted up to the same limit, and a command may keep more output than a result frame
carries once it is written in base64. -/
namespace Anastom
open JsonValue

variable {input : LaunchInput}

theorem encodeFrame_ok {fields : List (String × JsonValue)} {maxBytes : Nat} :
    (∃ frame, encodeFrame (.object fields) maxBytes = .ok frame) ↔
      Json.byteLength (.object fields) ≤ maxBytes := by
  have some : 1 ≤ Json.byteLength (.object fields) := by
    rw [Json.byteLength_object]
    omega
  have run : ∀ frame, encodeFrame (.object fields) maxBytes = .ok frame ↔
      Json.byteLength (.object fields) ≤ maxBytes ∧
        Json.canonicalJson (.object fields) = frame := by
    intro frame
    rw [encodeFrame, require_bind_ok, decide_eq_true_iff, and_iff_right some]
    exact and_congr_right fun _ => ⟨Except.ok.inj, congrArg Except.ok⟩
  simp only [run]
  constructor
  · rintro ⟨_, fits, _⟩
    exact fits
  · exact fun fits => ⟨_, fits, rfl⟩

/-- A launch frame is its launch input, its runtime host, and 81 bytes. -/
theorem supervisorLaunch_bytes (prepare : PrepareExecution) (runtimeHost : RuntimeHostCommand) :
    Json.byteLength (supervisorLaunch prepare runtimeHost) =
      Json.byteLength prepare.toJson + Json.byteLength runtimeHost.toJson + 81 := by
  have texts : Json.byteLength (.string "version") = 9 ∧
      Json.byteLength (.string "prepare") = 9 ∧ Json.byteLength (.string "runtimeHost") = 13 := by
    repeat' apply And.intro
    all_goals
      rw [Json.byteLength_ofList]
      decide
  rw [supervisorLaunch, Json.byteLength_object]
  simp only [List.map_cons, List.map_nil, List.sum_cons, List.sum_nil, Json.memberLength,
    List.length_cons, List.length_nil, texts, byteLength_version]
  omega

theorem base64_bytes (bytes : List UInt8) :
    Json.byteLength (.string (Base64.encode bytes)) = 2 + 4 * ((bytes.length + 2) / 3) := by
  have table : ('=' :: Base64.alphabet).all Json.unescaped = true := by
    delta Base64.alphabet
    rewrite [String.toList_ofList]
    decide
  have form : (Base64.encode bytes).toList = Base64.encodeChars bytes := String.toList_ofList
  rw [Json.byteLength_unescaped, form, Base64.encodeChars_length]
  intro c member
  rw [form] at member
  rcases Base64.encodeChars_mem bytes c member with listed | rfl
  · exact List.all_eq_true.mp table c (List.mem_cons_of_mem _ listed)
  · exact List.all_eq_true.mp table '=' List.mem_cons_self

/-- The bytes of a command's result frame around its outputs. -/
def reportBytes (execution : CommandExecution) : Nat :=
  Json.byteLength (RuntimeHostOutput.commandResult
    { commandExecutionToRecord execution with stdout := "", stderr := "" }).toJson

/-- A result frame grows by the base64 text of what was kept. -/
theorem commandResult_bytes (execution : CommandExecution) :
    Json.byteLength (RuntimeHostOutput.commandResult (commandExecutionToRecord execution)).toJson =
      reportBytes execution + 4 * ((execution.stdout.length + 2) / 3) +
        4 * ((execution.stderr.length + 2) / 3) := by
  have empty : Json.byteLength (.string "") = 2 := by
    rw [Json.byteLength_ofList]
    decide
  simp only [reportBytes, RuntimeHostOutput.toJson, SerializedCommandExecution.toJson,
    commandExecutionToRecord, Json.byteLength_object, List.map_append, List.map_cons, List.map_nil,
    List.sum_append, List.sum_cons, List.sum_nil, Json.memberLength, base64_bytes, empty,
    List.length_cons, List.length_append, List.length_nil]
  omega

theorem event_frame {event : RuntimeEvent}
    (accepted : assertRuntimeHostOutput (RuntimeHostOutput.event event).toJson = .ok ()) :
    Json.byteLength (RuntimeHostOutput.event event).toJson ≤ executionLaunchFrameMaxBytes := by
  have bytes := (assertRuntimeHostOutput_event.mp accepted).2
  rw [eventFrame_bytes]
  rw [executionPrivateRecordMaxBytes] at bytes
  rw [executionLaunchFrameMaxBytes]
  omega

theorem runtimeResult_frame {result : ExecutionResult}
    (accepted : assertExecutionResult result.toJson = .ok ()) :
    Json.byteLength (RuntimeHostOutput.runtimeResult result).toJson ≤
      executionLaunchFrameMaxBytes := by
  have bytes := assertExecutionResult_ok.mp accepted
  have texts : Json.byteLength (.string "type") = 6 ∧ Json.byteLength (.string "result") = 8 ∧
      Json.byteLength (.string "runtime-result") = 16 := by
    repeat' apply And.intro
    all_goals
      rw [Json.byteLength_ofList]
      decide
  simp only [RuntimeHostOutput.toJson, Json.byteLength_object, List.map_cons, List.map_nil,
    List.sum_cons, List.sum_nil, Json.memberLength, texts, List.length_cons, List.length_nil,
    executionLaunchFrameMaxBytes, maxExecutionResultBytes] at bytes ⊢
  omega

/-- What the runtime host requires of an output that it writes. -/
def RuntimeHostOutput.Carried (output : RuntimeHostOutput) : Prop :=
  assertRuntimeHostOutput output.toJson = .ok () ∧
    Json.byteLength output.toJson ≤ executionLaunchFrameMaxBytes

theorem RuntimeHostOutput.encodeFrame_ok (output : RuntimeHostOutput) :
    (∃ frame, encodeFrame output.toJson executionLaunchFrameMaxBytes = .ok frame) ↔
      Json.byteLength output.toJson ≤ executionLaunchFrameMaxBytes := by
  cases output <;> exact Anastom.encodeFrame_ok

theorem emit_carried {output : RuntimeHostOutput} {written : List RuntimeHostOutput}
    (carried : output.Carried) : emit output written = (.ok (), written ++ [output]) := by
  obtain ⟨frame, encoded⟩ := output.encodeFrame_ok.mpr carried.2
  simp only [emit, Action.lift_bind, carried.1, encoded]
  rfl

theorem emit_refused {output : RuntimeHostOutput} {written : List RuntimeHostOutput}
    (refused : ¬ output.Carried) : ∃ failure, emit output written = (.error failure, written) := by
  simp only [emit, Action.lift_bind]
  cases accepted : assertRuntimeHostOutput output.toJson with
  | error failure => exact ⟨failure, rfl⟩
  | ok u =>
    cases encoded : encodeFrame output.toJson executionLaunchFrameMaxBytes with
    | error failure => exact ⟨failure, rfl⟩
    | ok frame => exact absurd ⟨accepted, output.encodeFrame_ok.mp ⟨frame, encoded⟩⟩ refused

theorem emitAll_carried {items written : List RuntimeHostOutput}
    (carried : ∀ output ∈ items, output.Carried) :
    emitAll items written = (.ok (), written ++ items) := by
  induction items generalizing written with
  | nil => rw [List.append_nil]; rfl
  | cons output rest ih =>
    have first := @emit_carried output written (carried output List.mem_cons_self)
    have others := @ih (written ++ [output]) fun other member =>
      carried other (List.mem_cons_of_mem _ member)
    simp only [emitAll, bind, first, others, List.append_assoc, List.singleton_append]

theorem emitAll_refused {items written : List RuntimeHostOutput}
    (refused : ¬ ∀ output ∈ items, output.Carried) :
    ∃ failure before, emitAll items written = (.error failure, before) := by
  induction items generalizing written with
  | nil => exact absurd (fun output member => absurd member List.not_mem_nil) refused
  | cons output rest ih =>
    by_cases carried : output.Carried
    · have later : ¬ ∀ other ∈ rest, other.Carried := fun all =>
        refused (List.forall_mem_cons.mpr ⟨carried, all⟩)
      obtain ⟨failure, before, ended⟩ := @ih (written ++ [output]) later
      refine ⟨failure, before, ?_⟩
      simp only [emitAll, bind, emit_carried carried, ended]
    · obtain ⟨failure, ended⟩ := @emit_refused output written carried
      refine ⟨failure, written, ?_⟩
      simp only [emitAll, bind, ended]

/-- A runtime host exits with 0 exactly when it could write every output. -/
theorem runExecutionRuntimeHost_carried {work : Work input}
    (carried : ∀ output ∈ outputs work, output.Carried) :
    runExecutionRuntimeHost work = (outputs work, some 0) := by
  rw [runExecutionRuntimeHost, emitAll_carried carried]
  rfl

theorem runExecutionRuntimeHost_refused {work : Work input}
    (refused : ¬ ∀ output ∈ outputs work, output.Carried) :
    (runExecutionRuntimeHost work).2 = some 1 := by
  obtain ⟨failure, before, ended⟩ := @emitAll_refused _ [] refused
  rw [runExecutionRuntimeHost, ended]

/-- A published record keeps the verdict on cleanup. -/
theorem publishTerminal_cleanup {plan : ExecutionPlanRef} {terminationRequested : Bool}
    {result : TerminalResult} {cleanup : CleanupOutcome} {queue after : RetainedEvents}
    {record : ExecutionTerminalRecord}
    (published : publishTerminal plan terminationRequested result cleanup queue =
      (.ok record, after)) : record.cleanup = cleanup := by
  cases ran : RetainedEvents.flushDroppedLogs queue with
  | mk outcome flushed =>
    cases outcome with
    | error failure =>
      simp only [publishTerminal, bind, ran] at published
      cases published
    | ok u =>
      obtain ⟨_, _, same⟩ := (publishTerminal_run ran).mp published
      rw [same, boundedTerminal]
      split
      · rfl
      · dsimp only
        split <;> rfl

/-- The events of a command, as its supervisor retains them. -/
def commandEvents (status : ResultStatus) : RetainedEvents :=
  ⟨[⟨1, .started⟩, ⟨2, .completed status⟩], 2, 0⟩

theorem appendEvent_command (status : ResultStatus) :
    RetainedEvents.appendEvent .started {} = (.ok (), ⟨[⟨1, .started⟩], 1, 0⟩) ∧
      RetainedEvents.appendEvent (.completed status) ⟨[⟨1, .started⟩], 1, 0⟩ =
        (.ok (), commandEvents status) := by
  have short : ∀ event ∈ [RuntimeEvent.started, .completed status],
      Json.byteLength event.toJson ≤ 200 := by
    simp only [List.forall_mem_cons, List.not_mem_nil, false_imp_iff, implies_true, and_true]
    exact ⟨Nat.le_trans (Nat.le_of_eq RuntimeEvent.started_bytes) (by decide),
      Nat.le_trans (RuntimeEvent.completed_bytes status) (by decide)⟩
  have fits (queue : RetainedEvents) (few : queue.observed.length ≤ 2)
      (listed : queue.observed ⊆ [RuntimeEvent.started, .completed status]) :
      RetainedEvents.trimEvents queue = (.ok (), queue) := by
    refine RetainedEvents.trimEvents_room ?_ ?_
    · exact Nat.le_trans (RetainedEvents.required_sublist _).length_le
        (Nat.le_trans few (by decide))
    · exact RetainedEvents.overflows_short (Nat.le_trans few (by decide)) fun event member =>
        short event (listed member)
  constructor
  · exact fits ⟨[⟨1, .started⟩], 1, 0⟩ (by decide) (by simp [RetainedEvents.observed])
  · exact fits (commandEvents status) (Nat.le_refl 2) (List.Subset.refl _)

theorem commandEvents_reachable (status : ResultStatus) : (commandEvents status).Reachable := by
  have appended := appendEvent_command status
  have started := RetainedEvents.Reachable.append .empty assertRuntimeHostOutput_started
  rw [appended.1] at started
  have completed := RetainedEvents.Reachable.append started
    (assertRuntimeHostOutput_completed status)
  rw [appended.2] at completed
  exact completed

def completedStatus (execution : CommandExecution) : ResultStatus :=
  if execution.output.passed then .succeeded else .failed

/-- A supervisor takes the three outputs of a command. -/
theorem receiveAll_command {execution : CommandExecution}
    (accepted : ∀ output ∈ [RuntimeHostOutput.event .started,
        .event (.completed (completedStatus execution)),
        .commandResult (commandExecutionToRecord execution)],
      assertRuntimeHostOutput output.toJson = .ok ()) :
    receiveAll [.event .started, .event (.completed (completedStatus execution)),
        .commandResult (commandExecutionToRecord execution)] none {} =
      (.ok (some (.command (commandExecutionToRecord execution))),
        commandEvents (completedStatus execution)) := by
  simp only [List.forall_mem_cons] at accepted
  obtain ⟨started, completed, result, _⟩ := accepted
  have appended := appendEvent_command (completedStatus execution)
  simp only [receiveAll, receive, bind, Action.lift, assertRuntimeHostOutput_reread, started,
    completed, result, appended, pure]

theorem flushDroppedLogs_command (status : ResultStatus) :
    RetainedEvents.flushDroppedLogs (commandEvents status) = (.ok (), commandEvents status) := rfl

theorem Publishes.result_or {terminationRequested : Bool} {queue : RetainedEvents}
    {full record : ExecutionTerminalRecord}
    (published : Publishes terminationRequested queue full record) :
    record.result = full.result ∨ record.result.SchemaViolation := by
  cases size : full.fits with
  | true => exact .inl (published.whole size).1
  | false => exact .inr (published.compact size).1

/-- What was kept of the outputs of a command is published, or a typed failure. -/
theorem settleExecution_command {plan : ExecutionPlanRef} {terminationRequested : Bool}
    (valid : assertExecutionPlanRef plan = .ok ()) {definition : CommandDefinition}
    {stdoutChunks stderrChunks : List (List UInt8)} {close : ChildClose}
    {execution : CommandExecution}
    (executed : execution = executeCommand definition stdoutChunks stderrChunks close)
    (accepted : ∀ output ∈ [RuntimeHostOutput.event .started,
        .event (.completed (completedStatus execution)),
        .commandResult (commandExecutionToRecord execution)],
      assertRuntimeHostOutput output.toJson = .ok ()) :
    ∃ record queue,
      settleExecution plan terminationRequested [.event .started,
          .event (.completed (completedStatus execution)),
          .commandResult (commandExecutionToRecord execution)] (some 0) true {} =
        (.ok record, queue) ∧
      record.cleanup = .confirmed ∧
      (record.result = .command (commandExecutionToRecord execution) ∨
        record.result.SchemaViolation) := by
  have received := receiveAll_command accepted
  have emitted : (TerminalResult.command (commandExecutionToRecord execution)).Emitted := by
    rw [executed]
    exact .command definition stdoutChunks stderrChunks close
  have safe : (TerminalResult.command (commandExecutionToRecord execution)).countsSafe = true :=
    emitted.readable.mp (assertRuntimeHostOutput_command.mp (accepted _ (by simp)))
  have bounded := (commandEvents_reachable (completedStatus execution)).bounded
  have counts : (commandEvents (completedStatus execution)).countsSafe = true := rfl
  have published := @boundedTerminal_publishes plan (commandEvents (completedStatus execution))
    terminationRequested _ .confirmed valid _ bounded rfl emitted safe _ rfl fun _ => counts
  refine ⟨_, commandEvents (completedStatus execution), ?_, published.cleanup, ?_⟩
  · rw [settleExecution, received]
    exact (publishTerminal_run (flushDroppedLogs_command _)).mpr ⟨published.fits, rfl, rfl⟩
  · exact published.result_or

/-- A runtime host that failed leaves its cleanup unknown. -/
theorem settleExecution_failed {plan : ExecutionPlanRef} {terminationRequested groupEmpty : Bool}
    {frames : List RuntimeHostOutput} {queue after : RetainedEvents}
    {record : ExecutionTerminalRecord}
    (settled : settleExecution plan terminationRequested frames (some 1) groupEmpty queue =
      (.ok record, after)) : record.cleanup = .unknown := by
  have unknown : settledResult (receiveAll frames none queue).1 (some 1) = none := by
    unfold settledResult
    split <;> rfl
  rw [settleExecution, unknown] at settled
  exact publishTerminal_cleanup settled

/-- The evidence that a command leads to. -/
def Work.commandExecution : {input : LaunchInput} → Work input → Option CommandExecution
  | .runtime .., .runtime .. => none
  | .command definition _, .command stdoutChunks stderrChunks close =>
    some (executeCommand definition stdoutChunks stderrChunks close)

/-- What the runtime contract asks of an adapter. -/
def Work.Admitted : {input : LaunchInput} → Work input → Prop
  | .runtime .., .runtime events result =>
    (∀ event ∈ events, assertRuntimeHostOutput (RuntimeHostOutput.event event).toJson = .ok ()) ∧
      assertExecutionResult result.toJson = .ok ()
  | .command .., .command .. => True

/-- The bytes of the result frame of a command that closed so, around the outputs of which it
wrote so much. -/
def ChildClose.reportBytes (close : ChildClose) (maxOutputBytes stdoutBytes stderrBytes : Nat) :
    Nat :=
  Json.byteLength (RuntimeHostOutput.commandResult
    { output := close.report maxOutputBytes stdoutBytes stderrBytes
      stdout := ""
      stderr := ""
      failure := close.failure }).toJson

/-- The kept output of a command fits a result frame in base64, beside its report. -/
def Work.OutputFits : {input : LaunchInput} → Work input → Prop
  | .runtime .., .runtime .. => True
  | .command definition _, .command stdoutChunks stderrChunks close =>
    let written (chunks : List (List UInt8)) : Nat := (chunks.map List.length).sum
    let encoded (chunks : List (List UInt8)) : Nat :=
      4 * ((min definition.maxOutputBytes (written chunks) + 2) / 3)
    close.reportBytes definition.maxOutputBytes (written stdoutChunks) (written stderrChunks) +
        encoded stdoutChunks + encoded stderrChunks ≤ executionLaunchFrameMaxBytes ∧
      written stdoutChunks ≤ maxSafeInteger ∧ written stderrChunks ≤ maxSafeInteger

/-- Every frame of an execution fits, and a command whose process group is gone settles with
confirmed cleanup and its result or a typed failure. -/
structure FrameCapacity (prepare : PrepareExecution) (runtimeHost : RuntimeHostCommand)
    (work : Work prepare.input) (terminationRequested : Bool) : Prop where
  launch : ∃ frame, encodeFrame (supervisorLaunch prepare runtimeHost)
    executionLaunchFrameMaxBytes = .ok frame
  input : ∃ frame, encodeFrame prepare.toJson executionLaunchFrameMaxBytes = .ok frame
  outputs : ∀ output ∈ outputs work,
    ∃ frame, encodeFrame output.toJson executionLaunchFrameMaxBytes = .ok frame
  settled : ∀ execution ∈ work.commandExecution, ∃ record queue,
    settleExecution prepare.plan terminationRequested (runExecutionRuntimeHost work).1
        (runExecutionRuntimeHost work).2 true {} = (.ok record, queue) ∧
      record.cleanup = .confirmed ∧
      (record.result = .command (commandExecutionToRecord execution) ∨
        record.result.SchemaViolation)

theorem commandOutputs_carried (definition : CommandDefinition)
    (stdoutChunks stderrChunks : List (List UInt8)) (close : ChildClose) {workspace : WorkspaceRef} :
    (∀ output ∈ outputs (@Work.command definition workspace stdoutChunks stderrChunks close),
        output.Carried) ↔
      (@Work.command definition workspace stdoutChunks stderrChunks close).OutputFits := by
  generalize executed : executeCommand definition stdoutChunks stderrChunks close = execution
  have stdout : execution.stdout.length =
      min definition.maxOutputBytes (stdoutChunks.map List.length).sum := by
    rw [← executed, executeCommand_stdout]
  have stderr : execution.stderr.length =
      min definition.maxOutputBytes (stderrChunks.map List.length).sum := by
    rw [← executed, executeCommand_stderr]
  have counts : execution.output.readable = true ↔
      (stdoutChunks.map List.length).sum ≤ maxSafeInteger ∧
        (stderrChunks.map List.length).sum ≤ maxSafeInteger := by
    rw [← executed, close.readable rfl rfl, Bool.and_eq_true, nonnegative_iff, nonnegative_iff]
    exact and_congr (keepOutput_bytes _ _) (keepOutput_bytes _ _)
  have form : outputs (@Work.command definition workspace stdoutChunks stderrChunks close) =
      [.event .started, .event (.completed (completedStatus execution)),
        .commandResult (commandExecutionToRecord execution)] := by
    rw [← executed]
    rfl
  have events : (RuntimeHostOutput.event .started).Carried ∧
      (RuntimeHostOutput.event (.completed (completedStatus execution))).Carried := by
    have started := assertRuntimeHostOutput_started
    have completed := assertRuntimeHostOutput_completed (completedStatus execution)
    exact ⟨⟨started, event_frame started⟩, ⟨completed, event_frame completed⟩⟩
  have report (safe : (stdoutChunks.map List.length).sum ≤ maxSafeInteger ∧
      (stderrChunks.map List.length).sum ≤ maxSafeInteger) : reportBytes execution =
      close.reportBytes definition.maxOutputBytes (stdoutChunks.map List.length).sum
        (stderrChunks.map List.length).sum := by
    have reported := @executeCommand_report definition _ _ close safe.1 safe.2
    rw [executed] at reported
    rw [reportBytes, commandExecutionToRecord, reported.1, reported.2]
    rfl
  have result : (RuntimeHostOutput.commandResult (commandExecutionToRecord execution)).Carried ↔
      (@Work.command definition workspace stdoutChunks stderrChunks close).OutputFits := by
    simp only [RuntimeHostOutput.Carried, assertRuntimeHostOutput_command,
      assertSerializedCommandExecution_ok, commandResult_bytes, counts, stdout, stderr,
      Work.OutputFits]
    rw [and_comm]
    refine and_congr_left fun safe => ?_
    rw [report safe]
  rw [form, List.forall_mem_cons, List.forall_mem_cons, and_iff_right events.1,
    and_iff_right events.2, List.forall_mem_singleton, result]

theorem runtimeOutputs_carried {descriptor : RuntimeDescriptor} {request : ExecutionRequest}
    {events : List RuntimeEvent} {result : ExecutionResult}
    (admitted : (@Work.runtime descriptor request events result).Admitted) :
    ∀ output ∈ outputs (@Work.runtime descriptor request events result), output.Carried := by
  intro output member
  rcases List.mem_append.mp member with observed | last
  · obtain ⟨event, listed, rfl⟩ := List.mem_map.mp observed
    exact ⟨admitted.1 event listed, event_frame (admitted.1 event listed)⟩
  · rw [List.mem_singleton.mp last]
    exact ⟨assertRuntimeHostOutput_runtime.mpr admitted.2, runtimeResult_frame admitted.2⟩

theorem assertPrepareExecution_ok {hash : Hash} {prepare : PrepareExecution}
    (accepted : assertPrepareExecution hash prepare = .ok ()) :
    assertExecutionPlanRef prepare.plan = .ok () ∧
      Json.byteLength prepare.toJson ≤ executionLaunchFrameMaxBytes := by
  simp only [assertPrepareExecution, bind_ok, require_ok, decide_eq_true_iff] at accepted
  obtain ⟨_, valid, _, _, _, _, _, _, bytes⟩ := accepted
  exact ⟨valid, bytes⟩

/-- The protocol carries an admitted execution exactly when its launch frame fits and, if it
is a command, what is kept of its output fits a result frame in base64. -/
theorem frameCapacity_iff {hash : Hash} {prepare : PrepareExecution}
    (accepted : assertPrepareExecution hash prepare = .ok ()) (runtimeHost : RuntimeHostCommand)
    (work : Work prepare.input) (admitted : work.Admitted) (terminationRequested : Bool) :
    FrameCapacity prepare runtimeHost work terminationRequested ↔
      Json.byteLength prepare.toJson + Json.byteLength runtimeHost.toJson + 81 ≤
          executionLaunchFrameMaxBytes ∧
        work.OutputFits := by
  obtain ⟨valid, bytes⟩ := assertPrepareExecution_ok accepted
  have launched := supervisorLaunch_bytes prepare runtimeHost
  obtain ⟨plan, coordinator, input⟩ := prepare
  constructor
  · intro capacity
    have launch := encodeFrame_ok.mp capacity.launch
    refine ⟨by rwa [← launched], ?_⟩
    cases work with
    | runtime events result => trivial
    | command stdoutChunks stderrChunks close =>
      by_contra unfit
      have refused := mt (commandOutputs_carried _ stdoutChunks stderrChunks close).mp unfit
      obtain ⟨record, queue, settled, confirmed, _⟩ := capacity.settled _ rfl
      rw [runExecutionRuntimeHost_refused refused] at settled
      rw [settleExecution_failed settled] at confirmed
      cases confirmed
  · rintro ⟨launch, fits⟩
    have carried : ∀ output ∈ outputs work, output.Carried := by
      cases work with
      | runtime events result => exact runtimeOutputs_carried admitted
      | command stdoutChunks stderrChunks close =>
        exact (commandOutputs_carried _ stdoutChunks stderrChunks close).mpr fits
    refine
      { launch := encodeFrame_ok.mpr (by rwa [← launched] at launch)
        input := encodeFrame_ok.mpr bytes
        outputs := fun output member => output.encodeFrame_ok.mpr (carried output member).2
        settled := ?_ }
    rintro execution executed
    rw [runExecutionRuntimeHost_carried carried]
    cases work with
    | runtime events result => cases executed
    | command stdoutChunks stderrChunks close =>
      obtain rfl := Option.some.inj executed
      exact settleExecution_command valid rfl fun output member => (carried output member).1

namespace CommandSample

def digest : String := "sha256:e3b0c44298fc1c149afbf4c8996fb92427ae41e4649b934ca495991b7852b855"

theorem digest_valid : Text.digest digest = true := by
  rw [Text.digest, digest, String.toList_ofList]
  decide

def hash : Hash where
  digestBytes _ := digest
  wellFormed _ := digest_valid

/-- A command that may write as much as is admitted. -/
def command : CommandDefinition := ⟨["make"], ".", 60000, 16777216⟩

def workspace : WorkspaceRef := .readonly "w" "/" "/" "c"

def launchInput : LaunchInput := .command command workspace

def prepare : PrepareExecution where
  plan :=
    { runId := "run"
      executionId := "00000000-0000-4000-8000-000000000000"
      kind := .command
      generation := 1
      planDigest := digest }
  coordinator := ⟨digest, digest, 1, "start"⟩
  input := launchInput

def runtimeHost : RuntimeHostCommand := ⟨"node", []⟩

/-- A normal exit. -/
def close : ChildClose where
  exitCode := some 0
  signal := none
  failedToStart := false
  cancelled := false
  timedOut := false
  durationMs := .ofNat 5
  exitStatus := by
    rintro code ⟨⟩
    decide
  named := by
    rintro name ⟨⟩
  timeoutCancels := by
    rintro ⟨⟩
  elapsed := by
    refine ⟨⟨?_, ?_⟩, ?_⟩ <;> decide

/-- A command that writes this to its standard output. -/
def work (stdout : List UInt8) : Work prepare.input := .command [stdout] [] close

theorem text_bytes {key text : List Char} (short : key.length + text.length ≤ 120) :
    Json.memberLength (String.ofList key, .string (String.ofList text)) ≤ 800 := by
  have value : Json.byteLength (.string (String.ofList text)) ≤ 2 + 6 * text.length :=
    Json.byteLength_ofList_le (Nat.le_refl _)
  apply Json.memberLength_ofList_le
  omega

theorem nat_bytes {key : List Char} {n : Nat} (short : key.length ≤ 120)
    (safe : nonnegative n = true) : Json.memberLength (String.ofList key, nat n) ≤ 800 := by
  have value : Json.byteLength (nat n) ≤ 16 := Json.byteLength_safe safe
  apply Json.memberLength_ofList_le
  omega

theorem argv_bytes {key text : List Char} (short : key.length + text.length ≤ 120) :
    Json.memberLength (String.ofList key, strings [String.ofList text]) ≤ 800 := by
  have value : Json.byteLength (.string (String.ofList text)) ≤ 2 + 6 * text.length :=
    Json.byteLength_ofList_le (Nat.le_refl _)
  apply Json.memberLength_ofList_le
  simp only [strings, List.map_cons, List.map_nil, Json.byteLength_array, List.sum_cons,
    List.sum_nil, List.length_cons, List.length_nil]
  omega

theorem object_bytes {key : List Char} {value : JsonValue} (short : key.length ≤ 20)
    (bound : Json.byteLength value ≤ 6000) : Json.memberLength (String.ofList key, value) ≤ 6200 := by
  apply Json.memberLength_ofList_le
  omega

theorem plan_bytes : Json.byteLength prepare.plan.toJson ≤ 6000 := by
  refine Nat.le_trans (Json.byteLength_object_le (n := 800) ?_) (by decide)
  simp only [ExecutionPlanRef.fields, List.forall_mem_cons]
  refine ⟨?_, ?_, ?_, ?_, nat_bytes (by decide) (by decide), ?_, List.forall_mem_nil _⟩
  all_goals
    apply text_bytes
    decide

theorem coordinator_bytes : Json.byteLength prepare.coordinator.toJson ≤ 6000 := by
  refine Nat.le_trans (Json.byteLength_object_le (n := 800) ?_) (by decide)
  simp only [List.forall_mem_cons]
  refine ⟨?_, ?_, ?_, nat_bytes (by decide) (by decide), ?_, List.forall_mem_nil _⟩
  all_goals
    apply text_bytes
    decide

theorem command_bytes : Json.byteLength command.toJson ≤ 6000 := by
  refine Nat.le_trans (Json.byteLength_object_le (n := 800) ?_) (by decide)
  simp only [List.forall_mem_cons]
  exact ⟨argv_bytes (by decide), text_bytes (by decide), nat_bytes (by decide) (by decide),
    nat_bytes (by decide) (by decide), List.forall_mem_nil _⟩

theorem workspace_bytes : Json.byteLength workspace.toJson ≤ 6000 := by
  refine Nat.le_trans (Json.byteLength_object_le (n := 800) ?_) (by decide)
  simp only [List.forall_mem_cons]
  refine ⟨?_, ?_, ?_, ?_, ?_, List.forall_mem_nil _⟩
  all_goals
    apply text_bytes
    decide

theorem prepare_bytes : Json.byteLength prepare.toJson ≤ 28000 := by
  refine Nat.le_trans (Json.byteLength_object_le (n := 6200) ?_) (by decide)
  simp only [List.forall_mem_append, List.forall_mem_cons]
  exact ⟨⟨object_bytes (by decide) plan_bytes, object_bytes (by decide) coordinator_bytes,
      List.forall_mem_nil _⟩,
    List.forall_mem_cons.mpr ⟨object_bytes (by decide) command_bytes,
      List.forall_mem_singleton.mpr (object_bytes (by decide) workspace_bytes)⟩⟩

theorem runtimeHost_bytes : Json.byteLength runtimeHost.toJson ≤ 28000 := by
  refine Nat.le_trans (Json.byteLength_object_le (n := 800) ?_) (by decide)
  simp only [List.forall_mem_cons]
  exact ⟨text_bytes (by decide), Json.memberLength_ofList_le (by decide), List.forall_mem_nil _⟩

theorem prepare_accepted : assertPrepareExecution hash prepare = .ok () := by
  have plan : assertExecutionPlanRef prepare.plan = .ok () := by
    have identified : Text.identifier prepare.plan.runId = true := by
      rw [Text.identifier, Text.nodeName, prepare, String.toList_ofList]
      decide
    have uuid : Text.uuid prepare.plan.executionId = true := by
      rw [Text.uuid, prepare, String.toList_ofList]
      decide
    simp only [assertExecutionPlanRef, require_ok, Bool.and_eq_true]
    exact ⟨⟨⟨identified, uuid⟩, by decide⟩, digest_valid⟩
  have coordinator : assertLocalProcessIdentity prepare.coordinator = .ok () := by
    simp only [assertLocalProcessIdentity, LocalProcessIdentity.valid, require_ok,
      Bool.and_eq_true]
    exact ⟨⟨⟨⟨⟨digest_valid, digest_valid⟩, by decide⟩, by decide⟩, by decide⟩, by decide⟩
  have input : assertLaunchInput prepare.plan prepare.input = .ok () := by decide
  have bytes : Json.byteLength prepare.toJson ≤ 4 * 1024 * 1024 :=
    Nat.le_trans prepare_bytes (by decide)
  simp only [assertPrepareExecution, bind_ok, require_ok, decide_eq_true_iff]
  exact ⟨(), plan, (), coordinator, (), input, (), beq_self_eq_true _, bytes⟩

end CommandSample

theorem frameCapacity_small : FrameCapacity CommandSample.prepare CommandSample.runtimeHost
    (CommandSample.work [104, 105]) false := by
  have launch := Nat.add_le_add CommandSample.prepare_bytes CommandSample.runtimeHost_bytes
  exact (frameCapacity_iff CommandSample.prepare_accepted CommandSample.runtimeHost (CommandSample.work [104, 105])
    trivial false).mpr
      ⟨Nat.le_trans (Nat.add_le_add_right launch 81) (by decide), by decide +kernel, by decide,
        by decide⟩

theorem executeCommand_long {definition : CommandDefinition} {close : ChildClose} {n : Nat}
    (admitted : n ≤ definition.maxOutputBytes) :
    n ≤ (executeCommand definition [List.replicate n 0] [] close).stdout.length := by
  rw [executeCommand_stdout, List.map_singleton, List.sum_singleton, List.length_replicate]
  exact Nat.le_min.mpr ⟨admitted, Nat.le_refl n⟩

theorem commandResult_exceeded {execution : CommandExecution}
    (long : 3145728 ≤ execution.stdout.length) :
    ¬ Json.byteLength (RuntimeHostOutput.commandResult
      (commandExecutionToRecord execution)).toJson ≤ executionLaunchFrameMaxBytes := by
  have some : 1 ≤ reportBytes execution := by
    rw [reportBytes, RuntimeHostOutput.toJson, Json.byteLength_object]
    omega
  rw [commandResult_bytes, executionLaunchFrameMaxBytes]
  omega

/-- Three megabytes of output are admitted and fit no result frame. -/
theorem frameCapacity_exceeded : assertPrepareExecution CommandSample.hash CommandSample.prepare = .ok () ∧
    ¬ FrameCapacity CommandSample.prepare CommandSample.runtimeHost
      (CommandSample.work (List.replicate 3145728 0)) false := by
  refine ⟨CommandSample.prepare_accepted, fun capacity => ?_⟩
  have carried := capacity.outputs _ (.tail _ (.tail _ (.head _)))
  rw [RuntimeHostOutput.encodeFrame_ok] at carried
  exact commandResult_exceeded (executeCommand_long (by decide)) carried

end Anastom
