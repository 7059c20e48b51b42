import Anastom.Adapters.NativeTurn
import Anastom.Data.Doubles

/-! The native turn of Claude Code. The frames end with the result: one that follows it fails
the stream, so the report is the result's own. -/
namespace Anastom
open JsValue (ofString)

def claudeCodeVersion : String := "2.1.268"

inductive ClaudeFrame where
  | init
  | assistant
  | result
  | other
  deriving DecidableEq, Repr

/-- The kind of a frame, from its type and its subtype. -/
def claudeFrame (type : JsString) (subtype : Option JsString) : ClaudeFrame :=
  if type = ofString "system" ∧ subtype = some (ofString "init") then .init
  else if type = ofString "assistant" then .assistant
  else if type = ofString "result" then .result
  else .other

/-- An allowlist of native identity, generic tool lifecycle, final report and usage. -/
structure ClaudeNativeTurn where
  initialized : Bool := false
  completed : Bool := false
  nativeFailed : Bool := false
  report : Option JsValue := none
  usage : Option RuntimeUsage := none
  observations : List RuntimeEvent := []
  deriving Repr

namespace ClaudeNativeTurn

/-- `Array.prototype.some` passes over holes. -/
def permittedTool (permitted : List JsString) : JsValue → Bool
  | .hole => true
  | .string name => permitted.contains name
  | _ => false

/-- Whether an initialization shows the selected model and no more than the permitted tools. -/
def permittedIdentity (model : String) (allowedTools : List String) (frame : JsValue) : Bool :=
  frame.textField "claude_code_version" = some (ofString claudeCodeVersion) &&
  frame.textField "model" = some (ofString model) &&
  ((frame.arrayField "tools").any fun tools =>
    tools.all (permittedTool ((allowedTools ++ ["StructuredOutput"]).map ofString))) &&
  (frame.arrayField "mcp_servers").any List.isEmpty &&
  (frame.arrayField "plugins").any List.isEmpty

def observeInit (model : String) (allowedTools : List String) (turn : ClaudeNativeTurn)
    (frame : JsValue) : Except Failure ClaudeNativeTurn := do
  require (!(turn.initialized || turn.completed))
    (.error "Duplicate Claude Code native initialization")
  require (permittedIdentity model allowedTools frame)
    (.error "Claude Code native identity or tool isolation differs from the selected profile")
  pure { turn with
    initialized := true
    observations := turn.observations ++
      [.metadata ⟨"anthropic", model, some .reported, some claudeCodeVersion⟩] }

/-- Only tool names cross: a block that invokes an allowed tool is logged without its body. -/
def observeBlock (allowedTools : List String) (block : JsValue) : Option RuntimeEvent :=
  if block.textField "type" = some (ofString "tool_use") ∧
      (block.textField "name").any (allowedTools.map ofString).contains then
    some (.log "Claude Code file tool invoked" none)
  else none

def observeAssistant (allowedTools : List String) (turn : ClaudeNativeTurn) (frame : JsValue) :
    ClaudeNativeTurn :=
  { turn with
    observations := turn.observations ++
      (((frame.recordField "message").arrayField "content").getD []).filterMap
        (observeBlock allowedTools) }

/-- The result-level usage of the main loop; the input counts its cached parts. -/
def mapUsage (native : JsValue) : RuntimeUsage :=
  let uncached := positiveCounter (native.numberField "input_tokens")
  let read := positiveCounter (native.numberField "cache_read_input_tokens")
  let write := positiveCounter (native.numberField "cache_creation_input_tokens")
  let inclusive := ([uncached, read, write].filterMap id).foldl Doubles.add 0
  { partialUsage with
    inputTokens := if 1 ≤ inclusive ∧ inclusive ≤ maxSafeInteger then some inclusive else none
    outputTokens := positiveCounter (native.numberField "output_tokens")
    cacheReadTokens := read
    cacheWriteTokens := write }

/-- `frame.subtype !== "success" || frame.is_error === true` -/
def resultFailed (frame : JsValue) : Bool :=
  frame.textField "subtype" != some (ofString "success") ||
    (frame.get? "is_error").any JsValue.isTrue

def observeResult (turn : ClaudeNativeTurn) (frame : JsValue) :
    Except Failure ClaudeNativeTurn := do
  require (turn.initialized && !turn.completed)
    (.error "Malformed Claude Code native completion order")
  if resultFailed frame then pure { turn with completed := true, nativeFailed := true }
  else pure { turn with
    completed := true
    report := frame.get? "structured_output"
    usage := some (mapUsage (frame.recordField "usage")) }

def observeFrame (model : String) (allowedTools : List String) (turn : ClaudeNativeTurn)
    (frame : JsValue) : ClaudeFrame → Except Failure ClaudeNativeTurn
  | .init => turn.observeInit model allowedTools frame
  | .assistant => do
    require turn.initialized
      (.error "Claude Code native assistant frame preceded initialization")
    pure (turn.observeAssistant allowedTools frame)
  | .result => turn.observeResult frame
  | .other => pure turn

/-- Consume one JSONL frame and discard everything except approved public fields. -/
def observe (model : String) (allowedTools : List String) (turn : ClaudeNativeTurn)
    (frame : JsValue) : Except Failure ClaudeNativeTurn := do
  let type ← requireSome (frame.textField "type")
    (.error "Malformed Claude Code native JSONL frame")
  require (!turn.completed)
    (.error "Claude Code native JSONL event followed the terminal result")
  turn.observeFrame model allowedTools frame (claudeFrame type (frame.textField "subtype"))

def observeAll (model : String) (allowedTools : List String) (frames : List JsValue) :
    ClaudeNativeTurn × Option Failure :=
  Watch.run (observe model allowedTools) {} frames

def acceptReport (valid : JsonValue → JsValue → Bool) (schema : JsonValue)
    (report : Option JsValue) : Option JsValue :=
  report.filter (valid schema)

/-- Require native completion and an engine-compatible report. -/
def result (valid : JsonValue → JsValue → Bool) (turn : ClaudeNativeTurn)
    (request : ExecutionRequest) (exitCode : Option Int) : NativeResult :=
  if turn.nativeFailed || exitCode != some 0 then
    .failed ⟨.modelProvider,
      "Claude Code model execution failed; check the selected auth source, provider and model"⟩
  else if !turn.initialized || !turn.completed then
    .failed ⟨.runtimeUnavailable, "Claude Code exited before a completed native result"⟩
  else
    match acceptReport valid request.requiredOutputSchema turn.report with
    | some output => .succeeded output
    | none => .failed ⟨.schemaViolation,
        "Claude Code final StructuredOutput must match the required report schema"⟩

def finalUsage (turn : ClaudeNativeTurn) : RuntimeUsage := turn.usage.getD partialUsage

/-- The output that a stream with this exit code is reported to succeed with. -/
def succeeds (valid : JsonValue → JsValue → Bool) (model : String) (allowedTools : List String)
    (request : ExecutionRequest) (frames : List JsValue) (exitCode : Option Int) :
    Option JsValue :=
  match observeAll model allowedTools frames with
  | (turn, none) => (turn.result valid request exitCode).output?
  | (_, some _) => none

def kind (frame : JsValue) : Option ClaudeFrame :=
  (frame.textField "type").map (claudeFrame · (frame.textField "subtype"))

/-- The frames that start and end a turn, a result with whether it reports a failure. -/
def lifecycle? (frame : JsValue) : Option (ClaudeFrame × Bool) :=
  match kind frame with
  | some .init => some (.init, false)
  | some .result => some (.result, resultFailed frame)
  | _ => none

/-- A turn that started and ended with a result that reports no failure. -/
def cleanTurn : List (ClaudeFrame × Bool) := [(.init, false), (.result, false)]

/-- The claim that a success makes about the frames it rests on. -/
structure Evidence (valid : JsonValue → JsValue → Bool) (schema : JsonValue)
    (frames : List JsValue) (exitCode : Option Int) (output : JsValue) : Prop where
  lifecycle : frames.filterMap lifecycle? = cleanTurn
  exited : exitCode = some 0
  report : ∃ result ∈ frames, kind result = some .result ∧
    acceptReport valid schema (result.get? "structured_output") = some output

/-- A success rests on the turn alone: its lifecycle, its report and its exit code, and the
frames after the completion have no part in it. -/
def OnItsEvidence (valid : JsonValue → JsValue → Bool) (model : String)
    (allowedTools : List String) (request : ExecutionRequest) (frames : List JsValue)
    (exitCode : Option Int) : Prop :=
  ∀ output, succeeds valid model allowedTools request frames exitCode = some output →
    Evidence valid request.requiredOutputSchema frames exitCode output ∧
    ∀ before completion after, frames = before ++ completion :: after →
      kind completion = some .result →
      succeeds valid model allowedTools request (before ++ [completion]) exitCode = some output

variable {valid : JsonValue → JsValue → Bool} {model : String} {allowedTools : List String}
  {request : ExecutionRequest} {turn next last : ClaudeNativeTurn} {frame : JsValue}
  {frames : List JsValue} {exitCode : Option Int} {output : JsValue}

theorem lifecycle?_of_kind {k : ClaudeFrame} (known : kind frame = some k)
    (other : k = .assistant ∨ k = .other) : lifecycle? frame = none := by
  rw [lifecycle?, known]
  rcases other with rfl | rfl <;> rfl

theorem observe_ok (observed : observe model allowedTools turn frame = .ok next) :
    turn.completed = false ∧ ∃ k, kind frame = some k ∧
      turn.observeFrame model allowedTools frame k = .ok next := by
  obtain ⟨type, typed, observed⟩ := requireSome_bind_ok.mp observed
  obtain ⟨open_, observed⟩ := require_bind_ok.mp observed
  refine ⟨by simpa using open_, _, ?_, observed⟩
  rw [kind, typed]
  rfl

/-- What the frames read so far say of a turn: it is open with nothing reported, or the last
of them is the result that completed it. -/
structure Traced (turn : ClaudeNativeTurn) (frames : List JsValue) : Prop where
  started : turn.completed = false →
    frames.filterMap lifecycle? = if turn.initialized then [(.init, false)] else []
  unreported : turn.completed = false → turn.nativeFailed = false ∧ turn.report = none
  ended : turn.completed = true → ∃ before result, frames = before ++ [result] ∧
    before.filterMap lifecycle? = [(.init, false)] ∧ kind result = some .result ∧
    turn.nativeFailed = resultFailed result ∧
    (turn.nativeFailed = false → turn.report = result.get? "structured_output")

theorem traced_fresh : Traced {} [] := ⟨fun _ => rfl, fun _ => ⟨rfl, rfl⟩, by rintro ⟨⟩⟩

theorem Traced.observe (traced : Traced turn frames)
    (observed : observe model allowedTools turn frame = .ok next) :
    Traced next (frames ++ [frame]) := by
  obtain ⟨open_, k, known, observed⟩ := observe_ok observed
  have started := traced.started open_
  obtain ⟨unfailed, unreported⟩ := traced.unreported open_
  cases k with
  | init =>
    obtain ⟨fresh, observed⟩ := require_bind_ok.mp observed
    obtain ⟨_, observed⟩ := require_bind_ok.mp observed
    cases observed
    have idle : turn.initialized = false := by
      rw [open_, Bool.or_false] at fresh
      simpa using fresh
    rw [idle] at started
    refine ⟨fun _ => ?_, fun _ => ⟨unfailed, unreported⟩, fun completed => ?_⟩
    · rw [List.filterMap_append, started, filterMap_cons_toList, lifecycle?, known]
      rfl
    · exact absurd (open_.symm.trans completed) (by decide)
  | assistant =>
    obtain ⟨_, observed⟩ := require_bind_ok.mp observed
    cases observed
    refine ⟨fun _ => ?_, fun _ => ⟨unfailed, unreported⟩, fun completed => ?_⟩
    · rw [List.filterMap_append, filterMap_cons_toList,
        lifecycle?_of_kind known (.inl rfl), started]
      exact List.append_nil _
    · exact absurd (open_.symm.trans completed) (by decide)
  | result =>
    obtain ⟨due, observed⟩ := require_bind_ok.mp observed
    have initialized : turn.initialized = true := (Bool.and_eq_true_iff.mp due).1
    rw [initialized] at started
    split at observed
    case isTrue failed =>
      cases observed
      refine ⟨by rintro ⟨⟩, by rintro ⟨⟩, fun _ => ?_⟩
      exact ⟨frames, frame, rfl, started, known, failed.symm, by rintro ⟨⟩⟩
    case isFalse succeeded =>
      cases observed
      refine ⟨by rintro ⟨⟩, by rintro ⟨⟩, fun _ => ?_⟩
      refine ⟨frames, frame, rfl, started, known, ?_, fun _ => rfl⟩
      rw [Bool.not_eq_true] at succeeded
      exact unfailed.trans succeeded.symm
  | other =>
    cases observed
    refine ⟨fun _ => ?_, fun _ => ⟨unfailed, unreported⟩, fun completed => ?_⟩
    · rw [List.filterMap_append, filterMap_cons_toList,
        lifecycle?_of_kind known (.inr rfl), started]
      exact List.append_nil _
    · exact absurd (open_.symm.trans completed) (by decide)

theorem traced_run (ran : observeAll model allowedTools frames = (last, none)) :
    Traced last frames := by
  have traced : Traced last ([] ++ frames) :=
    Watch.run_history Traced (fun _ _ _ _ traced observed => traced.observe observed)
      traced_fresh ran
  exact traced

theorem result_succeeded : turn.result valid request exitCode = .succeeded output ↔
    (turn.initialized = true ∧ turn.completed = true) ∧ turn.nativeFailed = false ∧
      exitCode = some 0 ∧
      acceptReport valid request.requiredOutputSchema turn.report = some output := by
  rw [result]
  cases turn.nativeFailed <;> cases turn.initialized <;> cases turn.completed <;>
    by_cases exited : exitCode = some 0 <;> simp [exited]
  cases acceptReport valid request.requiredOutputSchema turn.report <;> simp

theorem succeeds_some :
    succeeds valid model allowedTools request frames exitCode = some output ↔
      ∃ last, observeAll model allowedTools frames = (last, none) ∧
        last.result valid request exitCode = .succeeded output := by
  rw [succeeds]
  constructor
  · intro succeeded
    split at succeeded
    case h_1 last ran => exact ⟨last, ran, NativeResult.output?_some.mp succeeded⟩
    case h_2 => cases succeeded
  · rintro ⟨last, ran, accepted⟩
    rw [ran]
    exact NativeResult.output?_some.mpr accepted

/-- A completion is the last frame of a stream that is read to its end. -/
theorem ends_with_completion {before after : List JsValue} {completion : JsValue}
    (ran : observeAll model allowedTools (before ++ completion :: after) = (last, none))
    (completed : kind completion = some .result) : after = [] := by
  obtain ⟨mid, _, ran⟩ := Watch.run_append.mp ran
  obtain ⟨done, observed, ran⟩ := Watch.run_cons ran
  have closed : done.completed = true := by
    obtain ⟨_, k, known, observed⟩ := observe_ok observed
    obtain rfl : k = .result := Option.some.inj (known.symm.trans completed)
    obtain ⟨_, observed⟩ := require_bind_ok.mp observed
    split at observed <;> (cases observed; rfl)
  cases after with
  | nil => rfl
  | cons frame after =>
    obtain ⟨_, observed, _⟩ := Watch.run_cons ran
    exact absurd ((observe_ok observed).1.symm.trans closed) (by decide)

/-- Claude Code succeeds on its own evidence alone. -/
theorem onItsEvidence : OnItsEvidence valid model allowedTools request frames exitCode := by
  intro output succeeded
  obtain ⟨last, ran, accepted⟩ := succeeds_some.mp succeeded
  obtain ⟨⟨_, completed⟩, unfailed, exited, accepted⟩ := result_succeeded.mp accepted
  obtain ⟨before, result, rfl, started, ended, failed, reported⟩ :=
    (traced_run ran).ended completed
  have succeeding : lifecycle? result = some (.result, false) := by
    rw [lifecycle?, ended, ← failed, unfailed]
  constructor
  · refine ⟨?_, exited, result, by simp, ended, ?_⟩
    · rw [List.filterMap_append, started, filterMap_cons_toList, succeeding]
      rfl
    · rw [← reported unfailed]
      exact accepted
  · rintro first completion after whole done
    rw [whole] at ran succeeded
    rw [ends_with_completion ran done] at succeeded
    exact succeeded

end ClaudeNativeTurn

/-- A native turn succeeds on its own evidence: always for Claude Code, and for Codex exactly
where no agent message outside the turn takes the place of the turn's report. -/
theorem nativeTurn_evidence (parse : JsString → Option JsValue)
    (valid : JsonValue → JsValue → Bool) (model : String) (allowedTools : List String)
    (request : ExecutionRequest) (frames : List JsValue) (exitCode : Option Int) :
    (NativeTurn.OnItsEvidence parse valid request frames exitCode ↔
      NativeTurn.ReportedInTurn parse valid request.requiredOutputSchema frames exitCode) ∧
    ClaudeNativeTurn.OnItsEvidence valid model allowedTools request frames exitCode :=
  ⟨NativeTurn.onItsEvidence_iff, ClaudeNativeTurn.onItsEvidence⟩

/-- A read-only request whose report may be any JSON value. -/
def openRequest : ExecutionRequest where
  runId := "run"
  workflowInstanceId := "instance"
  nodeId := "review"
  nodeKind := .agent
  attempt := 1
  role := none
  workspace := .memory "memory"
  context :=
    { runId := "run", workflowInstanceId := "instance", nodeId := "review", attempt := 1,
      inputs := [], dependencyOutputs := [], task := none, role := none,
      workspace := .memory "memory", allowedMutations := .readonly, artifacts := [],
      verification := none, requiredOutputSchema := .object [], budget := ⟨1, none⟩ }
  budget := ⟨1, none⟩
  requiredOutputSchema := .object []
  allowMutations := false

def completedMessage (text : String) : JsValue :=
  .ofJson (.object [("type", .string "item.completed"),
    ("item", .object [("type", .string "agent_message"), ("text", .string text)])])

/-- A turn that reports 1, with an agent message after its completion that says 2. -/
def lateMessage : List JsValue :=
  [.ofJson (.object [("type", .string "thread.started")]),
    .ofJson (.object [("type", .string "turn.started")]), completedMessage "1",
    .ofJson (.object [("type", .string "turn.completed")]), completedMessage "2"]

/-- `JSON.parse` of an ASCII text. -/
def parseAscii (text : JsString) : Option JsValue :=
  JsValue.parse (text.map fun unit => Char.ofNat unit.val)

theorem lateMessage_checked :
    (NativeTurn.succeeds parseAscii (fun _ _ => true) openRequest lateMessage (some 0)).map
      JsValue.canonicalJson = some (.ok ['2']) ∧
    (NativeTurn.acceptReport parseAscii (fun _ _ => true) openRequest.requiredOutputSchema
      (NativeTurn.lastMessage (NativeTurn.inTurn lateMessage))).map
      JsValue.canonicalJson = some (.ok ['1']) := by
  decide +kernel

/-- Codex reports the message that came after the completion of the turn. -/
theorem lateMessage_reported :
    (∃ output, NativeTurn.succeeds parseAscii (fun _ _ => true) openRequest lateMessage (some 0) =
      some output ∧ output.canonicalJson = .ok ['2']) ∧
    ¬ NativeTurn.OnItsEvidence parseAscii (fun _ _ => true) openRequest lateMessage (some 0) := by
  obtain ⟨late, inTurn⟩ := lateMessage_checked
  obtain ⟨output, reported, text⟩ := Option.map_eq_some_iff.mp late
  refine ⟨⟨output, reported, text⟩, fun onEvidence => ?_⟩
  have evidence := (onEvidence output reported).1.report
  rw [evidence, Option.map_some, text] at inTurn
  exact absurd inTurn (by decide)

end Anastom
