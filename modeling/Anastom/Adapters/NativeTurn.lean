import Anastom.Data.Watch
import Anastom.Engine.JsValueRoundTrip
import Anastom.Engine.Scheduling
import Anastom.ExecutionHost.Records

/-! The native turn of Codex: which lifecycle frames it accepts, what it shows of them, and
the report it takes. The report is the last agent message of the whole stream, so a message
outside the turn takes the place of the one that the turn ended with. -/
namespace Anastom

namespace JsValue

/-- A property of a record; `undefined` is read as a property that is missing. -/
def get? (value : JsValue) (key : String) : Option JsValue :=
  match value with
  | .object _ fields =>
    match fields.lookup (ofString key) with
    | some .undefined => none
    | property => property
  | _ => none

def text? : JsValue → Option JsString
  | .string text => some text
  | _ => none

def number? : JsValue → Option JsonNumber
  | .number value => some value
  | _ => none

/-- `Array.isArray(value) ? value : undefined` -/
def items? : JsValue → Option (List JsValue)
  | .array items => some items
  | _ => none

def isTrue : JsValue → Bool
  | .bool value => value
  | _ => false

/-- A property that is a string. -/
def textField (frame : JsValue) (key : String) : Option JsString := (frame.get? key).bind text?

/-- A property that is a number. -/
def numberField (frame : JsValue) (key : String) : Option JsonNumber :=
  (frame.get? key).bind number?

/-- A property that is an array. -/
def arrayField (frame : JsValue) (key : String) : Option (List JsValue) :=
  (frame.get? key).bind items?

/-- A property that is a record; what is read of anything else is `undefined`. -/
def recordField (frame : JsValue) (key : String) : JsValue := (frame.get? key).getD .undefined

end JsValue
open JsValue (ofString)

/-- `typeof value === "number" && Number.isSafeInteger(value) && value > 0 ? value : undefined` -/
def positiveCounter (value : Option JsonNumber) : Option Nat := do
  let n ← (← value).toInt?
  if 1 ≤ n ∧ n ≤ maxSafeInteger then some n.toNat else none

/-- `{ type: "usage", scope: "attempt", coverage: "partial" }` -/
def partialUsage : RuntimeUsage := ⟨.partialCoverage, none, none, none, none, none, none⟩

/-- The result that a native turn comes to. -/
inductive NativeResult where
  | succeeded (output : JsValue)
  | failed (failure : ExecutionFailure)
  deriving Repr

def NativeResult.output? : NativeResult → Option JsValue
  | .succeeded output => some output
  | .failed _ => none

theorem NativeResult.output?_some {result : NativeResult} {output : JsValue} :
    result.output? = some output ↔ result = .succeeded output := by
  cases result <;> simp [output?]

theorem filterMap_cons_toList {α β : Type} (f : α → Option β) (a : α) (rest : List α) :
    (a :: rest).filterMap f = (f a).toList ++ rest.filterMap f := by
  rw [List.filterMap_cons]
  cases f a <;> rfl

/-- The frames that the lifecycle of a turn tells apart. -/
inductive NativeFrame where
  | threadStarted
  | turnStarted
  | itemUpdated
  | item (completed : Bool)
  | turnCompleted
  | turnFailed
  | error
  | other
  deriving DecidableEq, Repr

def nativeFrame (type : JsString) : NativeFrame :=
  if type = ofString "thread.started" then .threadStarted
  else if type = ofString "turn.started" then .turnStarted
  else if type = ofString "item.updated" then .itemUpdated
  else if type = ofString "item.started" then .item false
  else if type = ofString "item.completed" then .item true
  else if type = ofString "turn.completed" then .turnCompleted
  else if type = ofString "turn.failed" then .turnFailed
  else if type = ofString "error" then .error
  else .other

def toolKind (nativeType : JsString) : String :=
  if nativeType = ofString "command_execution" then "command"
  else if nativeType = ofString "file_change" then "file-change"
  else if nativeType = ofString "mcp_tool_call" then "mcp"
  else if nativeType = ofString "web_search" then "web"
  else "other"

/-- The types of the items that are shown. -/
def toolTypes : List JsString :=
  ["command_execution", "file_change", "mcp_tool_call", "web_search"].map ofString

/-- A strict allowlist of native lifecycle and final-report fields. -/
structure NativeTurn where
  started : Bool := false
  completed : Bool := false
  nativeFailed : Bool := false
  report : Option JsValue := none
  usage : Option RuntimeUsage := none
  turnStarted : Bool := false
  observations : List RuntimeEvent := []
  deriving Repr

namespace NativeTurn

def itemStatus (completed : Bool) (status : Option JsString) : String :=
  if completed then
    if status = some (ofString "failed") then "failed" else "completed"
  else "started"

def observeItem (turn : NativeTurn) (completed : Bool) (frame : JsValue) :
    Except Failure NativeTurn := do
  let item := frame.recordField "item"
  let type ← requireSome (item.textField "type") (.error "Malformed native item")
  if type = ofString "agent_message" ∧ completed then pure { turn with report := item.get? "text" }
  else if type ∈ toolTypes then
    pure { turn with
      observations := turn.observations ++
        [.log ("Codex " ++ toolKind type ++ " " ++ itemStatus completed (item.textField "status"))
          none] }
  else pure turn

/-- Emit positive counters only because this native release synthesizes unavailable zeros. -/
def mapUsage (native : JsValue) : RuntimeUsage :=
  { partialUsage with
    inputTokens := positiveCounter (native.numberField "input_tokens")
    outputTokens := positiveCounter (native.numberField "output_tokens")
    cacheReadTokens := positiveCounter (native.numberField "cached_input_tokens")
    reasoningTokens := positiveCounter (native.numberField "reasoning_output_tokens") }

def observeFrame (turn : NativeTurn) (frame : JsValue) : NativeFrame → Except Failure NativeTurn
  | .threadStarted => do
    require (!turn.started) (.error "Duplicate native lifecycle start")
    pure { turn with started := true }
  | .turnStarted => do
    require (turn.started && !turn.completed && !turn.turnStarted)
      (.error "Malformed native turn order")
    pure { turn with turnStarted := true }
  | .itemUpdated => pure turn
  | .item completed => turn.observeItem completed frame
  | .turnCompleted => do
    require (turn.started && turn.turnStarted && !turn.completed && !turn.nativeFailed)
      (.error "Malformed native completion")
    pure { turn with completed := true, usage := some (mapUsage (frame.recordField "usage")) }
  | .turnFailed => do
    require (turn.started && turn.turnStarted && !turn.completed)
      (.error "Malformed native failure")
    pure { turn with nativeFailed := true }
  | .error => pure { turn with nativeFailed := true }
  | .other => pure turn

/-- Capture one native JSONL frame. -/
def observe (turn : NativeTurn) (frame : JsValue) : Except Failure NativeTurn := do
  let type ← requireSome (frame.textField "type") (.error "Malformed native JSONL event")
  turn.observeFrame frame (nativeFrame type)

/-- What the frames of a stream leave behind, and the failure that stopped it. -/
def observeAll (frames : List JsValue) : NativeTurn × Option Failure :=
  Watch.run observe {} frames

/-- Independently parse and validate the report. -/
def acceptReport (parse : JsString → Option JsValue) (valid : JsonValue → JsValue → Bool)
    (schema : JsonValue) (report : Option JsValue) : Option JsValue := do
  let output ← parse (← (← report).text?)
  if valid schema output then some output else none

/-- Confirm native completion and accept the report after process exit and cleanup. -/
def result (parse : JsString → Option JsValue) (valid : JsonValue → JsValue → Bool)
    (turn : NativeTurn) (request : ExecutionRequest) (exitCode : Option Int) : NativeResult :=
  if turn.completed && turn.nativeFailed then
    .failed ⟨.policyViolation,
      "Codex reported conflicting native outcomes or hidden context handling"⟩
  else if turn.nativeFailed || exitCode != some 0 then
    .failed ⟨.modelProvider,
      "Codex model execution failed; check authentication, provider, model and bounded context"⟩
  else if !turn.completed then
    .failed ⟨.runtimeUnavailable, "Codex exited before a completed native turn"⟩
  else
    match acceptReport parse valid request.requiredOutputSchema turn.report with
    | some output => .succeeded output
    | none => .failed ⟨.schemaViolation,
        "Codex final report must be JSON matching the required output schema"⟩

def finalUsage (turn : NativeTurn) : RuntimeUsage := turn.usage.getD partialUsage

/-- The output that a stream with this exit code is reported to succeed with. -/
def succeeds (parse : JsString → Option JsValue) (valid : JsonValue → JsValue → Bool)
    (request : ExecutionRequest) (frames : List JsValue) (exitCode : Option Int) :
    Option JsValue :=
  match observeAll frames with
  | (turn, none) => (turn.result parse valid request exitCode).output?
  | (_, some _) => none

def kind (frame : JsValue) : Option NativeFrame := (frame.textField "type").map nativeFrame

/-- The frames that start and end a session or a turn. -/
def lifecycle? (frame : JsValue) : Option NativeFrame :=
  (kind frame).filter fun kind =>
    kind ∈ [.threadStarted, .turnStarted, .turnCompleted, .turnFailed, .error]

/-- The text of an agent message that a frame completes. -/
def agentMessage? (frame : JsValue) : Option (Option JsValue) :=
  if kind frame = some (.item true) ∧
      (frame.recordField "item").textField "type" = some (ofString "agent_message") then
    some ((frame.recordField "item").get? "text")
  else none

/-- A frame with a type, and with an item that has a type where the frame is about one. -/
def readable (frame : JsValue) : Bool :=
  match kind frame with
  | some (.item _) => ((frame.recordField "item").textField "type").isSome
  | some _ => true
  | none => false

/-- The last agent message of these frames. -/
def lastMessage (frames : List JsValue) : Option JsValue :=
  ((frames.filterMap agentMessage?).getLast?).getD none

/-- The frames between the start of the turn and its completion. -/
def inTurn (frames : List JsValue) : List JsValue :=
  (frames.takeWhile (kind · != some .turnCompleted)).dropWhile (kind · != some .turnStarted)

/-- A turn that ran to its completion without a failure. -/
def cleanTurn : List NativeFrame := [.threadStarted, .turnStarted, .turnCompleted]

/-- The lifecycle frames that a turn still needs. -/
def remaining (turn : NativeTurn) : List NativeFrame :=
  if turn.completed then []
  else if turn.turnStarted then [.turnCompleted]
  else if turn.started then [.turnStarted, .turnCompleted]
  else cleanTurn

/-- A turn starts in a session and is completed once started. -/
structure Coherent (turn : NativeTurn) : Prop where
  inSession : turn.turnStarted = true → turn.started = true
  inTurn : turn.completed = true → turn.turnStarted = true

theorem observe_kind {frame : JsValue} {k : NativeFrame} (known : kind frame = some k)
    (turn : NativeTurn) : observe turn frame = turn.observeFrame frame k := by
  obtain ⟨type, typed, rfl⟩ := Option.map_eq_some_iff.mp known
  rw [observe, typed]
  rfl

theorem observe_untyped {frame : JsValue} (unknown : kind frame = none) (turn : NativeTurn) :
    ∃ failure, observe turn frame = .error failure := by
  rw [kind, Option.map_eq_none_iff] at unknown
  rw [observe, unknown]
  exact ⟨_, rfl⟩

theorem observeItem_ok {turn next : NativeTurn} {completed : Bool} {frame : JsValue}
    (known : kind frame = some (.item completed))
    (observed : observeItem turn completed frame = .ok next) :
    readable frame = true ∧ ∃ observations, next =
      { turn with report := (agentMessage? frame).getD turn.report, observations } := by
  rw [observeItem, requireSome_bind_ok] at observed
  obtain ⟨type, typed, observed⟩ := observed
  refine ⟨by rw [readable, known]; exact Option.isSome_iff_exists.mpr ⟨type, typed⟩, ?_⟩
  have message : agentMessage? frame = if type = ofString "agent_message" ∧ completed then
      some ((frame.recordField "item").get? "text") else none := by
    rw [agentMessage?, known, typed]
    cases completed <;> simp
  rw [message]
  split at observed
  case isTrue agent =>
    cases observed
    rw [if_pos agent]
    exact ⟨turn.observations, rfl⟩
  case isFalse other =>
    rw [if_neg other]
    split at observed
    · cases observed
      exact ⟨_, rfl⟩
    · cases observed
      exact ⟨turn.observations, rfl⟩

theorem observeItem_readable (turn : NativeTurn) {completed : Bool} {frame : JsValue}
    (known : kind frame = some (.item completed)) (read : readable frame = true) :
    ∃ next, observeItem turn completed frame = .ok next := by
  rw [readable, known] at read
  obtain ⟨type, typed⟩ := Option.isSome_iff_exists.mp read
  simp only [observeItem, requireSome_bind_ok]
  by_cases agent : type = ofString "agent_message" ∧ completed
  · exact ⟨_, type, typed, if_pos agent⟩
  · by_cases tool : type ∈ toolTypes
    · exact ⟨_, type, typed, by rw [if_neg agent, if_pos tool]; rfl⟩
    · exact ⟨_, type, typed, by rw [if_neg agent, if_neg tool]; rfl⟩

theorem agentMessage?_of_kind {frame : JsValue} {k : NativeFrame} (known : kind frame = some k)
    (other : k ≠ .item true) : agentMessage? frame = none := by
  rw [agentMessage?, known, if_neg]
  rintro ⟨same, _⟩
  exact other (Option.some.inj same)

theorem readable_of_kind {frame : JsValue} {k : NativeFrame} (known : kind frame = some k)
    (other : ∀ completed, k ≠ .item completed) : readable frame = true := by
  rw [readable, known]
  cases k with
  | item completed => exact absurd rfl (other completed)
  | _ => rfl

theorem lifecycle?_of_kind {frame : JsValue} {k : NativeFrame} (known : kind frame = some k) :
    lifecycle? frame = (some k).filter fun kind =>
      kind ∈ [.threadStarted, .turnStarted, .turnCompleted, .turnFailed, .error] := by
  rw [lifecycle?, known]

/-- What a frame that does not fail the turn does to it. -/
structure Advances (turn : NativeTurn) (frame : JsValue) (next : NativeTurn) : Prop where
  coherent : Coherent next
  needs : turn.remaining = (lifecycle? frame).toList ++ next.remaining
  report : next.report = (agentMessage? frame).getD turn.report
  read : readable frame = true

variable {turn next last : NativeTurn} {frame : JsValue} {frames : List JsValue}

theorem remaining_completed (turn : NativeTurn) (completed : turn.completed = true) :
    turn.remaining = [] := by
  rw [remaining, if_pos completed]

theorem remaining_running (turn : NativeTurn) (open_ : turn.completed = false)
    (running : turn.turnStarted = true) : turn.remaining = [.turnCompleted] := by
  rw [remaining, open_, running]
  rfl

theorem remaining_idle (turn : NativeTurn) (open_ : turn.completed = false)
    (idle : turn.turnStarted = false) (started : turn.started = true) :
    turn.remaining = [.turnStarted, .turnCompleted] := by
  rw [remaining, open_, idle, started]
  rfl

theorem remaining_new (turn : NativeTurn) (open_ : turn.completed = false)
    (idle : turn.turnStarted = false) (fresh : turn.started = false) :
    turn.remaining = cleanTurn := by
  rw [remaining, open_, idle, fresh]
  rfl

theorem Coherent.fresh (coherent : Coherent turn) (fresh : turn.started = false) :
    turn.turnStarted = false ∧ turn.completed = false := by
  have idle : turn.turnStarted = false := by
    cases running : turn.turnStarted with
    | false => rfl
    | true => exact absurd (coherent.inSession running) (by rw [fresh]; decide)
  refine ⟨idle, ?_⟩
  cases completed : turn.completed with
  | false => rfl
  | true => exact absurd (coherent.inTurn completed) (by rw [idle]; decide)

theorem Coherent.idle (coherent : Coherent turn) (idle : turn.turnStarted = false) :
    turn.completed = false := by
  cases completed : turn.completed with
  | false => rfl
  | true => exact absurd (coherent.inTurn completed) (by rw [idle]; decide)

theorem observe_advances (coherent : Coherent turn) (observed : observe turn frame = .ok next)
    (unfailed : next.nativeFailed = false) : Advances turn frame next := by
  cases known : kind frame with
  | none =>
    obtain ⟨failure, failed⟩ := observe_untyped known turn
    rw [failed] at observed
    cases observed
  | some k =>
    rw [observe_kind known] at observed
    have lifecycle := lifecycle?_of_kind known
    have read := readable_of_kind known
    have message := agentMessage?_of_kind known
    cases k with
    | threadStarted =>
      rw [observeFrame, require_bind_ok] at observed
      obtain ⟨fresh, rfl⟩ := And.imp_right Except.ok.inj observed
      replace fresh : turn.started = false := by simpa using fresh
      obtain ⟨idle, open_⟩ := coherent.fresh fresh
      refine ⟨⟨fun _ => rfl, coherent.inTurn⟩, ?_, by rw [message (by decide)]; rfl,
        read (by decide)⟩
      rw [lifecycle, remaining_new turn open_ idle fresh,
        remaining_idle { turn with started := true } open_ idle rfl]
      rfl
    | turnStarted =>
      rw [observeFrame, require_bind_ok] at observed
      obtain ⟨due, rfl⟩ := And.imp_right Except.ok.inj observed
      simp only [Bool.and_eq_true, Bool.not_eq_true'] at due
      obtain ⟨⟨started, open_⟩, idle⟩ := due
      refine ⟨⟨fun _ => started, fun _ => rfl⟩, ?_, by rw [message (by decide)]; rfl,
        read (by decide)⟩
      rw [lifecycle, remaining_idle turn open_ idle started,
        remaining_running { turn with turnStarted := true } open_ rfl]
      rfl
    | itemUpdated =>
      cases observed
      exact ⟨coherent, by rw [lifecycle]; rfl, by rw [message (by decide)]; rfl,
        read (by decide)⟩
    | item completed =>
      obtain ⟨read, observations, rfl⟩ := observeItem_ok known observed
      exact ⟨⟨coherent.inSession, coherent.inTurn⟩, by rw [lifecycle]; rfl, rfl, read⟩
    | turnCompleted =>
      rw [observeFrame, require_bind_ok] at observed
      obtain ⟨due, rfl⟩ := And.imp_right Except.ok.inj observed
      simp only [Bool.and_eq_true, Bool.not_eq_true'] at due
      obtain ⟨⟨⟨started, running⟩, open_⟩, _⟩ := due
      refine ⟨⟨coherent.inSession, fun _ => running⟩, ?_, by rw [message (by decide)]; rfl,
        read (by decide)⟩
      rw [lifecycle, remaining_running turn open_ running, remaining_completed _ rfl]
      rfl
    | turnFailed =>
      rw [observeFrame, require_bind_ok] at observed
      obtain ⟨_, rfl⟩ := And.imp_right Except.ok.inj observed
      cases unfailed
    | error =>
      cases observed
      cases unfailed
    | other =>
      cases observed
      exact ⟨coherent, by rw [lifecycle]; rfl, by rw [message (by decide)]; rfl,
        read (by decide)⟩

/-- The lifecycle frame whose place has come. -/
theorem due_cases {k : NativeFrame} (due : [k] <+: turn.remaining) :
    (k = .threadStarted ∧ turn.started = false) ∨
    (k = .turnStarted ∧ turn.completed = false ∧ turn.turnStarted = false ∧
      turn.started = true) ∨
    (k = .turnCompleted ∧ turn.completed = false ∧ turn.turnStarted = true) := by
  obtain ⟨rest, due⟩ := due
  cases completed : turn.completed with
  | true =>
    rw [remaining_completed turn completed] at due
    cases due
  | false =>
    cases running : turn.turnStarted with
    | true =>
      rw [remaining_running turn completed running] at due
      exact .inr (.inr ⟨(List.cons.inj due).1, rfl, rfl⟩)
    | false =>
      cases started : turn.started with
      | true =>
        rw [remaining_idle turn completed running started] at due
        exact .inr (.inl ⟨(List.cons.inj due).1, rfl, rfl, rfl⟩)
      | false =>
        rw [remaining_new turn completed running started] at due
        exact .inl ⟨(List.cons.inj due).1, rfl⟩

/-- A readable frame is taken where its place in the lifecycle has come. -/
theorem observe_accepts (coherent : Coherent turn) (unfailed : turn.nativeFailed = false)
    (read : readable frame = true) (due : (lifecycle? frame).toList <+: turn.remaining) :
    ∃ next, observe turn frame = .ok next ∧ next.nativeFailed = false := by
  cases known : kind frame with
  | none =>
    rw [readable, known] at read
    cases read
  | some k =>
    rw [observe_kind known]
    rw [lifecycle?_of_kind known] at due
    cases k with
    | threadStarted =>
      obtain ⟨_, fresh⟩ | ⟨other, _⟩ | ⟨other, _⟩ := due_cases due
      · exact ⟨_, require_bind_ok.mpr ⟨by rw [fresh]; rfl, rfl⟩, unfailed⟩
      · cases other
      · cases other
    | turnStarted =>
      obtain ⟨other, _⟩ | ⟨_, open_, idle, started⟩ | ⟨other, _⟩ := due_cases due
      · cases other
      · exact ⟨_, require_bind_ok.mpr ⟨by rw [open_, idle, started]; rfl, rfl⟩, unfailed⟩
      · cases other
    | itemUpdated => exact ⟨turn, rfl, unfailed⟩
    | item completed =>
      obtain ⟨next, observed⟩ := observeItem_readable turn known read
      obtain ⟨_, observations, rfl⟩ := observeItem_ok known observed
      exact ⟨_, observed, unfailed⟩
    | turnCompleted =>
      obtain ⟨other, _⟩ | ⟨other, _⟩ | ⟨_, open_, running⟩ := due_cases due
      · cases other
      · cases other
      · have started := coherent.inSession running
        exact ⟨_, require_bind_ok.mpr ⟨by rw [open_, running, started, unfailed]; rfl, rfl⟩,
          unfailed⟩
    | turnFailed =>
      obtain ⟨other, _⟩ | ⟨other, _⟩ | ⟨other, _⟩ := due_cases due <;> cases other
    | error =>
      obtain ⟨other, _⟩ | ⟨other, _⟩ | ⟨other, _⟩ := due_cases due <;> cases other
    | other => exact ⟨turn, rfl, unfailed⟩

theorem observe_failed (failed : turn.nativeFailed = true)
    (observed : observe turn frame = .ok next) : next.nativeFailed = true := by
  cases known : kind frame with
  | none =>
    obtain ⟨failure, threw⟩ := observe_untyped known turn
    rw [threw] at observed
    cases observed
  | some k =>
    rw [observe_kind known] at observed
    cases k with
    | threadStarted =>
      obtain ⟨_, stepped⟩ := require_bind_ok.mp observed
      cases stepped
      exact failed
    | turnStarted =>
      obtain ⟨_, stepped⟩ := require_bind_ok.mp observed
      cases stepped
      exact failed
    | itemUpdated =>
      cases observed
      exact failed
    | item completed =>
      obtain ⟨_, observations, rfl⟩ := observeItem_ok known observed
      exact failed
    | turnCompleted =>
      obtain ⟨due, _⟩ := require_bind_ok.mp observed
      rw [failed, Bool.not_true, Bool.and_false] at due
      cases due
    | turnFailed =>
      obtain ⟨_, stepped⟩ := require_bind_ok.mp observed
      cases stepped
      rfl
    | error =>
      cases observed
      rfl
    | other =>
      cases observed
      exact failed

theorem run_failed (failed : turn.nativeFailed = true)
    (ran : Watch.run observe turn frames = (last, none)) : last.nativeFailed = true := by
  have kept : (Watch.run observe turn frames).1.nativeFailed = true :=
    Watch.run_invariant (fun turn => turn.nativeFailed = true)
      (fun _ _ _ failed observed => observe_failed failed observed) failed
  rw [ran] at kept
  exact kept

/-- What a stream shows that completes the turn without a failure. -/
structure Completes (turn : NativeTurn) (frames : List JsValue) (report : Option JsValue) :
    Prop where
  read : ∀ frame ∈ frames, readable frame = true
  lifecycle : frames.filterMap lifecycle? = turn.remaining
  message : report = ((frames.filterMap agentMessage?).getLast?).getD turn.report

theorem Completes.cons (advances : Advances turn frame next) {report : Option JsValue}
    (completes : Completes next frames report) : Completes turn (frame :: frames) report where
  read := by
    intro other member
    rcases List.mem_cons.mp member with rfl | later
    · exact advances.read
    · exact completes.read other later
  lifecycle := by rw [filterMap_cons_toList, completes.lifecycle, advances.needs]
  message := by
    rw [completes.message, advances.report, filterMap_cons_toList, List.getLast?_append]
    cases (frames.filterMap agentMessage?).getLast? with
    | some text => rfl
    | none => cases agentMessage? frame <;> rfl

/-- A frame that the stream takes leaves the stream after it to complete the turn. -/
theorem Completes.tail (advances : Advances turn frame next) {report : Option JsValue}
    (completes : Completes turn (frame :: frames) report) : Completes next frames report where
  read := fun other later => completes.read other (List.mem_cons_of_mem frame later)
  lifecycle := by
    have needs := completes.lifecycle
    rw [filterMap_cons_toList, advances.needs] at needs
    exact List.append_cancel_left needs
  message := by
    rw [completes.message, advances.report, filterMap_cons_toList, List.getLast?_append]
    cases (frames.filterMap agentMessage?).getLast? with
    | some text => rfl
    | none => cases agentMessage? frame <;> rfl

theorem completes_nil (unstarted : turn.remaining = []) : turn.completed = true := by
  rw [remaining] at unstarted
  cases completed : turn.completed with
  | true => rfl
  | false =>
    rw [completed] at unstarted
    split at unstarted
    · contradiction
    · split at unstarted
      · cases unstarted
      · split at unstarted <;> cases unstarted

/-- A stream completes a turn without a failure where all of it is readable and its lifecycle
frames are those that the turn still needs; the report is its last agent message. -/
theorem run_completes (coherent : Coherent turn) (unfailed : turn.nativeFailed = false)
    {report : Option JsValue} :
    (∃ last, Watch.run observe turn frames = (last, none) ∧ last.completed = true ∧
      last.nativeFailed = false ∧ last.report = report) ↔ Completes turn frames report := by
  induction frames generalizing turn with
  | nil =>
    constructor
    · rintro ⟨last, ⟨⟩, completed, _, rfl⟩
      exact ⟨by simp, (remaining_completed _ completed).symm, rfl⟩
    · intro completes
      exact ⟨turn, rfl, completes_nil completes.lifecycle.symm, unfailed, completes.message.symm⟩
  | cons frame frames ih =>
    constructor
    · rintro ⟨last, ran, completed, clean, rfl⟩
      obtain ⟨next, observed, later⟩ := Watch.run_cons ran
      have still : next.nativeFailed = false := by
        cases failed : next.nativeFailed with
        | false => rfl
        | true => rw [run_failed failed later] at clean; cases clean
      have advances := observe_advances coherent observed still
      exact .cons advances ((ih advances.coherent still).mp ⟨last, later, completed, clean, rfl⟩)
    · intro completes
      have due : (lifecycle? frame).toList <+: turn.remaining := by
        rw [← completes.lifecycle, filterMap_cons_toList]
        exact List.prefix_append _ _
      obtain ⟨next, observed, still⟩ :=
        observe_accepts coherent unfailed (completes.read frame List.mem_cons_self) due
      have advances := observe_advances coherent observed still
      obtain ⟨last, later, done⟩ :=
        (ih advances.coherent still).mpr (.tail advances completes)
      exact ⟨last, by rw [Watch.run_ok observed, later], done⟩

variable {parse : JsString → Option JsValue} {valid : JsonValue → JsValue → Bool}
  {request : ExecutionRequest} {exitCode : Option Int} {output : JsValue}

theorem result_succeeded : turn.result parse valid request exitCode = .succeeded output ↔
    turn.completed = true ∧ turn.nativeFailed = false ∧ exitCode = some 0 ∧
      acceptReport parse valid request.requiredOutputSchema turn.report = some output := by
  rw [result]
  cases turn.completed <;> cases turn.nativeFailed <;> by_cases exited : exitCode = some 0 <;>
    simp [exited]
  cases acceptReport parse valid request.requiredOutputSchema turn.report <;> simp

theorem coherent_fresh : Coherent {} := ⟨by rintro ⟨⟩, by rintro ⟨⟩⟩

theorem succeeds_iff : succeeds parse valid request frames exitCode = some output ↔
    Completes {} frames (lastMessage frames) ∧ exitCode = some 0 ∧
      acceptReport parse valid request.requiredOutputSchema (lastMessage frames) = some output := by
  constructor
  · intro succeeded
    obtain ⟨last, ran, accepted⟩ : ∃ last, Watch.run observe {} frames = (last, none) ∧
        last.result parse valid request exitCode = .succeeded output := by
      rw [succeeds, observeAll] at succeeded
      split at succeeded
      case h_1 last ran => exact ⟨last, ran, NativeResult.output?_some.mp succeeded⟩
      case h_2 => cases succeeded
    obtain ⟨completed, unfailed, exited, accepted⟩ := result_succeeded.mp accepted
    have completes := (run_completes coherent_fresh rfl).mp ⟨last, ran, completed, unfailed, rfl⟩
    rw [show last.report = lastMessage frames from completes.message] at accepted completes
    exact ⟨completes, exited, accepted⟩
  · rintro ⟨completes, exited, accepted⟩
    obtain ⟨last, ran, completed, unfailed, report⟩ :=
      (run_completes coherent_fresh rfl).mpr completes
    rw [← report] at accepted
    rw [succeeds, observeAll, ran]
    exact NativeResult.output?_some.mpr
      (result_succeeded.mpr ⟨completed, unfailed, exited, accepted⟩)

/-- The claim that a success makes about the frames it rests on. -/
structure Evidence (parse : JsString → Option JsValue) (valid : JsonValue → JsValue → Bool)
    (schema : JsonValue) (frames : List JsValue) (exitCode : Option Int) (output : JsValue) :
    Prop where
  lifecycle : frames.filterMap lifecycle? = cleanTurn
  exited : exitCode = some 0
  report : acceptReport parse valid schema (lastMessage (inTurn frames)) = some output

/-- A success rests on the turn alone: its lifecycle, its report and its exit code, and the
frames after the completion have no part in it. -/
def OnItsEvidence (parse : JsString → Option JsValue) (valid : JsonValue → JsValue → Bool)
    (request : ExecutionRequest) (frames : List JsValue) (exitCode : Option Int) : Prop :=
  ∀ output, succeeds parse valid request frames exitCode = some output →
    Evidence parse valid request.requiredOutputSchema frames exitCode output ∧
    ∀ before completion after, frames = before ++ completion :: after →
      kind completion = some .turnCompleted →
      succeeds parse valid request (before ++ [completion]) exitCode = some output

/-- The stream's last agent message, where it would be accepted after a clean turn, says what
the last one inside the turn says. -/
def ReportedInTurn (parse : JsString → Option JsValue) (valid : JsonValue → JsValue → Bool)
    (schema : JsonValue) (frames : List JsValue) (exitCode : Option Int) : Prop :=
  (∀ frame ∈ frames, readable frame = true) → frames.filterMap lifecycle? = cleanTurn →
    exitCode = some 0 → ∀ output,
      acceptReport parse valid schema (lastMessage frames) = some output →
      acceptReport parse valid schema (lastMessage (inTurn frames)) = some output

theorem acceptReport_some {schema : JsonValue} {report : Option JsValue}
    (accepted : acceptReport parse valid schema report = some output) :
    ∃ message, report = some message := by
  cases report with
  | none => cases accepted
  | some message => exact ⟨message, rfl⟩

theorem lastMessage_append {before after : List JsValue} {message : JsValue}
    (last : lastMessage after = some message) : lastMessage (before ++ after) = some message := by
  rw [lastMessage] at last ⊢
  rw [List.filterMap_append, List.getLast?_append]
  cases shown : (after.filterMap agentMessage?).getLast? with
  | none =>
    rw [shown] at last
    cases last
  | some text =>
    rw [shown] at last
    exact last

/-- A clean turn is complete with its one completion. -/
theorem cleanTurn_split {before after : List NativeFrame}
    (whole : before ++ .turnCompleted :: after = cleanTurn) :
    before = [.threadStarted, .turnStarted] ∧ after = [] := by
  rcases before with _ | ⟨first, _ | ⟨second, _ | ⟨third, rest⟩⟩⟩
  · cases whole
  · cases whole
  · cases whole
    exact ⟨rfl, rfl⟩
  · simp [cleanTurn] at whole

theorem inTurn_of_completion {before after : List JsValue} {completion : JsValue}
    (completed : kind completion = some .turnCompleted)
    (first : before.filterMap lifecycle? = [.threadStarted, .turnStarted]) :
    inTurn (before ++ completion :: after) =
      before.dropWhile (kind · != some .turnStarted) := by
  have others : ∀ frame ∈ before, (kind frame != some .turnCompleted) = true := by
    intro frame member
    rw [bne_iff_ne]
    intro done
    have shown : NativeFrame.turnCompleted ∈ before.filterMap lifecycle? :=
      List.mem_filterMap.mpr ⟨frame, member, by rw [lifecycle?_of_kind done]; rfl⟩
    rw [first] at shown
    simp at shown
  rw [inTurn, List.takeWhile_append_of_pos others, List.takeWhile_cons, completed]
  simp

/-- The stream up to its completion succeeds with what the turn reported. -/
theorem succeeds_at_completion {before after : List JsValue} {completion : JsValue}
    (read : ∀ frame ∈ before ++ completion :: after, readable frame = true)
    (completed : kind completion = some .turnCompleted)
    (evidence : Evidence parse valid request.requiredOutputSchema (before ++ completion :: after)
      exitCode output) :
    succeeds parse valid request (before ++ [completion]) exitCode = some output := by
  have done : lifecycle? completion = some .turnCompleted := by
    rw [lifecycle?_of_kind completed]
    rfl
  have silent : agentMessage? completion = none := agentMessage?_of_kind completed (by decide)
  have whole := evidence.lifecycle
  rw [List.filterMap_append, filterMap_cons_toList, done] at whole
  obtain ⟨first, _⟩ := cleanTurn_split whole
  have accepted := evidence.report
  rw [inTurn_of_completion completed first] at accepted
  obtain ⟨message, last⟩ := acceptReport_some accepted
  have same : lastMessage (before ++ [completion]) = some message := by
    have shown : lastMessage (before.takeWhile (kind · != some .turnStarted) ++
        before.dropWhile (kind · != some .turnStarted)) = some message := lastMessage_append last
    rw [List.takeWhile_append_dropWhile] at shown
    rw [lastMessage, List.filterMap_append, filterMap_cons_toList, silent, List.filterMap_nil,
      Option.toList_none, List.append_nil, List.append_nil]
    exact shown
  rw [last, ← same] at accepted
  refine succeeds_iff.mpr ⟨⟨?_, ?_, ?_⟩, evidence.exited, accepted⟩
  · intro frame member
    refine read frame (List.mem_append.mpr ((List.mem_append.mp member).imp_right ?_))
    intro last
    exact List.mem_singleton.mp last ▸ List.mem_cons_self
  · rw [List.filterMap_append, first, filterMap_cons_toList, done]
    rfl
  · rw [lastMessage]

/-- Codex succeeds on its own evidence exactly where no agent message outside the turn takes
the place of the turn's report. -/
theorem onItsEvidence_iff : OnItsEvidence parse valid request frames exitCode ↔
    ReportedInTurn parse valid request.requiredOutputSchema frames exitCode := by
  constructor
  · intro onEvidence read clean exited output accepted
    have message : lastMessage frames =
        ((frames.filterMap agentMessage?).getLast?).getD ({} : NativeTurn).report := by
      rw [lastMessage]
    exact (onEvidence output
      (succeeds_iff.mpr ⟨⟨read, clean, message⟩, exited, accepted⟩)).1.report
  · intro reported output succeeded
    obtain ⟨completes, exited, accepted⟩ := succeeds_iff.mp succeeded
    have evidence : Evidence parse valid request.requiredOutputSchema frames exitCode output :=
      ⟨completes.lifecycle, exited,
        reported completes.read completes.lifecycle exited output accepted⟩
    refine ⟨evidence, ?_⟩
    rintro before completion after rfl completed
    exact succeeds_at_completion completes.read completed evidence

end NativeTurn
end Anastom
