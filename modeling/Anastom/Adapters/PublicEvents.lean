import Anastom.Adapters.ClaudeNativeTurn
import Anastom.Adapters.PiObservation

/-! Private native content has no part in public events: what the adapters emit is determined
by the public projection of the native frames. -/
namespace Anastom
open Watch (Unseen)

/-- What a native turn lets out of the frames it reads. -/
structure PublicOutcome where
  observations : List RuntimeEvent
  finalUsage : RuntimeUsage
  completed : Bool
  nativeFailed : Bool
  failure : Option Failure
  deriving DecidableEq, Repr

namespace NativeTurn

/-- The public part of a frame: its type, the type and status of its item and its counters. -/
structure PublicFrame where
  type : Option JsString
  itemType : Option JsString
  itemStatus : Option JsString
  inputTokens : Option JsonNumber
  outputTokens : Option JsonNumber
  cachedInputTokens : Option JsonNumber
  reasoningOutputTokens : Option JsonNumber
  deriving DecidableEq, Repr

def publicFrame (frame : JsValue) : PublicFrame where
  type := frame.textField "type"
  itemType := (frame.recordField "item").textField "type"
  itemStatus := (frame.recordField "item").textField "status"
  inputTokens := (frame.recordField "usage").numberField "input_tokens"
  outputTokens := (frame.recordField "usage").numberField "output_tokens"
  cachedInputTokens := (frame.recordField "usage").numberField "cached_input_tokens"
  reasoningOutputTokens := (frame.recordField "usage").numberField "reasoning_output_tokens"

/-- All of a turn but its report. -/
def withoutReport (turn : NativeTurn) : NativeTurn := { turn with report := none }

def outcome (ran : NativeTurn × Option Failure) : PublicOutcome :=
  ⟨ran.1.observations, ran.1.finalUsage, ran.1.completed, ran.1.nativeFailed, ran.2⟩

def publicOutcome (frames : List JsValue) : PublicOutcome := outcome (observeAll frames)

theorem same_withoutReport {turn other : NativeTurn}
    (alike : withoutReport turn = withoutReport other) :
    ∃ report, other = { turn with report } := by
  obtain ⟨_, _, _, _, _, _, _⟩ := turn
  obtain ⟨_, _, _, report, _, _, _⟩ := other
  cases alike
  exact ⟨report, rfl⟩

theorem observeItem_agree {turn : NativeTurn} {report : Option JsValue}
    {frame frame' : JsValue} (completed : Bool) (same : publicFrame frame = publicFrame frame') :
    (observeItem turn completed frame).map withoutReport =
      (observeItem { turn with report } completed frame').map withoutReport := by
  have itemType := congrArg PublicFrame.itemType same
  have itemStatus := congrArg PublicFrame.itemStatus same
  simp only [publicFrame] at itemType itemStatus
  simp only [observeItem, itemType, itemStatus]
  cases (frame'.recordField "item").textField "type" with
  | none => rfl
  | some type =>
    simp only [requireSome, bind, Except.bind]
    split
    · rfl
    · split <;> rfl

theorem mapUsage_agree {frame frame' : JsValue} (same : publicFrame frame = publicFrame frame') :
    mapUsage (frame.recordField "usage") = mapUsage (frame'.recordField "usage") := by
  have input := congrArg PublicFrame.inputTokens same
  have output := congrArg PublicFrame.outputTokens same
  have cached := congrArg PublicFrame.cachedInputTokens same
  have reasoning := congrArg PublicFrame.reasoningOutputTokens same
  simp only [publicFrame] at input output cached reasoning
  rw [mapUsage, mapUsage, input, output, cached, reasoning]

theorem observeFrame_agree {turn : NativeTurn} {report : Option JsValue}
    {frame frame' : JsValue} (same : publicFrame frame = publicFrame frame') (k : NativeFrame) :
    (observeFrame turn frame k).map withoutReport =
      (observeFrame { turn with report } frame' k).map withoutReport := by
  cases k with
  | threadStarted =>
    rw [observeFrame, observeFrame]
    cases turn.started <;> rfl
  | turnStarted =>
    rw [observeFrame, observeFrame]
    cases turn.started && !turn.completed && !turn.turnStarted <;> rfl
  | itemUpdated => rfl
  | item completed => exact observeItem_agree completed same
  | turnCompleted =>
    rw [observeFrame, observeFrame, mapUsage_agree same]
    cases turn.started && turn.turnStarted && !turn.completed && !turn.nativeFailed <;> rfl
  | turnFailed =>
    rw [observeFrame, observeFrame]
    cases turn.started && turn.turnStarted && !turn.completed <;> rfl
  | error => rfl
  | other => rfl

theorem observe_agree (turn other : NativeTurn) (frame frame' : JsValue)
    (alike : withoutReport turn = withoutReport other)
    (same : publicFrame frame = publicFrame frame') :
    (observe turn frame).map withoutReport = (observe other frame').map withoutReport := by
  obtain ⟨report, rfl⟩ := same_withoutReport alike
  have typed := congrArg PublicFrame.type same
  simp only [publicFrame] at typed
  rw [observe, observe, typed]
  cases frame'.textField "type" with
  | none => rfl
  | some type => exact observeFrame_agree same (nativeFrame type)

theorem unseen : Unseen publicFrame publicOutcome :=
  Watch.unseen_run ({} : NativeTurn) outcome observe_agree

example : publicFrame (completedMessage "one report") = publicFrame (completedMessage "another") := by
  decide

end NativeTurn

namespace ClaudeNativeTurn

/-- The public part of a frame: its type and subtype, an initialization as a whole, its error
flag, the types and tool names of an assistant's content blocks and its counters. -/
structure PublicFrame where
  type : Option JsString
  subtype : Option JsString
  init : Option JsValue
  isError : Bool
  blocks : List (Option JsString × Option JsString)
  inputTokens : Option JsonNumber
  cacheReadInputTokens : Option JsonNumber
  cacheCreationInputTokens : Option JsonNumber
  outputTokens : Option JsonNumber
  deriving Repr

def contentBlocks (frame : JsValue) : List JsValue :=
  ((frame.recordField "message").arrayField "content").getD []

def publicFrame (frame : JsValue) : PublicFrame where
  type := frame.textField "type"
  subtype := frame.textField "subtype"
  init := if kind frame = some .init then some frame else none
  isError := (frame.get? "is_error").any JsValue.isTrue
  blocks :=
    if kind frame = some .assistant then
      (contentBlocks frame).map fun block => (block.textField "type", block.textField "name")
    else []
  inputTokens := (frame.recordField "usage").numberField "input_tokens"
  cacheReadInputTokens := (frame.recordField "usage").numberField "cache_read_input_tokens"
  cacheCreationInputTokens := (frame.recordField "usage").numberField "cache_creation_input_tokens"
  outputTokens := (frame.recordField "usage").numberField "output_tokens"

/-- All of a turn but its report. -/
def withoutReport (turn : ClaudeNativeTurn) : ClaudeNativeTurn := { turn with report := none }

def outcome (ran : ClaudeNativeTurn × Option Failure) : PublicOutcome :=
  ⟨ran.1.observations, ran.1.finalUsage, ran.1.completed, ran.1.nativeFailed, ran.2⟩

def publicOutcome (model : String) (allowedTools : List String) (frames : List JsValue) :
    PublicOutcome :=
  outcome (observeAll model allowedTools frames)

variable {model : String} {allowedTools : List String}

theorem same_withoutReport {turn other : ClaudeNativeTurn}
    (alike : withoutReport turn = withoutReport other) :
    ∃ report, other = { turn with report } := by
  obtain ⟨_, _, _, _, _, _⟩ := turn
  obtain ⟨_, _, _, report, _, _⟩ := other
  cases alike
  exact ⟨report, rfl⟩

theorem kind_agree {frame frame' : JsValue} (same : publicFrame frame = publicFrame frame') :
    kind frame = kind frame' := by
  have typed := congrArg PublicFrame.type same
  have subtyped := congrArg PublicFrame.subtype same
  simp only [publicFrame] at typed subtyped
  rw [kind, kind, typed, subtyped]

theorem observeBlock_agree :
    Unseen (fun block => (block.textField "type", block.textField "name"))
      (List.filterMap (observeBlock allowedTools)) :=
  Watch.unseen_filterMap fun block block' same => by
    rw [observeBlock, observeBlock, (Prod.mk.inj same).1, (Prod.mk.inj same).2]

theorem mapUsage_agree {frame frame' : JsValue} (same : publicFrame frame = publicFrame frame') :
    mapUsage (frame.recordField "usage") = mapUsage (frame'.recordField "usage") := by
  have input := congrArg PublicFrame.inputTokens same
  have output := congrArg PublicFrame.outputTokens same
  have read := congrArg PublicFrame.cacheReadInputTokens same
  have write := congrArg PublicFrame.cacheCreationInputTokens same
  simp only [publicFrame] at input output read write
  rw [mapUsage, mapUsage, input, output, read, write]

theorem observeResult_agree {turn : ClaudeNativeTurn} {report : Option JsValue}
    {frame frame' : JsValue} (same : publicFrame frame = publicFrame frame') :
    (observeResult turn frame).map withoutReport =
      (observeResult { turn with report } frame').map withoutReport := by
  have subtyped := congrArg PublicFrame.subtype same
  have isError := congrArg PublicFrame.isError same
  simp only [publicFrame] at subtyped isError
  have failed : resultFailed frame = resultFailed frame' := by
    rw [resultFailed, resultFailed, subtyped, isError]
  rw [observeResult, observeResult, failed, mapUsage_agree same]
  cases turn.initialized && !turn.completed <;> cases resultFailed frame' <;> rfl

theorem observeFrame_agree {turn : ClaudeNativeTurn} {report : Option JsValue}
    {frame frame' : JsValue} (same : publicFrame frame = publicFrame frame') {k : ClaudeFrame}
    (known : kind frame = some k) :
    (observeFrame model allowedTools turn frame k).map withoutReport =
      (observeFrame model allowedTools { turn with report } frame' k).map withoutReport := by
  have known' : kind frame' = some k := by rw [← kind_agree same, known]
  cases k with
  | init =>
    have whole := congrArg PublicFrame.init same
    simp only [publicFrame, known, known', if_true, Option.some.injEq] at whole
    rw [observeFrame, observeFrame, observeInit, observeInit, whole]
    cases turn.initialized || turn.completed <;>
      cases permittedIdentity model allowedTools frame' <;> rfl
  | assistant =>
    have blocks := congrArg PublicFrame.blocks same
    simp only [publicFrame, known, known', if_true] at blocks
    have logs : (contentBlocks frame).filterMap (observeBlock allowedTools) =
        (contentBlocks frame').filterMap (observeBlock allowedTools) :=
      observeBlock_agree _ _ blocks
    rw [contentBlocks, contentBlocks] at logs
    rw [observeFrame, observeFrame, observeAssistant, observeAssistant, logs]
    cases turn.initialized <;> rfl
  | result => exact observeResult_agree same
  | other => rfl

theorem observe_agree (turn other : ClaudeNativeTurn) (frame frame' : JsValue)
    (alike : withoutReport turn = withoutReport other)
    (same : publicFrame frame = publicFrame frame') :
    (observe model allowedTools turn frame).map withoutReport =
      (observe model allowedTools other frame').map withoutReport := by
  obtain ⟨report, rfl⟩ := same_withoutReport alike
  have typed := congrArg PublicFrame.type same
  have subtyped := congrArg PublicFrame.subtype same
  simp only [publicFrame] at typed subtyped
  cases type : frame.textField "type" with
  | none =>
    rw [observe, observe, ← typed, type]
    rfl
  | some text =>
    have known : kind frame = some (claudeFrame text (frame.textField "subtype")) := by
      rw [kind, type]
      rfl
    have framed : (observeFrame model allowedTools turn frame
          (claudeFrame text (frame.textField "subtype"))).map withoutReport =
        (observeFrame model allowedTools { turn with report } frame'
          (claudeFrame text (frame.textField "subtype"))).map withoutReport :=
      observeFrame_agree same known
    rw [observe, observe, ← typed, ← subtyped, type]
    simp only [requireSome, bind, Except.bind, require]
    cases completed : turn.completed with
    | true => rfl
    | false =>
      rw [completed] at framed
      exact framed

theorem unseen : Unseen publicFrame (publicOutcome model allowedTools) :=
  Watch.unseen_run ({} : ClaudeNativeTurn) outcome observe_agree

end ClaudeNativeTurn

/-- The public part of a Pi event: its type, its tool and its error flag. -/
structure PiPublicEvent where
  type : Option String
  toolName : Option String
  isError : Bool
  deriving DecidableEq, Repr

def piPublicEvent (event : JsonValue) : PiPublicEvent where
  type := textField event "type"
  toolName := textField event "toolName"
  isError := event.get? "isError" = some (.bool true)

theorem observablePiEvent_unseen : Unseen piPublicEvent (List.filterMap observablePiEvent) :=
  Watch.unseen_filterMap fun event event' same => by
    have typed := congrArg PiPublicEvent.type same
    have toolName := congrArg PiPublicEvent.toolName same
    have isError := congrArg PiPublicEvent.isError same
    simp only [piPublicEvent, decide_eq_decide] at typed toolName isError
    simp only [observablePiEvent, typed, toolName, isError]

namespace PiUsageAccumulator

/-- The public part of a message: its identity, its role and its counters. -/
structure PublicMessage where
  identity : Nat
  role : Option String
  counters : Counters
  deriving DecidableEq, Repr

def publicMessage (message : PiMessage) : PublicMessage where
  identity := message.identity
  role := textField message.body "role"
  counters := counters (recordField message.body "usage")

/-- The usage that the adapter reports for the messages of a session. -/
def finalUsage (messages : List PiMessage) : RuntimeUsage := (messages.foldl observe {}).final

/-- A message without usage counts nothing, and one that is no object has no role. -/
theorem observe_eq (accumulator : PiUsageAccumulator) (message : PiMessage) :
    observe accumulator message =
      if accumulator.seen.contains message.identity = true ∨
          textField message.body "role" ≠ some "assistant" then accumulator
      else
        { seen := message.identity :: accumulator.seen
          totals := addUsage accumulator.totals
            (counters (recordField message.body "usage")) } := by
  have unread (other : isObject (some message.body) = false) :
      textField message.body "role" ≠ some "assistant" := by
    cases body : message.body with
    | array items => rw [body] at other; cases other
    | object fields => rw [body] at other; cases other
    | _ => exact Option.some_ne_none _ ∘ Eq.symm
  rw [observe]
  cases object : isObject (some message.body) with
  | false => rw [Bool.not_false, Bool.true_or, if_pos rfl, if_pos (.inr (unread object))]
  | true =>
    cases accumulator.seen.contains message.identity with
    | true => rw [Bool.or_true, if_pos rfl, if_pos (.inl rfl)]
    | false =>
      rw [Bool.not_true, Bool.or_false, if_neg Bool.false_ne_true]
      by_cases role : textField message.body "role" ≠ some "assistant"
      · rw [if_pos role, if_pos (.inr role)]
      · rw [if_neg role, if_neg (or_iff_right Bool.false_ne_true |>.not.mpr role)]
        cases used : isObject (message.body.get? "usage") with
        | true => rfl
        | false =>
          rw [recordField, addUsage_of_not_object used]
          rfl

theorem unseen : Unseen publicMessage finalUsage := by
  have observed : Unseen publicMessage (List.foldl observe {}) :=
    Watch.unseen_fold ({} : PiUsageAccumulator) fun accumulator message message' same => by
      have identity : message.identity = message'.identity :=
        congrArg PublicMessage.identity same
      have role : textField message.body "role" = textField message'.body "role" :=
        congrArg PublicMessage.role same
      have counted : counters (recordField message.body "usage") =
          counters (recordField message'.body "usage") := congrArg PublicMessage.counters same
      rw [observe_eq, observe_eq, identity, role, counted]
  intro messages others same
  rw [finalUsage, finalUsage, observed messages others same]

end PiUsageAccumulator

/-- What the adapters emit is determined by the public projection of what they read. -/
theorem publicEvents_unseen :
    Unseen NativeTurn.publicFrame NativeTurn.publicOutcome ∧
    (∀ (model : String) (allowedTools : List String),
      Unseen ClaudeNativeTurn.publicFrame (ClaudeNativeTurn.publicOutcome model allowedTools)) ∧
    Unseen piPublicEvent (List.filterMap observablePiEvent) ∧
    Unseen PiUsageAccumulator.publicMessage PiUsageAccumulator.finalUsage :=
  ⟨NativeTurn.unseen, fun _ _ => ClaudeNativeTurn.unseen, observablePiEvent_unseen,
    PiUsageAccumulator.unseen⟩

end Anastom
