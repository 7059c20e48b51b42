import Anastom.Adapters.NativeTurn
import Anastom.Data.Doubles

/-! What the Pi adapter shows of its session: tool lifecycle logs and summed usage counters. -/
namespace Anastom

def JsonValue.text? : JsonValue → Option String
  | .string text => some text
  | _ => none

def JsonValue.number? : JsonValue → Option JsonNumber
  | .number value => some value
  | _ => none

/-- A property that is a string. -/
def textField (event : JsonValue) (key : String) : Option String :=
  (event.get? key).bind JsonValue.text?

/-- A property that is a number. -/
def numberField (event : JsonValue) (key : String) : Option JsonNumber :=
  (event.get? key).bind JsonValue.number?

/-- A property that is a record; what is read of anything else is `undefined`. -/
def recordField (event : JsonValue) (key : String) : JsonValue := (event.get? key).getD .null

/-- Normalize Pi public tool lifecycle observations. -/
def observablePiEvent (event : JsonValue) : Option RuntimeEvent :=
  let toolName := (textField event "toolName").filter (!·.isEmpty)
  let tool :=
    (toolName.filter (· ∈ ["read", "write", "edit", "bash", "grep", "find", "ls"])).getD "other"
  if textField event "type" = some "tool_execution_start" ∧ toolName.isSome then
    some (.log ("Pi tool started: " ++ tool) none)
  else if textField event "type" = some "tool_execution_end" ∧ toolName.isSome then
    some (.log ("Pi tool finished: " ++ tool ++
      if event.get? "isError" = some (.bool true) then " (failed)" else "") none)
  else none

/-- A message of the session: the object that Pi holds, and what it says. -/
structure PiMessage where
  identity : Nat
  body : JsonValue
  deriving DecidableEq, Repr

structure PiUsageAccumulator where
  seen : List Nat := []
  totals : RuntimeUsage := partialUsage
  deriving DecidableEq, Repr

namespace PiUsageAccumulator

/-- The usage counters of a message, where they are numbers. -/
structure Counters where
  input : Option JsonNumber
  cacheRead : Option JsonNumber
  cacheWrite : Option JsonNumber
  output : Option JsonNumber
  reasoning : Option JsonNumber
  totalTokens : Option JsonNumber
  deriving DecidableEq, Repr

def counters (usage : JsonValue) : Counters where
  input := numberField usage "input"
  cacheRead := numberField usage "cacheRead"
  cacheWrite := numberField usage "cacheWrite"
  output := numberField usage "output"
  reasoning := numberField usage "reasoning"
  totalTokens := numberField usage "totalTokens"

/-- `typeof part === "number" && Number.isSafeInteger(part) && part >= 0 ? part : undefined` -/
def countedPart (value : Option JsonNumber) : Option Nat := do
  let n ← (← value).toInt?
  if 0 ≤ n ∧ n ≤ maxSafeInteger then some n.toNat else none

/-- Pi splits uncached input, cache read and cache write into disjoint fields. -/
def inclusiveInput (usage : Counters) : Option Nat := do
  let input ← countedPart usage.input
  let cacheRead ← countedPart usage.cacheRead
  let cacheWrite ← countedPart usage.cacheWrite
  let sum := [input, cacheRead, cacheWrite].foldl Doubles.add 0
  if 1 ≤ sum ∧ sum ≤ maxSafeInteger then some sum else none

/-- A total with one more count, which a sum beyond the safe integers deletes. -/
def addCount (total count : Option Nat) : Option Nat :=
  match count with
  | none => total
  | some count =>
    let sum := Doubles.add (total.getD 0) count
    if sum ≤ maxSafeInteger then some sum else none

def addUsage (totals : RuntimeUsage) (usage : Counters) : RuntimeUsage :=
  { totals with
    inputTokens := addCount totals.inputTokens (inclusiveInput usage)
    outputTokens := addCount totals.outputTokens (positiveCounter usage.output)
    cacheReadTokens := addCount totals.cacheReadTokens (positiveCounter usage.cacheRead)
    cacheWriteTokens := addCount totals.cacheWriteTokens (positiveCounter usage.cacheWrite)
    reasoningTokens := addCount totals.reasoningTokens (positiveCounter usage.reasoning)
    totalTokens := addCount totals.totalTokens (positiveCounter usage.totalTokens) }

/-- `value && typeof value === "object"` -/
def isObject : Option JsonValue → Bool
  | some (.object _) | some (.array _) => true
  | _ => false

/-- Consume only final assistant counters, once for each message object. -/
def observe (accumulator : PiUsageAccumulator) (message : PiMessage) : PiUsageAccumulator :=
  if !isObject (some message.body) || accumulator.seen.contains message.identity then accumulator
  else if textField message.body "role" ≠ some "assistant" then accumulator
  else
    let seen := message.identity :: accumulator.seen
    if !isObject (message.body.get? "usage") then { accumulator with seen }
    else
      { seen
        totals := addUsage accumulator.totals (counters (recordField message.body "usage")) }

def final (accumulator : PiUsageAccumulator) : RuntimeUsage := accumulator.totals

theorem addUsage_of_not_object {usage : Option JsonValue} (other : isObject usage = false)
    (totals : RuntimeUsage) : addUsage totals (counters (usage.getD .null)) = totals := by
  cases usage with
  | none => rfl
  | some value =>
    cases value with
    | array items => cases other
    | object fields => cases other
    | _ => rfl

end PiUsageAccumulator
end Anastom
