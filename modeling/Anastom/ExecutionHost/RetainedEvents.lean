import Anastom.Data.Doubles
import Anastom.Engine.DurableStore
import Anastom.ExecutionHost.EventSize

/-! The supervisor's queue of runtime events. It keeps every event of another kind than a
log and drops the oldest logs, counting them, when the queue grows past its bounds. -/
namespace Anastom

def RuntimeEvent.isLog : RuntimeEvent → Bool
  | .log .. => true
  | _ => false

/-- `event.droppedLogs ?? 0` -/
def RuntimeEvent.dropped : RuntimeEvent → Nat
  | .log _ droppedLogs => droppedLogs.getD 0
  | _ => 0

/-- Adds to the count of dropped logs that a log carries. -/
def RuntimeEvent.addDropped (count : Nat) : RuntimeEvent → RuntimeEvent
  | .log message droppedLogs => .log message (some (Doubles.add (droppedLogs.getD 0) count))
  | event => event

structure RetainedEvent where
  ordinal : Nat
  event : RuntimeEvent
  deriving DecidableEq, Repr

/-- The event variables of a supervisor. -/
structure RetainedEvents where
  events : List RetainedEvent := []
  ordinal : Nat := 0
  droppedLogs : Nat := 0
  deriving DecidableEq, Repr

namespace RetainedEvents

def truncatedLogMessage : String := "Execution logs were truncated by the supervisor"

def isSummary : RuntimeEvent → Bool
  | .log message _ => message == truncatedLogMessage
  | _ => false

/-- `events.map((value) => value.event)` -/
def observed (queue : RetainedEvents) : List RuntimeEvent := queue.events.map RetainedEvent.event

/-- `Buffer.byteLength(canonicalJson(events))` -/
def eventBytes (events : List RuntimeEvent) : Nat :=
  Json.byteLength (.array (events.map RuntimeEvent.toJson))

def overflows (events : List RuntimeEvent) : Bool :=
  decide (events.length > 256 ∨ eventBytes events > executionSocketFrameMaxBytes / 2)

/-- Replaces the first item that passes a test. -/
def modifyFirst {α : Type} (test : α → Bool) (f : α → α) : List α → List α
  | [] => []
  | a :: rest => if test a then f a :: rest else a :: modifyFirst test f rest

/-- Account for a log that was removed, in the summary that is retained or for a later one. -/
def account (removed : Nat) (queue : RetainedEvents) : RetainedEvents :=
  if queue.events.any (isSummary ·.event) then
    { queue with
      events := modifyFirst (isSummary ·.event)
        (fun value => { value with event := value.event.addDropped removed }) queue.events }
  else { queue with droppedLogs := Doubles.add queue.droppedLogs removed }

/-- The loop that drops the oldest log until the rest fits. Each turn removes an event. -/
def dropLogs : Nat → Action RetainedEvents Unit
  | 0 => pure ()
  | fuel + 1 => fun queue =>
    if overflows queue.observed then
      match queue.events.find? (·.event.isLog) with
      | none => (.error (.error "Non-log runtime observations exceeded the supervisor bound"),
          { queue with events := queue.events.dropLast })
      | some removed => dropLogs fuel
          (account (Doubles.add removed.event.dropped 1)
            { queue with events := queue.events.eraseP (·.event.isLog) })
    else (.ok (), queue)

def trimEvents : Action RetainedEvents Unit := fun queue =>
  if (queue.observed.filter (!·.isLog)).length > 16 then
    (.error (.error "Runtime emitted too many required non-log observations"),
      { queue with events := queue.events.dropLast })
  else dropLogs (queue.events.length + 1) queue

/-- `events.push({ ordinal: ++ordinal, event })` -/
def push (event : RuntimeEvent) (queue : RetainedEvents) : RetainedEvents :=
  { queue with
    events := queue.events ++ [⟨queue.ordinal + 1, event⟩]
    ordinal := queue.ordinal + 1 }

def flushDroppedLogs : Action RetainedEvents Unit := fun queue =>
  if queue.droppedLogs < 1 then (.ok (), queue)
  else trimEvents
    { push (.log truncatedLogMessage (some queue.droppedLogs)) queue with droppedLogs := 0 }

/-- A log takes along the count that no summary holds. -/
def retain (event : RuntimeEvent) (queue : RetainedEvents) : RetainedEvents :=
  if event.isLog ∧ queue.droppedLogs > 0 then
    { push (event.addDropped queue.droppedLogs) queue with droppedLogs := 0 }
  else push event queue

/-- `if (event.type === "completed") flushDroppedLogs()` -/
def flushBefore : RuntimeEvent → Action RetainedEvents Unit
  | .completed _ => flushDroppedLogs
  | _ => pure ()

def appendEvent (event : RuntimeEvent) : Action RetainedEvents Unit := do
  flushBefore event
  Action.modify (retain event)
  trimEvents

end RetainedEvents
end Anastom
