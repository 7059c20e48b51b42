import Anastom.Engine.MemoryStore
import Anastom.Persistence.SqliteStore

/-! One interface over both stores: the calls of the contract, their results, and
the trace that a sequence of calls leaves, each with its own clock reading. -/
namespace Anastom

inductive StoreCall where
  | createOwned (input : CreateOwnedRun)
  | load (runId : String) (mode : LoadMode)
  | inspectLease (runId : String)
  | acquireReleased (input : AcquireReleasedRun)
  | takeoverExpired (input : TakeoverExpiredRun)
  | renew (token : RunLeaseToken)
  | release (token : RunLeaseToken)
  | commit (input : FencedRunMutation)
  | submitControl (input : ControlSubmission)
  | pendingControls (runId : String) (limit : Nat)
  deriving DecidableEq, Repr

/-- The calls that only read. -/
def StoreCall.reads : StoreCall → Bool
  | .load .. | .inspectLease _ | .pendingControls .. => true
  | _ => false

inductive StoreResult where
  | created (receipt : OwnedRunReceipt)
  | loaded (run : Option LoadedRun)
  | inspected (lease : Option RunLease)
  | granted (token : RunLeaseToken)
  | renewed (lease : RunLease)
  | released
  | committed (receipt : MutationReceipt)
  | submitted (receipt : ControlReceipt)
  | pending (controls : List ControlRequest)
  deriving DecidableEq, Repr

/-- Keep the effect of an action and tag its result. -/
def Action.tag {σ α β : Type} (f : α → β) (x : Action σ α) : Action σ β := fun s =>
  ((x s).1.map f, (x s).2)

theorem Action.tag_ok {σ α β : Type} {f : α → β} {x : Action σ α} {s t : σ} {b : β} :
    Action.tag f x s = (.ok b, t) ↔ ∃ a, x s = (.ok a, t) ∧ f a = b := by
  unfold Action.tag
  rcases x s with ⟨_ | a, u⟩ <;> simp [Except.map, and_comm]

theorem Action.tag_run {σ α β : Type} {f : α → β} {x : Action σ α} {s t : σ}
    {result : Except Failure α} (run : x s = (result, t)) :
    Action.tag f x s = (result.map f, t) := by
  simp [Action.tag, run]

theorem Action.tag_error {σ α β : Type} {f : α → β} {x : Action σ α} {s t : σ}
    {failure : Failure} : Action.tag f x s = (.error failure, t) ↔ x s = (.error failure, t) := by
  unfold Action.tag
  rcases x s with ⟨_ | a, u⟩ <;> simp [Except.map]

def MemoryStore.perform (platform : Platform) (call : StoreCall) (clock : Nat) :
    Action MemoryStore StoreResult :=
  match call with
  | .createOwned input => (createOwned platform input clock).tag .created
  | .load runId mode => (load platform runId mode).tag .loaded
  | .inspectLease runId => (inspectLease runId).tag .inspected
  | .acquireReleased input => (acquireReleased input clock).tag .granted
  | .takeoverExpired input => (takeoverExpired input clock).tag .granted
  | .renew token => (renew token clock).tag .renewed
  | .release token => (release token).tag fun _ => .released
  | .commit input => (commit platform input clock).tag .committed
  | .submitControl input => (submitControl input clock).tag .submitted
  | .pendingControls runId limit => (pendingControls runId limit).tag .pending

def SqliteStore.perform (platform : Platform) (call : StoreCall) (clock : Nat) :
    Action SqliteStore StoreResult :=
  match call with
  | .createOwned input => (createOwned platform input clock).tag .created
  | .load runId mode => (load platform runId mode).tag .loaded
  | .inspectLease runId => (inspectLease platform runId).tag .inspected
  | .acquireReleased input => (acquireReleased platform input clock).tag .granted
  | .takeoverExpired input => (takeoverExpired platform input clock).tag .granted
  | .renew token => (renew platform token clock).tag .renewed
  | .release token => (release platform token).tag fun _ => .released
  | .commit input => (commit platform input clock).tag .committed
  | .submitControl input => (submitControl input clock).tag .submitted
  | .pendingControls runId limit => (pendingControls runId limit).tag .pending

/-- The lease row of a run. -/
def SqliteStore.lease? (db : SqliteStore) (runId : String) : Option RunLease :=
  (Keyed.find db.runLeases runId).map LeaseRow.toRunLease

def MemoryStore.lease? (store : MemoryStore) (runId : String) : Option RunLease :=
  (store.run? runId).map MemoryRun.lease

/-- The stored events of a run in sequence order. -/
def SqliteStore.history (db : SqliteStore) (runId : String) : List RunEvent :=
  (db.eventRows runId).map EventRow.event

def MemoryStore.history (store : MemoryStore) (runId : String) : List RunEvent :=
  ((store.run? runId).map MemoryRun.events).getD []

/-- The receipt that a mutation row stands for. -/
def MutationRow.receipt (row : MutationRow) : MutationReceipt :=
  { runId := row.runId, operationId := row.operationId, firstSequence := row.firstSequence,
    lastSequence := row.lastSequence, replayed := false }

/-- The payload digest and receipt recorded for an operation of a run. -/
def SqliteStore.recorded (db : SqliteStore) (runId operationId : String) :
    Option (String × MutationReceipt) :=
  (Keyed.find db.runMutations (runId, operationId)).map fun row =>
    (row.payloadDigest, row.receipt)

def MemoryStore.recorded (store : MemoryStore) (runId operationId : String) :
    Option (String × MutationReceipt) :=
  (store.run? runId).bind fun run => (Keyed.find run.mutations operationId).map fun mutation =>
    (mutation.payloadDigest, mutation.receipt)

/-- The definition of a run, as the store checks its snapshots against it. -/
def SqliteStore.definition (db : SqliteStore) (runId : String) : Option WorkflowDefinition :=
  (Keyed.find db.runs runId).map fun row => row.workflow.parsed

def MemoryStore.definition (store : MemoryStore) (runId : String) : Option WorkflowDefinition :=
  (store.run? runId).map MemoryRun.workflow

/-- A store as its callers see it, with the records it keeps for each run. -/
structure StoreImplementation where
  State : Type
  initial : State
  perform : StoreCall → Nat → Action State StoreResult
  lease : State → String → Option RunLease
  definition : State → String → Option WorkflowDefinition
  history : State → String → List RunEvent
  recorded : State → String → String → Option (String × MutationReceipt)

def memoryImplementation (platform : Platform) : StoreImplementation where
  State := MemoryStore
  initial := .empty
  perform := MemoryStore.perform platform
  lease := MemoryStore.lease?
  definition := MemoryStore.definition
  history := MemoryStore.history
  recorded := MemoryStore.recorded

def sqliteImplementation (platform : Platform) : StoreImplementation where
  State := SqliteStore
  initial := .empty
  perform := SqliteStore.perform platform
  lease := SqliteStore.lease?
  definition := SqliteStore.definition
  history := SqliteStore.history
  recorded := SqliteStore.recorded

inductive StoreKind where
  | memory | sqlite
  deriving DecidableEq, Repr

def durableStore (platform : Platform) : StoreKind → StoreImplementation
  | .memory => memoryImplementation platform
  | .sqlite => sqliteImplementation platform

/-- One call as it happened. -/
structure Observed (σ : Type) where
  call : StoreCall
  clock : Nat
  before : σ
  result : Except Failure StoreResult
  after : σ

namespace StoreImplementation
variable (store : StoreImplementation)

def trace : store.State → List (StoreCall × Nat) → List (Observed store.State)
  | _, [] => []
  | state, (call, clock) :: rest =>
    { call, clock, before := state, result := (store.perform call clock state).1,
      after := (store.perform call clock state).2 } ::
        trace (store.perform call clock state).2 rest

def finalState : store.State → List (StoreCall × Nat) → store.State
  | state, [] => state
  | state, (call, clock) :: rest => finalState (store.perform call clock state).2 rest

/-- What was observed at a point of a trace is the call made on the state that the
earlier calls left. -/
theorem trace_split {state : store.State} {calls : List (StoreCall × Nat)}
    {earlier later : List (Observed store.State)} {observed : Observed store.State}
    (split : store.trace state calls = earlier ++ observed :: later) :
    ∃ first, earlier = store.trace state first ∧ observed.before = store.finalState state first ∧
      store.perform observed.call observed.clock observed.before =
        (observed.result, observed.after) := by
  induction earlier generalizing state calls with
  | nil =>
    cases calls with
    | nil => cases split
    | cons entry rest =>
      obtain ⟨head, _⟩ := List.cons.inj split
      subst head
      exact ⟨[], rfl, rfl, rfl⟩
  | cons first earlier ih =>
    cases calls with
    | nil => cases split
    | cons entry rest =>
      obtain ⟨call, clock⟩ := entry
      obtain ⟨head, tail⟩ := List.cons.inj split
      obtain ⟨calls, same, before, performed⟩ := ih tail
      subst head
      exact ⟨(call, clock) :: calls, congrArg _ same, before, performed⟩

/-- What every call preserves holds after any calls. -/
theorem finalState_invariant {Inv : store.State → Prop}
    (preserved : ∀ call clock state, Inv state → Inv (store.perform call clock state).2)
    (calls : List (StoreCall × Nat)) {state : store.State} (holds : Inv state) :
    Inv (store.finalState state calls) := by
  induction calls generalizing state with
  | nil => exact holds
  | cons entry rest ih => exact ih (preserved entry.1 entry.2 state holds)

end StoreImplementation
end Anastom
