import Anastom.Persistence.ExactlyOnce

/-! The session of one lease owner. Its commits are queued and put to the store one after the
other, while a heartbeat renews the lease; the store and its other clients act in between. A
failed renewal ends the heartbeat, a failed commit does not. -/
namespace Anastom.OwnedSession

/-- One call of `commit`, with the operation id that it will use. -/
structure Commit where
  payloads : List RunEventPayload
  operationId : String
  handlesControlOperationId : Option String := none
  snapshot : Bool := false
  deriving DecidableEq, Repr

structure OwnedRunSession where
  lease : RunLeaseToken
  workflow : WorkflowDefinition
  currentState : RunState
  prefixDigest : String
  stopped : Bool := false
  heartbeatFailure : Option Failure := none
  mutationFailure : Option Failure := none
  deriving DecidableEq, Repr

def OwnedRunSession.assertHealthy (session : OwnedRunSession) : Except Failure Unit := do
  require session.heartbeatFailure.isNone (.error "Run lease heartbeat failed")
  require session.mutationFailure.isNone (.error "Run mutation session failed")
  require (!session.stopped) (.error "Run lease session is stopped")

def OwnedRunSession.Healthy (session : OwnedRunSession) : Prop :=
  session.assertHealthy = .ok ()

/-- What a commit puts to the store, and what it leaves in the session once it is through. -/
structure Proposal where
  mutation : FencedRunMutation
  state : RunState
  prefixDigest : String
  deriving DecidableEq, Repr

variable (platform : Platform)

/-- The snapshot that a commit attaches when it is asked to. -/
def attached (session : OwnedRunSession) (wanted : Bool) (state : RunState)
    (prefixDigest : String) : Except Failure (Option RunSnapshot) :=
  if wanted then
    (createRunSnapshotFromState platform session.workflow state prefixDigest).map some
  else .ok none

/-- A commit from its turn in the queue until it calls the store; `guard` asks for the health of
the session once more. -/
def propose (session : OwnedRunSession) (call : Commit) : Except Failure Proposal := do
  session.assertHealthy
  let transition ←
    materializeEvents (some session.currentState) session.lease.runId call.payloads
  let nextPrefix := extendPrefix platform.hash session.prefixDigest transition.1
  let snapshot ← attached platform session call.snapshot transition.2 nextPrefix
  session.assertHealthy
  pure {
    mutation := {
      lease := session.lease
      operationId := call.operationId
      expectedSequence := session.currentState.sequence
      events := transition.1
      snapshot
      -- A falsy id is left out of the mutation.
      handlesControlOperationId := call.handlesControlOperationId.filter (· != "") }
    state := transition.2
    prefixDigest := nextPrefix }

/-- Where the commit at the head of the queue stands: it races the store's answer against the
heartbeat's failure, then `guard` has returned and the session is about to be updated. -/
inductive Running where
  | racing (ticket : Nat) (call : Commit) (proposal : Proposal)
      (answer : Option (Except Failure StoreResult))
  | passed (call : Commit) (proposal : Proposal)

def Running.call : Running → Commit
  | .racing _ call _ _ => call
  | .passed call _ => call

/-- The store's answer reaches the commit that waits for it, and nobody else. -/
def Running.hear (answered : Nat) (result : Except Failure StoreResult) : Running → Running
  | .racing ticket call proposal none =>
    .racing ticket call proposal (if ticket = answered then some result else none)
  | running => running

inductive Heartbeat where
  | asleep
  | renewing
  | answered (result : Except Failure StoreResult)
  | ended

/-- The session, the calls that the store has performed so far, and what is on its way. -/
structure World where
  calls : List (StoreCall × Nat)
  session : OwnedRunSession
  waiting : List Commit := []
  running : Option Running := none
  inFlight : List (Nat × FencedRunMutation) := []
  heartbeat : Heartbeat := .asleep
  /-- The calls of `commit` with a batch, and how they have come out, each in its order. -/
  called : List Commit := []
  issued : List (Commit × Proposal) := []
  resolved : List (Commit × Proposal) := []
  rejected : List (Commit × Failure) := []

def World.contents (store : StoreImplementation) (s : World) : store.State :=
  store.finalState store.initial s.calls

/-- The next thing that happens: to a commit, to the heartbeat, in the store, or elsewhere. -/
inductive Turn where
  | commit (call : Commit)
  | start
  | perform (index clock : Nat)
  | answer
  | abandon
  | update
  | wake
  | renew (clock : Nat)
  | beat
  | stop
  | other (call : StoreCall) (clock : Nat)

/-- A commit is rejected: the session fails and the next in the queue has its turn. -/
def World.reject (s : World) (call : Commit) (failure : Failure) : World :=
  { s with
    session := { s.session with mutationFailure := some failure }
    running := none
    rejected := s.rejected ++ [(call, failure)] }

variable (store : StoreImplementation)

def World.start (s : World) : World :=
  match s.running, s.waiting with
  | none, call :: rest =>
    match propose platform s.session call with
    | .error failure => { s with waiting := rest }.reject call failure
    | .ok proposal =>
      { s with
        waiting := rest
        running := some (.racing s.issued.length call proposal none)
        inFlight := s.inFlight ++ [(s.issued.length, proposal.mutation)]
        issued := s.issued ++ [(call, proposal)] }
  | _, _ => s

/-- The store performs a call, whoever made it. -/
def World.performed (s : World) (call : StoreCall) (clock : Nat) : World :=
  { s with calls := s.calls ++ [(call, clock)] }

def World.result (s : World) (call : StoreCall) (clock : Nat) : Except Failure StoreResult :=
  (store.perform call clock (s.contents store)).1

def World.perform (s : World) (index clock : Nat) : World :=
  match s.inFlight[index]? with
  | none => s
  | some (ticket, mutation) =>
    { s.performed (.commit mutation) clock with
      inFlight := s.inFlight.eraseIdx index
      running := s.running.map (Running.hear ticket (s.result store (.commit mutation) clock)) }

/-- The race ends with the store's answer; `guard` passes it on if the session is healthy. -/
def World.answer (s : World) : World :=
  match s.running with
  | some (.racing _ call _ (some (.error failure))) => s.reject call failure
  | some (.racing _ call proposal (some (.ok _))) =>
    match s.session.assertHealthy with
    | .error failure => s.reject call failure
    | .ok _ => { s with running := some (.passed call proposal) }
  | _ => s

/-- The race ends with the heartbeat's failure; the store may still perform the commit. -/
def World.abandon (s : World) : World :=
  match s.running, s.session.heartbeatFailure with
  | some (.racing _ call _ _), some _ => s.reject call (.error "Run lease heartbeat failed")
  | _, _ => s

def World.update (s : World) : World :=
  match s.running with
  | some (.passed call proposal) =>
    { s with
      session := { s.session with
        currentState := proposal.state
        prefixDigest := proposal.prefixDigest }
      running := none
      resolved := s.resolved ++ [(call, proposal)] }
  | _ => s

def World.wake (s : World) : World :=
  match s.heartbeat with
  | .asleep => { s with heartbeat := if s.session.stopped then .ended else .renewing }
  | _ => s

def World.renew (s : World) (clock : Nat) : World :=
  match s.heartbeat with
  | .renewing =>
    { s.performed (.renew s.session.lease) clock with
      heartbeat := .answered (s.result store (.renew s.session.lease) clock) }
  | _ => s

def World.beat (s : World) : World :=
  match s.heartbeat with
  | .answered (.ok _) => { s with heartbeat := if s.session.stopped then .ended else .asleep }
  | .answered (.error failure) =>
    { s with
      heartbeat := .ended
      session := { s.session with heartbeatFailure := some failure } }
  | _ => s

/-- One turn; a turn that is not possible yet changes nothing. A commit of no payloads resolves
with the current state at once, whatever the health of the session, and never reaches the queue. -/
def step (s : World) : Turn → World
  | .commit call =>
    if call.payloads.isEmpty then s
    else { s with waiting := s.waiting ++ [call], called := s.called ++ [call] }
  | .start => s.start platform
  | .perform index clock => s.perform store index clock
  | .answer => s.answer
  | .abandon => s.abandon
  | .update => s.update
  | .wake => s.wake
  | .renew clock => s.renew store clock
  | .beat => s.beat
  | .stop => { s with session := { s.session with stopped := true } }
  | .other call clock => s.performed call clock

def run (s : World) (turns : List Turn) : World :=
  turns.foldl (step platform store) s

end Anastom.OwnedSession
