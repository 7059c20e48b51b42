import Anastom.Engine.OwnedRunSession
import Anastom.Persistence.HeldHistory

/-! Every interleaving of commits, heartbeats, store answers and other clients leaves a session
in step with the history of its run: the commits reach the store one at a time in the order of
the calls, and no commit is put to it after a failure or `stop`. -/
namespace Anastom.OwnedSession

/-- The events of a list of commits. -/
def written (commits : List (Commit × Proposal)) : List RunEvent :=
  commits.flatMap fun commit => commit.2.mutation.events

theorem written_concat (commits : List (Commit × Proposal)) (last : Commit × Proposal) :
    written (commits ++ [last]) = written commits ++ last.2.mutation.events := by
  simp [written]

theorem healthy_iff {session : OwnedRunSession} : session.Healthy ↔
    session.heartbeatFailure = none ∧ session.mutationFailure = none ∧ session.stopped = false := by
  simp only [OwnedRunSession.Healthy, OwnedRunSession.assertHealthy, require_bind_ok, require_ok,
    Option.isNone_iff_eq_none, Bool.not_eq_true']

/-- A proposal that continues a history, with a snapshot that the store's check accepts. -/
structure Proposed (platform : Platform) (workflow : WorkflowDefinition) (lease : RunLeaseToken)
    (base : List RunEvent) (call : Commit) (proposal : Proposal) : Prop where
  lease : proposal.mutation.lease = lease
  payloads : proposal.mutation.events.map RunEvent.payload = call.payloads
  expected : proposal.mutation.expectedSequence = base.length
  folded : replayRun (base ++ proposal.mutation.events) = .ok proposal.state
  digest : proposal.prefixDigest = extendPrefix platform.hash
    platform.hash.emptyEventHistoryDigest (base ++ proposal.mutation.events)
  snapshot : ∀ snapshot ∈ proposal.mutation.snapshot,
    assertRunSnapshot platform snapshot workflow (base ++ proposal.mutation.events) = .ok ()

theorem attached_ok {platform : Platform} {session : OwnedRunSession} {wanted : Bool}
    {events : List RunEvent} {state : RunState} {digest : String} {snapshot : Option RunSnapshot}
    (folded : replayRun events = .ok state)
    (digested : digest = extendPrefix platform.hash platform.hash.emptyEventHistoryDigest events)
    (made : attached platform session wanted state digest = .ok snapshot) :
    ∀ kept ∈ snapshot, assertRunSnapshot platform kept session.workflow events = .ok () := by
  subst digested
  unfold attached at made
  cases wanted with
  | false =>
    cases made
    simp
  | true =>
    rw [if_pos rfl] at made
    cases created : createRunSnapshotFromState platform session.workflow state
        (extendPrefix platform.hash platform.hash.emptyEventHistoryDigest events) with
    | error failure =>
      rw [created] at made
      cases made
    | ok kept =>
      rw [created] at made
      cases made
      obtain ⟨accepted, matching, _, fits, same⟩ := createRunSnapshotFromState_ok.mp created
      rintro _ ⟨⟩
      refine assertRunSnapshot_ok.mpr ⟨kept, ?_, RunSnapshot.same_refl kept⟩
      exact createRunSnapshot_ok.mpr ⟨accepted, state, folded, matching, fits, same⟩

theorem propose_ok {platform : Platform} {session : OwnedRunSession} {call : Commit}
    {proposal : Proposal} {base : List RunEvent}
    (folded : replayRun base = .ok session.currentState)
    (digested : session.prefixDigest =
      extendPrefix platform.hash platform.hash.emptyEventHistoryDigest base)
    (proposed : propose platform session call = .ok proposal) :
    session.Healthy ∧
      Proposed platform session.workflow session.lease base call proposal := by
  simp only [propose, bind_ok, pure_ok] at proposed
  obtain ⟨_, healthy, ⟨events, state⟩, materialized, snapshot, made, _, _, rfl⟩ := proposed
  obtain ⟨payloads, _, continued⟩ := materializeEvents_fold materialized
  have whole : replayRun (base ++ events) = .ok state :=
    replayRun_ok.mpr (foldEvents_append_ok.mpr ⟨_, replayRun_ok.mp folded, continued⟩)
  have extended : extendPrefix platform.hash session.prefixDigest events =
      extendPrefix platform.hash platform.hash.emptyEventHistoryDigest (base ++ events) := by
    rw [extendPrefix_append, digested]
  exact ⟨healthy, rfl, payloads, (replayRun_sequence folded).2, whole, extended,
    attached_ok whole extended made⟩

section Stages
variable (store : StoreImplementation) (lease : RunLeaseToken) (base : List RunEvent)

/-- The history begins with these commits, and has nothing else while the lease is in force. -/
structure Holds (calls : List (StoreCall × Nat)) (commits : List (Commit × Proposal)) : Prop where
  kept : base ++ written commits <+: store.history (store.after calls) lease.runId
  whole : store.InForce (store.after calls) lease →
    store.history (store.after calls) lease.runId = base ++ written commits

/-- How far the newest commit has come, with what the store holds by then. A session whose
mutations have failed may have left its last commit to the store. -/
inductive Stage (calls : List (StoreCall × Nat)) : Option Failure → Option Running →
    List (Nat × FencedRunMutation) → List (Commit × Proposal) → List (Commit × Proposal) →
    List (Commit × Failure) → Prop where
  | idle {commits} : Holds store lease base calls commits →
      Stage calls none none [] commits commits []
  | racing {commits ticket call proposal} : Holds store lease base calls commits →
      Stage calls none (some (.racing ticket call proposal none)) [(ticket, proposal.mutation)]
        (commits ++ [(call, proposal)]) commits []
  | accepted {commits ticket call proposal result} :
      Holds store lease base calls (commits ++ [(call, proposal)]) →
      Stage calls none (some (.racing ticket call proposal (some (.ok result)))) []
        (commits ++ [(call, proposal)]) commits []
  | refused {commits ticket call proposal failure} : Holds store lease base calls commits →
      Stage calls none (some (.racing ticket call proposal (some (.error failure)))) []
        (commits ++ [(call, proposal)]) commits []
  | passed {commits call proposal} :
      Holds store lease base calls (commits ++ [(call, proposal)]) →
      Stage calls none (some (.passed call proposal)) [] (commits ++ [(call, proposal)]) commits []
  | failed {commits issued failure rejected} :
      issued = commits ∨ (∃ last, issued = commits ++ [last]) →
      Holds store lease base calls commits ∨ Holds store lease base calls issued →
      Stage calls (some failure) none [] issued commits rejected
  | abandoned {commits ticket call proposal failure rejected} :
      Holds store lease base calls commits →
      Stage calls (some failure) none [(ticket, proposal.mutation)]
        (commits ++ [(call, proposal)]) commits rejected

end Stages

section Calls
variable {platform : Platform} {store : StoreImplementation} {hash : Hash}
  {Inv : store.State → Prop}
  {lease : RunLeaseToken} {base : List RunEvent} {calls : List (StoreCall × Nat)} {clock : Nat}
  {commits : List (Commit × Proposal)} {call : Commit} {proposal : Proposal}

theorem Holds.other_call (holds : Holds store lease base calls commits)
    (journals : store.Journals hash Inv) (fences : store.Fences)
    (answers : store.Answers platform)
    (granted : store.HasGranted (store.after calls) lease) {made : StoreCall}
    (other : ∀ input, made = .commit input → input.lease ≠ lease) :
    Holds store lease base (calls ++ [(made, clock)]) commits := by
  refine ⟨holds.kept.trans (journals.history_prefix _ _ _), fun now => ?_⟩
  obtain ⟨held, same⟩ := journals.other_call fences answers granted other now
  rw [same, holds.whole held]

/-- The commit that the session has put to the store, when the store accepts it. -/
theorem Holds.own_commit {workflow : WorkflowDefinition}
    (holds : Holds store lease base calls commits)
    (journals : store.Journals hash Inv) (fences : store.Fences)
    (answers : store.Answers platform)
    (proposed : Proposed platform workflow lease (base ++ written commits) call proposal)
    (separates : ∀ committed ∈ store.journal calls lease.runId,
      hash.Separates proposal.mutation committed.mutation) {result : StoreResult}
    (accepted : (store.perform (.commit proposal.mutation) clock (store.after calls)).1 =
      .ok result) :
    Holds store lease base (calls ++ [(.commit proposal.mutation, clock)])
      (commits ++ [(call, proposal)]) := by
  obtain ⟨held, appended⟩ := journals.own_commit fences answers proposed.lease
    (fun held => by rw [holds.whole held, proposed.expected]) separates accepted
  have whole : store.history (store.after (calls ++ [(.commit proposal.mutation, clock)]))
      lease.runId = base ++ written (commits ++ [(call, proposal)]) := by
    rw [appended, holds.whole held, written_concat, List.append_assoc]
  exact ⟨⟨[], (List.append_nil _).trans whole.symm⟩, fun _ => whole⟩

theorem Holds.failed_commit (holds : Holds store lease base calls commits)
    (journals : store.Journals hash Inv) {input : FencedRunMutation} {failure : Failure}
    (failed : (store.perform (.commit input) clock (store.after calls)).1 = .error failure) :
    Holds store lease base (calls ++ [(.commit input, clock)]) commits := by
  have same := journals.failed_commit failed
  exact ⟨by rw [same]; exact holds.kept, by rw [same]; exact holds.whole⟩

/-- The commit on its way, by what the store makes of it. -/
theorem Holds.perform {workflow : WorkflowDefinition}
    (holds : Holds store lease base calls commits)
    (journals : store.Journals platform.hash Inv) (fences : store.Fences)
    (answers : store.Answers platform)
    (proposed : Proposed platform workflow lease (base ++ written commits) call proposal)
    (separates : ∀ committed ∈ store.journal calls lease.runId,
      platform.hash.Separates proposal.mutation committed.mutation) :
    (∃ failure, (store.perform (.commit proposal.mutation) clock (store.after calls)).1 =
        .error failure ∧
      Holds store lease base (calls ++ [(.commit proposal.mutation, clock)]) commits) ∨
    ∃ result, (store.perform (.commit proposal.mutation) clock (store.after calls)).1 =
        .ok result ∧
      Holds store lease base (calls ++ [(.commit proposal.mutation, clock)])
        (commits ++ [(call, proposal)]) := by
  cases performed :
      (store.perform (.commit proposal.mutation) clock (store.after calls)).1 with
  | error failure => exact .inl ⟨failure, rfl, holds.failed_commit journals performed⟩
  | ok result =>
    exact .inr ⟨result, rfl, holds.own_commit journals fences answers proposed separates performed⟩

end Calls

section Moves
variable {platform : Platform} {store : StoreImplementation} {hash : Hash}
  {Inv : store.State → Prop}
  {lease : RunLeaseToken} {base : List RunEvent} {calls : List (StoreCall × Nat)} {clock : Nat}
  {failed : Option Failure} {running : Option Running} {inFlight : List (Nat × FencedRunMutation)}
  {issued resolved : List (Commit × Proposal)} {rejected : List (Commit × Failure)}
  {ticket : Nat} {call : Commit} {proposal : Proposal}

theorem Running.hear_own (result : Except Failure StoreResult) :
    (Running.racing ticket call proposal none).hear ticket result =
      .racing ticket call proposal (some result) := by
  rw [Running.hear, if_pos rfl]

namespace Stage

theorem other_call
    (stage : Stage store lease base calls failed running inFlight issued resolved rejected)
    (journals : store.Journals hash Inv) (fences : store.Fences)
    (answers : store.Answers platform)
    (granted : store.HasGranted (store.after calls) lease) {made : StoreCall}
    (other : ∀ input, made = .commit input → input.lease ≠ lease) :
    Stage store lease base (calls ++ [(made, clock)]) failed running inFlight issued resolved
      rejected := by
  have kept {commits : List (Commit × Proposal)} (holds : Holds store lease base calls commits) :
      Holds store lease base (calls ++ [(made, clock)]) commits :=
    holds.other_call journals fences answers granted other
  cases stage with
  | idle holds => exact .idle (kept holds)
  | racing holds => exact .racing (kept holds)
  | accepted holds => exact .accepted (kept holds)
  | refused holds => exact .refused (kept holds)
  | passed holds => exact .passed (kept holds)
  | failed left holds => exact .failed left (holds.imp kept kept)
  | abandoned holds => exact .abandoned (kept holds)

/-- The commit that the tail works on, or the next one, is rejected. -/
theorem reject
    (stage : Stage store lease base calls failed running inFlight issued resolved rejected)
    (failure : Failure) (more : List (Commit × Failure)) :
    Stage store lease base calls (some failure) none inFlight issued resolved
      (rejected ++ more) := by
  cases stage with
  | idle holds => exact .failed (.inl rfl) (.inl holds)
  | racing holds => exact .abandoned holds
  | accepted holds => exact .failed (.inr ⟨_, rfl⟩) (.inr holds)
  | refused holds => exact .failed (.inr ⟨_, rfl⟩) (.inl holds)
  | passed holds => exact .failed (.inr ⟨_, rfl⟩) (.inr holds)
  | failed left holds => exact .failed left holds
  | abandoned holds => exact .abandoned holds

theorem issue
    (stage : Stage store lease base calls none none inFlight issued resolved rejected)
    (ticket : Nat) (call : Commit) (proposal : Proposal) :
    Stage store lease base calls none (some (.racing ticket call proposal none))
      (inFlight ++ [(ticket, proposal.mutation)]) (issued ++ [(call, proposal)]) resolved
      rejected := by
  cases stage with
  | idle holds => exact .racing holds

theorem idle_issued
    (stage : Stage store lease base calls none none inFlight issued resolved rejected) :
    issued = resolved ∧ inFlight = [] := by
  cases stage with
  | idle => exact ⟨rfl, rfl⟩

theorem pass {result : StoreResult}
    (stage : Stage store lease base calls failed
      (some (.racing ticket call proposal (some (.ok result)))) inFlight issued resolved rejected) :
    Stage store lease base calls failed (some (.passed call proposal)) inFlight issued resolved
      rejected := by
  cases stage with
  | accepted holds => exact .passed holds

theorem update
    (stage : Stage store lease base calls failed (some (.passed call proposal)) inFlight issued
      resolved rejected) :
    Stage store lease base calls failed none inFlight issued (resolved ++ [(call, proposal)])
      rejected ∧ issued = resolved ++ [(call, proposal)] ∧ rejected = [] := by
  cases stage with
  | passed holds => exact ⟨.idle holds, rfl, rfl⟩

theorem getElem?_one {α : Type} {a b : α} {i : Nat} (found : [a][i]? = some b) :
    i = 0 ∧ a = b := by
  cases i with
  | zero => exact ⟨rfl, Option.some.inj found⟩
  | succ i => cases found

/-- The store performs the commit that is on its way, whether it is still waited for or not. -/
theorem perform {workflow : WorkflowDefinition} {index : Nat}
    {mutation : FencedRunMutation}
    (stage : Stage store lease base calls failed running inFlight issued resolved rejected)
    (journals : store.Journals platform.hash Inv) (fences : store.Fences)
    (answers : store.Answers platform)
    (proposed : ∀ earlier call proposal later, issued = earlier ++ (call, proposal) :: later →
      Proposed platform workflow lease (base ++ written earlier) call proposal)
    (separates : ∀ commit ∈ issued, ∀ committed ∈ store.journal calls lease.runId,
      platform.hash.Separates commit.2.mutation committed.mutation)
    (next : inFlight[index]? = some (ticket, mutation)) :
    Stage store lease base (calls ++ [(.commit mutation, clock)]) failed
      (running.map (Running.hear ticket
        (store.perform (.commit mutation) clock (store.after calls)).1))
      (inFlight.eraseIdx index) issued resolved rejected := by
  cases stage with
  | idle | accepted | refused | passed | failed => cases next
  | @racing _ own call proposal holds =>
    obtain ⟨rfl, same⟩ := getElem?_one next
    cases same
    rcases holds.perform journals fences answers (proposed _ call proposal [] rfl)
        (separates (call, proposal) List.mem_concat_self) with
      ⟨failure, failed, holds⟩ | ⟨result, done, holds⟩
    · rw [Option.map_some, Running.hear_own, failed]
      exact .refused holds
    · rw [Option.map_some, Running.hear_own, done]
      exact .accepted holds
  | @abandoned _ own call proposal failure rejected holds =>
    obtain ⟨rfl, same⟩ := getElem?_one next
    cases same
    rcases holds.perform journals fences answers (proposed _ call proposal [] rfl)
        (separates (call, proposal) List.mem_concat_self) with ⟨_, _, holds⟩ | ⟨_, _, holds⟩
    · exact .failed (.inr ⟨_, rfl⟩) (.inl holds)
    · exact .failed (.inr ⟨_, rfl⟩) (.inr holds)

end Stage
end Moves

/-- What a session and its store keep through every turn. -/
structure Invariant (platform : Platform) (store : StoreImplementation)
    (workflow : WorkflowDefinition) (lease : RunLeaseToken) (base : List RunEvent) (s : World) :
    Prop where
  owner : s.session.lease = lease
  definition : s.session.workflow = workflow
  granted : store.HasGranted (store.after s.calls) lease
  queue : s.called = s.resolved.map Prod.fst ++ s.rejected.map Prod.fst ++
    s.running.toList.map Running.call ++ s.waiting
  proposed : ∀ earlier call proposal later, s.issued = earlier ++ (call, proposal) :: later →
    Proposed platform workflow lease (base ++ written earlier) call proposal
  folded : replayRun (base ++ written s.resolved) = .ok s.session.currentState
  digest : s.session.prefixDigest = extendPrefix platform.hash
    platform.hash.emptyEventHistoryDigest (base ++ written s.resolved)
  stage : Stage store lease base s.calls s.session.mutationFailure s.running s.inFlight s.issued
    s.resolved s.rejected

namespace Invariant
variable {platform : Platform} {store : StoreImplementation} {Inv : store.State → Prop}
  {workflow : WorkflowDefinition} {lease : RunLeaseToken} {base : List RunEvent} {s : World}
  {clock : Nat}

theorem other_call (inv : Invariant platform store workflow lease base s)
    (journals : store.Journals platform.hash Inv) (fences : store.Fences)
    (answers : store.Answers platform)
    {made : StoreCall} (other : ∀ input, made = .commit input → input.lease ≠ lease) :
    Invariant platform store workflow lease base (s.performed made clock) := by
  refine ⟨inv.owner, inv.definition, ?_, inv.queue, inv.proposed, inv.folded, inv.digest, ?_⟩
  · rw [World.performed, store.after_concat]
    exact fences.hasGranted made clock inv.granted
  · exact inv.stage.other_call journals fences answers inv.granted other

/-- A rejection of the commit at the head leaves it to the store where it is there. -/
theorem reject (inv : Invariant platform store workflow lease base s) (call : Commit)
    (failure : Failure) {waiting : List Commit}
    (head : s.running.toList.map Running.call ++ s.waiting = call :: waiting) :
    Invariant platform store workflow lease base
      ({ s with waiting }.reject call failure) := by
  refine ⟨inv.owner, inv.definition, inv.granted, ?_, inv.proposed, inv.folded, inv.digest,
    inv.stage.reject failure _⟩
  rw [World.reject, inv.queue, List.append_assoc, head]
  simp

theorem start (inv : Invariant platform store workflow lease base s) :
    Invariant platform store workflow lease base (s.start platform) := by
  rw [World.start]
  split
  case h_2 => exact inv
  case h_1 call rest idle queued =>
    cases proposed : propose platform s.session call with
    | error failure => exact inv.reject call failure (by rw [idle, queued]; rfl)
    | ok proposal =>
      obtain ⟨healthy, continued⟩ := propose_ok inv.folded inv.digest proposed
      have stage := inv.stage
      rw [idle, (healthy_iff.mp healthy).2.1] at stage
      obtain ⟨same, _⟩ := stage.idle_issued
      refine ⟨inv.owner, inv.definition, inv.granted, ?_, ?_, inv.folded, inv.digest, ?_⟩
      · rw [inv.queue, idle, queued]
        simp [Running.call]
      · intro earlier other made later split
        have split : s.issued ++ [(call, proposal)] = earlier ++ (other, made) :: later := split
        rcases List.eq_nil_or_concat later with rfl | ⟨more, last, rfl⟩
        · obtain ⟨rfl, found⟩ := List.append_inj' split rfl
          obtain ⟨rfl, rfl⟩ : call = other ∧ proposal = made := by simpa using found
          rw [same, ← inv.owner, ← inv.definition]
          exact continued
        · rw [List.concat_eq_append, ← List.cons_append, ← List.append_assoc] at split
          exact inv.proposed earlier other made more (List.append_inj' split rfl).1
      · rw [(healthy_iff.mp healthy).2.1]
        exact stage.issue _ call proposal

theorem perform (inv : Invariant platform store workflow lease base s)
    (journals : store.Journals platform.hash Inv) (fences : store.Fences)
    (answers : store.Answers platform)
    (separates : ∀ commit ∈ s.issued, ∀ committed ∈ store.journal s.calls lease.runId,
      platform.hash.Separates commit.2.mutation committed.mutation) (index : Nat) :
    Invariant platform store workflow lease base (s.perform store index clock) := by
  rw [World.perform]
  split
  case h_1 => exact inv
  case h_2 ticket mutation next =>
    refine ⟨inv.owner, inv.definition, ?_, ?_, inv.proposed, inv.folded, inv.digest, ?_⟩
    · rw [World.performed, store.after_concat]
      exact fences.hasGranted _ clock inv.granted
    · rw [World.performed, inv.queue]
      cases s.running with
      | none => rfl
      | some running =>
        cases running with
        | racing ticket call proposal answer => cases answer <;> rfl
        | passed call proposal => rfl
    · exact inv.stage.perform journals fences answers inv.proposed separates next

theorem answer (inv : Invariant platform store workflow lease base s) :
    Invariant platform store workflow lease base s.answer := by
  rw [World.answer]
  split
  case h_1 ticket call proposal failure running =>
    exact inv.reject call failure (by rw [running]; rfl)
  case h_2 ticket call proposal result running =>
    cases s.session.assertHealthy with
    | error failure => exact inv.reject call failure (by rw [running]; rfl)
    | ok _ =>
      have stage := inv.stage
      rw [running] at stage
      refine ⟨inv.owner, inv.definition, inv.granted, ?_, inv.proposed, inv.folded, inv.digest,
        stage.pass⟩
      rw [inv.queue, running]
      rfl
  case h_3 => exact inv

theorem abandon (inv : Invariant platform store workflow lease base s) :
    Invariant platform store workflow lease base s.abandon := by
  rw [World.abandon]
  split
  case h_1 ticket call proposal answer failure running failed =>
    exact inv.reject call _ (by rw [running]; rfl)
  case h_2 => exact inv

theorem update (inv : Invariant platform store workflow lease base s) :
    Invariant platform store workflow lease base s.update := by
  rw [World.update]
  split
  case h_2 => exact inv
  case h_1 call proposal running =>
    have stage := inv.stage
    rw [running] at stage
    obtain ⟨through, issued, none_rejected⟩ := stage.update
    have continued := inv.proposed s.resolved call proposal [] issued
    refine ⟨inv.owner, inv.definition, inv.granted, ?_, inv.proposed, ?_, ?_, through⟩
    · rw [inv.queue, running, none_rejected]
      simp [Running.call]
    · rw [written_concat, ← List.append_assoc]
      exact continued.folded
    · rw [written_concat, ← List.append_assoc]
      exact continued.digest

/-- The invariant does not look at the heartbeat, nor at the flags that only stop commits. -/
theorem calm (inv : Invariant platform store workflow lease base s) (heartbeat : Heartbeat)
    (stopped : Bool) (heartbeatFailure : Option Failure) :
    Invariant platform store workflow lease base
      { s with heartbeat, session := { s.session with stopped, heartbeatFailure } } :=
  ⟨inv.owner, inv.definition, inv.granted, inv.queue, inv.proposed, inv.folded, inv.digest,
    inv.stage⟩

theorem step (inv : Invariant platform store workflow lease base s)
    (journals : store.Journals platform.hash Inv) (fences : store.Fences)
    (answers : store.Answers platform)
    (separates : ∀ commit ∈ s.issued, ∀ committed ∈ store.journal s.calls lease.runId,
      platform.hash.Separates commit.2.mutation committed.mutation) (turn : Turn)
    (other : ∀ call clock, turn = .other call clock →
      ∀ input, call = .commit input → input.lease ≠ lease) :
    Invariant platform store workflow lease base (OwnedSession.step platform store s turn) := by
  cases turn with
  | commit call =>
    rw [OwnedSession.step]
    split
    · exact inv
    · refine ⟨inv.owner, inv.definition, inv.granted, ?_, inv.proposed, inv.folded, inv.digest,
        inv.stage⟩
      rw [inv.queue, List.append_assoc _ s.waiting]
  | start => exact inv.start
  | perform index clock => exact inv.perform journals fences answers separates index
  | answer => exact inv.answer
  | abandon => exact inv.abandon
  | update => exact inv.update
  | wake =>
    rw [OwnedSession.step, World.wake]
    split
    · exact inv.calm _ _ _
    · exact inv
  | renew clock =>
    rw [OwnedSession.step, World.renew]
    split
    · have quiet : ∀ input, StoreCall.renew s.session.lease = .commit input →
          input.lease ≠ lease := by
        intro input same
        cases same
      exact (inv.other_call journals fences answers quiet).calm _ _ _
    · exact inv
  | beat =>
    rw [OwnedSession.step, World.beat]
    split
    · exact inv.calm _ _ _
    · exact inv.calm _ _ _
    · exact inv
  | stop => exact inv.calm s.heartbeat true s.session.heartbeatFailure
  | other call clock => exact inv.other_call journals fences answers (other call clock rfl)

end Invariant

theorem propose_healthy {platform : Platform} {session : OwnedRunSession} {call : Commit}
    {proposal : Proposal} (proposed : propose platform session call = .ok proposal) :
    session.Healthy := by
  simp only [propose, bind_ok] at proposed
  obtain ⟨_, healthy, _⟩ := proposed
  exact healthy

section Steps
variable {platform : Platform} {store : StoreImplementation}

/-- A session that is not healthy stays so and puts no further commit to the store. -/
theorem step_unhealthy {s : World} (unhealthy : ¬ s.session.Healthy) (turn : Turn) :
    ¬ (step platform store s turn).session.Healthy ∧
      (step platform store s turn).issued = s.issued := by
  have rejected (t : World) (call : Commit) (failure : Failure) :
      ¬ (t.reject call failure).session.Healthy := by
    simp [healthy_iff, World.reject]
  cases turn with
  | commit call =>
    rw [step]
    split <;> exact ⟨unhealthy, rfl⟩
  | start =>
    rw [step, World.start]
    split
    · cases proposed : propose platform s.session _ with
      | error failure => exact ⟨rejected _ _ _, rfl⟩
      | ok proposal => exact absurd (propose_healthy proposed) unhealthy
    · exact ⟨unhealthy, rfl⟩
  | perform index clock =>
    rw [step, World.perform]
    split <;> exact ⟨unhealthy, rfl⟩
  | answer =>
    rw [step, World.answer]
    split
    · exact ⟨rejected _ _ _, rfl⟩
    · split
      · exact ⟨rejected _ _ _, rfl⟩
      · exact ⟨unhealthy, rfl⟩
    · exact ⟨unhealthy, rfl⟩
  | abandon =>
    rw [step, World.abandon]
    split
    · exact ⟨rejected _ _ _, rfl⟩
    · exact ⟨unhealthy, rfl⟩
  | update =>
    rw [step, World.update]
    split
    · refine ⟨?_, rfl⟩
      rw [healthy_iff] at unhealthy ⊢
      exact unhealthy
    · exact ⟨unhealthy, rfl⟩
  | wake =>
    rw [step, World.wake]
    split <;> exact ⟨unhealthy, rfl⟩
  | renew clock =>
    rw [step, World.renew]
    split <;> exact ⟨unhealthy, rfl⟩
  | beat =>
    rw [step, World.beat]
    split
    · exact ⟨unhealthy, rfl⟩
    · exact ⟨by simp [healthy_iff], rfl⟩
    · exact ⟨unhealthy, rfl⟩
  | stop => exact ⟨by simp [step, healthy_iff], rfl⟩
  | other call clock => exact ⟨unhealthy, rfl⟩

theorem run_unhealthy {s : World} (unhealthy : ¬ s.session.Healthy) (turns : List Turn) :
    (run platform store s turns).issued = s.issued := by
  induction turns generalizing s with
  | nil => rfl
  | cons turn rest ih =>
    obtain ⟨still, same⟩ := step_unhealthy unhealthy turn
    exact (ih still).trans same

/-- The logs only grow. -/
theorem step_grows (s : World) (turn : Turn) :
    s.issued <+: (step platform store s turn).issued ∧
      s.calls <+: (step platform store s turn).calls := by
  have same : s.issued <+: s.issued ∧ s.calls <+: s.calls :=
    ⟨List.prefix_rfl, List.prefix_rfl⟩
  cases turn with
  | commit call =>
    rw [step]
    split <;> exact same
  | start =>
    rw [step, World.start]
    split
    · split
      · exact same
      · exact ⟨List.prefix_append _ _, List.prefix_rfl⟩
    · exact same
  | perform index clock =>
    rw [step, World.perform]
    split
    · exact same
    · exact ⟨List.prefix_rfl, List.prefix_append _ _⟩
  | answer =>
    rw [step, World.answer]
    split
    · exact same
    · split <;> exact same
    · exact same
  | abandon =>
    rw [step, World.abandon]
    split <;> exact same
  | update =>
    rw [step, World.update]
    split <;> exact same
  | wake =>
    rw [step, World.wake]
    split <;> exact same
  | renew clock =>
    rw [step, World.renew]
    split
    · exact ⟨List.prefix_rfl, List.prefix_append _ _⟩
    · exact same
  | beat =>
    rw [step, World.beat]
    split <;> exact same
  | stop => exact same
  | other call clock => exact ⟨List.prefix_rfl, List.prefix_append _ _⟩

theorem run_grows (s : World) (turns : List Turn) :
    s.calls <+: (run platform store s turns).calls := by
  induction turns generalizing s with
  | nil => exact List.prefix_rfl
  | cons turn rest ih => exact (step_grows s turn).2.trans (ih _)

end Steps
end Anastom.OwnedSession
