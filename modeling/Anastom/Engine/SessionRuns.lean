import Anastom.Core.JsonText
import Anastom.Engine.SessionCoherence
import Anastom.Persistence.StoredDefinitions

/-! Whole runs of an owned session over either store, from the moment it is opened. -/
namespace Anastom.OwnedSession
open Json

/-- A session whose lease is in force and which knows the definition and the history of its run. -/
structure Opened (platform : Platform) (store : StoreImplementation)
    (calls : List (StoreCall × Nat)) (session : OwnedRunSession) : Prop where
  inForce : store.InForce (store.after calls) session.lease
  definition : store.Defines (store.after calls) session.lease.runId session.workflow
  folded : replayRun (store.history (store.after calls) session.lease.runId) =
    .ok session.currentState
  digest : session.prefixDigest = extendPrefix platform.hash platform.hash.emptyEventHistoryDigest
    (store.history (store.after calls) session.lease.runId)
  unfailed : session.mutationFailure = none

/-- The session of a run that has just been created. -/
def ownedSession (input : CreateOwnedRun) (receipt : OwnedRunReceipt) (state : RunState) :
    OwnedRunSession :=
  { lease := receipt.lease
    workflow := input.workflow
    currentState := state
    prefixDigest := input.snapshot.eventPrefixDigest }

theorem opened_created {platform : Platform} {store : StoreImplementation}
    {Inv : store.State → Prop} (journals : store.Journals platform.hash Inv)
    (fences : store.Fences) (answers : store.Answers platform) (definitions : store.Definitions)
    {calls : List (StoreCall × Nat)} {clock : Nat} {input : CreateOwnedRun} {receipt : OwnedRunReceipt} {state : RunState}
    (created : (store.perform (.createOwned input) clock (store.after calls)).1 =
      .ok (.created receipt)) (folded : replayRun input.initialEvents = .ok state) :
    Opened platform store (calls ++ [(.createOwned input, clock)])
      (ownedSession input receipt state) := by
  obtain ⟨sameRun, inForce, history⟩ := journals.created fences answers created
  obtain ⟨valid, _⟩ := answers.created _ _ _ _ created
  obtain ⟨_, _, _, snapshot, _⟩ := validateCreateOwnedRun_ok.mp valid
  obtain ⟨expected, made, same⟩ := assertRunSnapshot_ok.mp snapshot
  obtain ⟨_, _, _, _, _, rfl⟩ := createRunSnapshot_ok.mp made
  simp only [RunSnapshot.same, Bool.and_eq_true, beq_iff_eq] at same
  refine ⟨inForce, ?_, ?_, ?_, rfl⟩
  · rw [ownedSession, sameRun, store.after_concat]
    exact definitions.created _ _ _ _ created
  · rw [ownedSession, sameRun, history, folded]
  · rw [ownedSession, sameRun, history, same.2]
    rfl

/-- What holds at every moment of a session opened on `base`. -/
structure Coherent (platform : Platform) (store : StoreImplementation)
    (base : List RunEvent) (s : World) : Prop where
  /-- Commits come out in the order of their calls, and once one is rejected all later ones are. -/
  inOrder : s.called = s.resolved.map Prod.fst ++ s.rejected.map Prod.fst ++
    s.running.toList.map Running.call ++ s.waiting
  oneAtATime : s.inFlight.length ≤ 1 ∧ ∃ last, s.issued = s.resolved ++ last ∧ last.length ≤ 1
  proposed : ∀ earlier call proposal later, s.issued = earlier ++ (call, proposal) :: later →
    Proposed platform s.session.workflow s.session.lease (base ++ written earlier) call proposal
  /-- The store's own definition accepts the snapshots, once it is accepted itself. -/
  checked : ∃ stored,
    store.definition (store.after s.calls) s.session.lease.runId = some stored ∧
    (assertWorkflowDefinition platform.ajv stored = true →
      ∀ earlier call proposal later, s.issued = earlier ++ (call, proposal) :: later →
        Proposed platform stored s.session.lease (base ++ written earlier) call proposal)
  kept : base ++ written s.resolved <+: store.history (store.after s.calls) s.session.lease.runId
  inForce : store.InForce (store.after s.calls) s.session.lease →
    store.history (store.after s.calls) s.session.lease.runId = base ++ written s.resolved ∨
    store.history (store.after s.calls) s.session.lease.runId = base ++ written s.issued
  current : s.session.Healthy → s.running = none →
    store.InForce (store.after s.calls) s.session.lease →
    s.inFlight = [] ∧
      replayRun (store.history (store.after s.calls) s.session.lease.runId) =
        .ok s.session.currentState ∧
      s.session.prefixDigest = extendPrefix platform.hash platform.hash.emptyEventHistoryDigest
        (store.history (store.after s.calls) s.session.lease.runId)

section Stages
variable {store : StoreImplementation} {lease : RunLeaseToken} {base : List RunEvent}
  {calls : List (StoreCall × Nat)} {failed : Option Failure} {running : Option Running}
  {inFlight : List (Nat × FencedRunMutation)} {issued resolved : List (Commit × Proposal)}
  {rejected : List (Commit × Failure)}

theorem Stage.oneAtATime
    (stage : Stage store lease base calls failed running inFlight issued resolved rejected) :
    inFlight.length ≤ 1 ∧ ∃ last, issued = resolved ++ last ∧ last.length ≤ 1 := by
  cases stage with
  | idle => exact ⟨Nat.zero_le _, [], (List.append_nil _).symm, Nat.zero_le _⟩
  | racing | abandoned => exact ⟨Nat.le_refl _, _, rfl, Nat.le_refl _⟩
  | accepted | refused | passed => exact ⟨Nat.zero_le _, _, rfl, Nat.le_refl _⟩
  | failed left =>
    refine ⟨Nat.zero_le _, ?_⟩
    rcases left with rfl | ⟨last, rfl⟩
    · exact ⟨[], (List.append_nil _).symm, Nat.zero_le _⟩
    · exact ⟨[last], rfl, Nat.le_refl _⟩

/-- The store holds the commits that are through, or those that were put to it. -/
theorem Stage.holds
    (stage : Stage store lease base calls failed running inFlight issued resolved rejected) :
    Holds store lease base calls resolved ∨ Holds store lease base calls issued := by
  cases stage with
  | idle holds | racing holds | refused holds | abandoned holds => exact .inl holds
  | accepted holds | passed holds => exact .inr holds
  | failed _ holds => exact holds

theorem Stage.idle_holds
    (stage : Stage store lease base calls none none inFlight issued resolved rejected) :
    inFlight = [] ∧ Holds store lease base calls resolved := by
  cases stage with
  | idle holds => exact ⟨rfl, holds⟩

end Stages

section Runs
variable {platform : Platform} {store : StoreImplementation} {Inv : store.State → Prop}
  {workflow : WorkflowDefinition} {lease : RunLeaseToken} {base : List RunEvent} {s : World}

theorem Proposed.alike {stored : WorkflowDefinition} {call : Commit} {proposal : Proposal}
    (proposed : Proposed platform workflow lease base call proposal)
    (alike : stored.Alike workflow)
    (accepted : assertWorkflowDefinition platform.ajv stored = true) :
    Proposed platform stored lease base call proposal :=
  { proposed with
    snapshot := fun snapshot attached => alike.snapshot accepted (proposed.snapshot snapshot attached) }

theorem Invariant.coherent (inv : Invariant platform store workflow lease base s)
    (defines : store.Defines (store.after s.calls) lease.runId workflow) :
    Coherent platform store base s := by
  obtain ⟨single, last, issued, short⟩ := inv.stage.oneAtATime
  refine ⟨inv.queue, ⟨single, last, issued, short⟩, ?_, ?_, ?_, ?_, ?_⟩
  · rw [inv.owner, inv.definition]
    exact inv.proposed
  · obtain ⟨stored, known, alike⟩ := defines
    rw [inv.owner]
    refine ⟨stored, known, fun accepted earlier call proposal later split => ?_⟩
    exact (inv.proposed earlier call proposal later split).alike alike accepted
  · rw [inv.owner]
    rcases inv.stage.holds with holds | holds
    · exact holds.kept
    · refine List.IsPrefix.trans ?_ holds.kept
      rw [issued, written, written, List.flatMap_append, ← List.append_assoc]
      exact List.prefix_append _ _
  · rw [inv.owner]
    intro inForce
    exact inv.stage.holds.imp (fun holds => holds.whole inForce) fun holds => holds.whole inForce
  · rw [inv.owner]
    intro healthy idle inForce
    have stage := inv.stage
    rw [idle, (healthy_iff.mp healthy).2.1] at stage
    obtain ⟨none_left, holds⟩ := stage.idle_holds
    rw [holds.whole inForce]
    exact ⟨none_left, inv.folded, inv.digest⟩

theorem Opened.invariant {calls : List (StoreCall × Nat)} {session : OwnedRunSession}
    (opened : Opened platform store calls session) :
    Invariant platform store session.workflow session.lease
      (store.history (store.after calls) session.lease.runId) { calls, session } := by
  have nothing : store.history (store.after calls) session.lease.runId ++ written [] =
      store.history (store.after calls) session.lease.runId := List.append_nil _
  refine ⟨rfl, rfl, opened.inForce.hasGranted, rfl, ?_, ?_, ?_, ?_⟩
  · intro earlier call proposal later split
    exact absurd split.symm (by simp)
  · rw [nothing]
    exact opened.folded
  · rw [nothing]
    exact opened.digest
  · rw [opened.unfailed]
    exact .idle ⟨⟨[], (List.append_nil _).trans nothing⟩, fun _ => nothing.symm⟩

theorem run_concat (turns : List Turn) (turn : Turn) :
    run platform store s (turns ++ [turn]) =
      step platform store (run platform store s turns) turn := by
  rw [run, List.foldl_append]
  rfl

/-- The invariant over a run, given that no payload of a commit of the run is confused with one
that is recorded by its end. -/
theorem invariant_run (inv : Invariant platform store workflow lease base s)
    (journals : store.Journals platform.hash Inv) (fences : store.Fences)
    (answers : store.Answers platform) (turns : List Turn)
    (other : ∀ call clock, .other call clock ∈ turns →
      ∀ input, call = .commit input → input.lease ≠ lease)
    (separates : ∀ commit ∈ (run platform store s turns).issued,
      ∀ committed ∈ store.journal (run platform store s turns).calls lease.runId,
      platform.hash.Separates commit.2.mutation committed.mutation) :
    Invariant platform store workflow lease base (run platform store s turns) := by
  induction turns using List.reverseRecOn with
  | nil => exact inv
  | append_singleton turns turn ih =>
    rw [run_concat] at separates ⊢
    obtain ⟨issued, more, calls⟩ := @step_grows platform store (run platform store s turns) turn
    have before : ∀ commit ∈ (run platform store s turns).issued,
        ∀ committed ∈ store.journal (run platform store s turns).calls lease.runId,
        platform.hash.Separates commit.2.mutation committed.mutation := by
      intro commit member committed recorded
      refine separates commit (issued.subset member) committed ?_
      rw [← calls]
      exact (store.journal_prefix _ more _).subset recorded
    refine (ih ?_ before).step journals fences answers before turn ?_
    · intro call clock member
      exact other call clock (List.mem_append_left _ member)
    · rintro call clock rfl
      exact other call clock List.mem_concat_self

end Runs

/-- In every interleaving of commits, heartbeats, store answers, `stop` and the calls of other
clients, a session stays coherent with the run it was opened on; and from the moment at which it
is not healthy, by a failed renewal, a failed commit or `stop`, it puts no further commit to the
store. Only the session commits under its token. -/
theorem owned_session_coherent (platform : Platform) (kind : StoreKind)
    {calls : List (StoreCall × Nat)} {session : OwnedRunSession} (turns : List Turn)
    (opened : Opened platform (durableStore platform kind) calls session)
    (private_token : ∀ call clock, .other call clock ∈ turns →
      ∀ input, call = .commit input → input.lease ≠ session.lease)
    (separates : ∀ commit ∈ (run platform (durableStore platform kind) { calls, session }
        turns).issued,
      ∀ committed ∈ (durableStore platform kind).journal
        (run platform (durableStore platform kind) { calls, session } turns).calls
        session.lease.runId,
      platform.hash.Separates commit.2.mutation committed.mutation) :
    Coherent platform (durableStore platform kind)
      ((durableStore platform kind).history ((durableStore platform kind).after calls)
        session.lease.runId)
      (run platform (durableStore platform kind) { calls, session } turns) ∧
    ∀ before later, turns = before ++ later →
      ¬ (run platform (durableStore platform kind) { calls, session } before).session.Healthy →
      (run platform (durableStore platform kind) { calls, session } turns).issued =
        (run platform (durableStore platform kind) { calls, session } before).issued := by
  obtain ⟨Inv, journals⟩ := durableStore_journals platform kind
  have inv := invariant_run opened.invariant journals (durableStore_fences platform kind)
    (durableStore_answers platform kind) turns private_token separates
  have defines : (durableStore platform kind).Defines ((durableStore platform kind).after
      (run platform (durableStore platform kind) { calls, session } turns).calls)
      session.lease.runId session.workflow := by
    obtain ⟨more, grown⟩ := run_grows { calls, session } turns
    rw [← grown]
    exact (durableStore_definitions platform kind).after opened.definition more
  refine ⟨inv.coherent defines, ?_⟩
  rintro before later rfl unhealthy
  rw [run, List.foldl_append]
  exact run_unhealthy unhealthy later

/-- A payload text ends with the text of its snapshot. -/
theorem mutationPayload_tail (input : FencedRunMutation) :
    ∃ front, canonicalChars (mutationPayload input) =
      front ++ (canonicalChars (orNull RunSnapshot.identity input.snapshot) ++ ['}']) := by
  have early : keyLe "events" "handlesControlOperationId" = true := by decide +kernel
  have middle : keyLe "expectedSequence" "handlesControlOperationId" = true := by decide +kernel
  have swapped : keyLe "expectedSequence" "events" = false := by decide +kernel
  have last : keyLe "snapshot" "handlesControlOperationId" = false := by decide +kernel
  have sorted (a b c d : List Char) :
      sortFields [("expectedSequence", a), ("events", b), ("snapshot", c),
        ("handlesControlOperationId", d)] = [("events", b), ("expectedSequence", a),
        ("handlesControlOperationId", d), ("snapshot", c)] := by
    simp [sortFields, List.insertionSort, early, middle, swapped, last]
  rw [mutationPayload, canonicalChars]
  simp only [fieldTexts, sorted, List.map_cons, List.map_nil, commaSeparated]
  exact ⟨'{' :: (stringChars "events" ++ ':' ::
      canonicalChars (.array (input.events.map RunEvent.toJson)) ++
    ',' :: (stringChars "expectedSequence" ++ ':' :: canonicalChars (.nat input.expectedSequence) ++
    ',' :: (stringChars "handlesControlOperationId" ++ ':' ::
      canonicalChars (orNull .string input.handlesControlOperationId) ++
    ',' :: (stringChars "snapshot" ++ [':'])))), by simp⟩

theorem object_tail (fields : List (String × JsonValue)) :
    ∃ front, canonicalChars (.object fields) ++ ['}'] = front ++ ['}', '}'] := by
  rw [canonicalChars, List.append_assoc]
  exact ⟨_, rfl⟩

theorem hexDigits_low {width left right : Nat}
    (same : hexDigits (width + 8) left = hexDigits (width + 8) right) :
    left % 4294967296 = right % 4294967296 := by
  have low {m n : Nat} (digit : Nat.digitChar (m % 16) = Nat.digitChar (n % 16)) :
      m % 16 = n % 16 :=
    digitChar_injective (Nat.mod_lt m (by decide)) (Nat.mod_lt n (by decide)) digit
  simp only [hexDigits, List.cons.injEq] at same
  obtain ⟨d0, d1, d2, d3, d4, d5, d6, d7, _⟩ := same
  have := low d0
  have := low d1
  have := low d2
  have := low d3
  have := low d4
  have := low d5
  have := low d6
  have := low d7
  omega

theorem rolling_low {p a : Nat} (small : a < 128) :
    ((p * 1114112 + a + 1) * 1114112 + 125 + 1) % 4294967296 = (a + 1) * 1114112 + 126 := by
  have split : (p * 1114112 + a + 1) * 1114112 + 125 + 1 =
      (a + 1) * 1114112 + 126 + 4294967296 * (289 * p) := by omega
  rw [split, Nat.add_mul_mod_self_left, Nat.mod_eq_of_lt (by omega)]

/-- Texts that differ in the character before the last have different rolling digests. -/
theorem rolling_separates {front front' : List Char} {c c' : Char} (ascii : c.toNat < 128)
    (ascii' : c'.toNat < 128) (same : Hash.rolling.digestBytes (String.ofList (front ++ [c, '}'])) =
      Hash.rolling.digestBytes (String.ofList (front' ++ [c', '}']))) : c.toNat = c'.toNat := by
  have digits := List.append_cancel_left (String.ofList_injective same)
  have values := @hexDigits_low 56 _ _ digits
  simp only [String.toList_ofList, List.foldl_append, List.foldl_cons, List.foldl_nil] at values
  have brace : '}'.toNat = 125 := rfl
  rw [brace, rolling_low ascii, rolling_low ascii'] at values
  omega

namespace Sample
open Anastom.Sample

theorem apart : platform.hash.Separates first (creationMutation creation) := by
  intro same
  obtain ⟨front, text⟩ := mutationPayload_tail first
  obtain ⟨front', text'⟩ := mutationPayload_tail (creationMutation creation)
  have null : canonicalChars (orNull RunSnapshot.identity first.snapshot) ++ ['}'] =
      ['n', 'u', 'l'] ++ ['l', '}'] := rfl
  obtain ⟨middle, identity⟩ := object_tail [
    ("version", .string "anastom.dev/run-snapshot/v1alpha1"),
    ("reducerVersion", .string "anastom.dev/run-reducer/v1alpha1"),
    ("runId", .string creation.snapshot.runId),
    ("definitionDigest", .string creation.snapshot.definitionDigest),
    ("sequence", JsonValue.nat creation.snapshot.sequence),
    ("stateDigest", .string creation.snapshot.stateDigest),
    ("eventPrefixDigest", .string creation.snapshot.eventPrefixDigest)]
  rw [null, ← List.append_assoc] at text
  have snapshot : canonicalChars (orNull RunSnapshot.identity
      (creationMutation creation).snapshot) ++ ['}'] = middle ++ ['}', '}'] := identity
  rw [snapshot, ← List.append_assoc] at text'
  have equal : Hash.rolling.digestBytes (String.ofList (canonicalChars (mutationPayload first))) =
    Hash.rolling.digestBytes
      (String.ofList (canonicalChars (mutationPayload (creationMutation creation)))) := same
  rw [text, text'] at equal
  exact absurd (rolling_separates (by decide) (by decide) equal) (by decide)

def store : StoreImplementation := durableStore platform .memory

def calls : List (StoreCall × Nat) := [(.createOwned creation, 1)]

def receipt : OwnedRunReceipt := { lease := first.lease, mutation := creationReceipt creation }

def session : OwnedRunSession := ownedSession creation receipt state

def advance : Commit :=
  { payloads := [.nodeReady "build" .dependenciesSatisfied], operationId := "advance" }

def readied : RunState :=
  { state with sequence := 2, nodes := [{ id := "build", status := .ready, attempts := [] }] }

def proposal : Proposal :=
  { mutation := first, state := readied,
    prefixDigest := extendPrefix platform.hash session.prefixDigest [ready] }

theorem materialized :
    materializeEvents (some state) "run" advance.payloads = .ok ([ready], readied) := by
  decide +kernel

theorem proposes : propose platform session advance = .ok proposal := by
  have current : materializeEvents (some session.currentState) session.lease.runId
      advance.payloads = .ok ([ready], readied) := materialized
  have healthy : session.assertHealthy = .ok () := rfl
  rw [propose, healthy, current]
  rfl

theorem created : (store.perform (.createOwned creation) 1 (store.after [])).1 =
    .ok (.created receipt) := congrArg Prod.fst creation_performed

theorem opened : Opened platform store calls session := by
  obtain ⟨Inv, journals⟩ := durableStore_journals platform .memory
  have folded : replayRun creation.initialEvents = .ok state := by decide +kernel
  exact opened_created journals (durableStore_fences _ _) (durableStore_answers _ _)
    (durableStore_definitions _ _) created folded

theorem after_calls : store.after calls = createdStore := by
  have performed : store.perform (.createOwned creation) 1 store.initial =
      MemoryStore.perform platform (.createOwned creation) 1 .empty := rfl
  rw [StoreImplementation.after, calls, StoreImplementation.finalState, performed,
    creation_performed]
  rfl

theorem accepted : (store.perform (.commit first) 2 (store.after calls)).1 =
    .ok (.committed (receiptFor first)) := by
  rw [after_calls]
  exact congrArg Prod.fst first_performed

/-- A commit that goes through while the lease is renewed once, and then `stop`. -/
def turns : List Turn :=
  [.commit advance, .start, .wake, .perform 0 2, .answer, .update, .stop]

def opening : World := { calls, session }

def racing : World :=
  { calls, session
    called := [advance], issued := [(advance, proposal)]
    running := some (.racing 0 advance proposal none), inFlight := [(0, first)] }

def heard : World :=
  { calls := calls ++ [(.commit first, 2)], session, heartbeat := .renewing
    called := [advance], issued := [(advance, proposal)]
    running := some (.racing 0 advance proposal (some (.ok (.committed (receiptFor first))))) }

def final : World :=
  { calls := calls ++ [(.commit first, 2)]
    session := { session with
      currentState := readied, prefixDigest := proposal.prefixDigest, stopped := true }
    heartbeat := .renewing
    called := [advance], issued := [(advance, proposal)], resolved := [(advance, proposal)] }

theorem begins : step platform store (step platform store opening (.commit advance)) .start =
    racing := by
  have queued : step platform store opening (.commit advance) =
      { opening with waiting := [advance], called := [advance] } := rfl
  rw [queued, step, World.start]
  simp only [opening, proposes]
  rfl

theorem hears : step platform store (step platform store racing .wake) (.perform 0 2) =
    heard := by
  have answered : World.result store (step platform store racing .wake) (.commit first) 2 =
      .ok (.committed (receiptFor first)) := accepted
  have next : (step platform store racing .wake).inFlight[0]? = some (0, first) := rfl
  rw [step, World.perform, next]
  simp only [answered]
  rfl

theorem ends : run platform store heard [.answer, .update, .stop] = final := by
  have healthy : session.assertHealthy = .ok () := rfl
  simp only [run, List.foldl_cons, List.foldl_nil, step, World.answer, heard, healthy,
    World.update]
  rfl

theorem run_turns : run platform store opening turns = final := by
  have split : run platform store opening turns =
      run platform store (step platform store (step platform store
        (step platform store (step platform store opening (.commit advance)) .start) .wake)
        (.perform 0 2)) [.answer, .update, .stop] := by
    simp only [run, turns, List.foldl_cons, List.foldl_nil]
  rw [split, begins, hears, ends]

theorem recorded : ∀ committed ∈ store.journal final.calls session.lease.runId,
    committed.mutation = creationMutation creation ∨ committed.mutation = first := by
  have created_entry : store.journal calls session.lease.runId =
      [⟨creationMutation creation, creationReceipt creation⟩] := by
    have entered := store.journal_concat [] (.createOwned creation) 1 session.lease.runId
    rw [created] at entered
    exact entered
  have entered := store.journal_concat calls (.commit first) 2 session.lease.runId
  rw [accepted, created_entry] at entered
  intro committed member
  have known : store.journal final.calls session.lease.runId =
      [⟨creationMutation creation, creationReceipt creation⟩, ⟨first, receiptFor first⟩] := entered
  rw [known] at member
  simp only [List.mem_cons, List.not_mem_nil, or_false] at member
  rcases member with rfl | rfl
  · exact .inl rfl
  · exact .inr rfl

end Sample

theorem owned_session_coherent_advance : Sample.final.resolved ≠ [] ∧
    Coherent Sample.platform Sample.store
      (Sample.store.history (Sample.store.after Sample.calls) Sample.session.lease.runId)
      Sample.final := by
  have separates :
      ∀ commit ∈ (run Sample.platform Sample.store Sample.opening Sample.turns).issued,
      ∀ committed ∈ Sample.store.journal
        (run Sample.platform Sample.store Sample.opening Sample.turns).calls
        Sample.session.lease.runId,
      Sample.platform.hash.Separates commit.2.mutation committed.mutation := by
    rw [Sample.run_turns]
    intro commit member committed found
    have same : commit = (Sample.advance, Sample.proposal) := by
      simpa [Sample.final] using member
    subst same
    rcases Sample.recorded committed found with creation | own
    · rw [creation]
      exact Sample.apart
    · rw [own]
      intro _
      rfl
  have coherent := (owned_session_coherent Sample.platform .memory Sample.turns Sample.opened
    (by simp [Sample.turns]) separates).1
  have ended := Sample.run_turns
  rw [Sample.opening, Sample.store] at ended
  rw [ended] at coherent
  exact ⟨by simp [Sample.final], coherent⟩

end Anastom.OwnedSession
