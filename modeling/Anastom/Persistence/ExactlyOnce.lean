import Anastom.Persistence.MemoryJournal
import Anastom.Persistence.SqliteJournal

/-! Every operation takes effect once: whatever the order of first attempts, retries,
owners and failures, the stored history is the journal of first successes, and a
retry reads it or is rejected. -/
namespace Anastom

/-- SHA-256 does not confuse two payload texts. -/
def Hash.Separates (hash : Hash) (left right : FencedRunMutation) : Prop :=
  mutationPayloadDigest hash left = mutationPayloadDigest hash right →
    Json.canonicalJson (mutationPayload left) = Json.canonicalJson (mutationPayload right)

/-- A commit of an operation that the journal of the earlier calls holds, under the
live lease of its run. -/
structure Retries {store : StoreImplementation} (earlier : List (Observed store.State))
    (observed : Observed store.State) (input : FencedRunMutation) (original : Committed) :
    Prop where
  call : observed.call = .commit input
  known : Keyed.find (Journal.ofTrace input.lease.runId earlier) input.operationId = some original
  live : ∃ lease, store.lease observed.before input.lease.runId = some lease ∧
    lease.Live input.lease observed.clock
  clock : positive observed.clock = true

/-- What the calls made on one store show for every run. -/
structure ExactlyOnce (hash : Hash) (store : StoreImplementation)
    (trace : List (Observed store.State)) (final : store.State) : Prop where
  history : ∀ runId, store.history final runId = (Journal.ofTrace runId trace).events
  distinct : ∀ runId, Keyed.Distinct (Journal.ofTrace runId trace)
  sequences : ∀ runId, (store.history final runId).map RunEvent.sequence =
    List.range' 1 (store.history final runId).length
  repeated : ∀ earlier observed later input original, trace = earlier ++ observed :: later →
    Retries earlier observed input original → SamePayload input original.mutation →
    observed.result = .ok (.committed { original.receipt with replayed := true }) ∧
      observed.after = observed.before
  changed : ∀ earlier observed later input original, trace = earlier ++ observed :: later →
    Retries earlier observed input original → ¬ SamePayload input original.mutation →
    observed.after = observed.before ∧
      (validateMutation input = .ok () → hash.Separates input original.mutation →
        observed.result = .error (.store .idempotencyConflict "Operation payload changed on retry")) ∧
      (∀ failure, validateMutation input = .error failure → observed.result = .error failure)
  throws : ∀ observed ∈ trace, ∀ input failure, observed.call = .commit input →
    observed.result = .error failure → observed.after = observed.before

namespace Journal

theorem enter_distinct {journal : Journal} (distinct : Keyed.Distinct journal)
    (committed : Option Committed) : Keyed.Distinct (journal.enter committed) := by
  cases committed with
  | none => exact distinct
  | some committed =>
    simp only [enter]
    cases known : Keyed.find journal committed.mutation.operationId with
    | some original => exact distinct
    | none =>
      refine Keyed.Distinct.append_one distinct ?_
      rw [← Keyed.find_isSome]
      show ¬ (Keyed.find journal committed.mutation.operationId).isSome = true
      simp [known]

theorem ofTrace_distinct {σ : Type} (runId : String) (trace : List (Observed σ)) :
    Keyed.Distinct (ofTrace runId trace) := by
  have grows (journal : Journal) (distinct : Keyed.Distinct journal) :
      Keyed.Distinct (trace.foldl (fun (journal : Journal) observed =>
        journal.enter (committedBy runId observed.call observed.result)) journal) := by
    induction trace generalizing journal with
    | nil => exact distinct
    | cons observed rest ih => exact ih _ (enter_distinct distinct _)
  exact grows [] List.Pairwise.nil

end Journal

namespace StoreImplementation.Journals
variable {store : StoreImplementation} {hash : Hash} {Inv : store.State → Prop}

/-- The invariant and the journal of every run, carried over a list of calls. -/
theorem run (journals : store.Journals hash Inv) (state : store.State) (journal : Journal)
    (runId : String) (calls : List (StoreCall × Nat)) (inv : Inv state)
    (keeps : store.Keeps hash state runId journal) :
    Inv (store.finalState state calls) ∧
      store.Keeps hash (store.finalState state calls) runId
        ((store.trace state calls).foldl (fun (journal : Journal) observed =>
          journal.enter (committedBy runId observed.call observed.result)) journal) := by
  induction calls generalizing state journal with
  | nil => exact ⟨inv, keeps⟩
  | cons entry rest ih =>
    obtain ⟨call, clock⟩ := entry
    exact ih _ _ (journals.preserved call clock state inv)
      (journals.kept call clock state runId journal inv keeps)

theorem reached (journals : store.Journals hash Inv) (runId : String)
    (calls : List (StoreCall × Nat)) : Inv (store.finalState store.initial calls) ∧
      store.Keeps hash (store.finalState store.initial calls) runId
        (Journal.ofTrace runId (store.trace store.initial calls)) :=
  journals.run store.initial [] runId calls journals.initial (journals.empty runId)

/-- A retry of a known operation, by whether its envelope still validates. -/
theorem retry (journals : store.Journals hash Inv) {calls : List (StoreCall × Nat)}
    {earlier later : List (Observed store.State)} {observed : Observed store.State}
    {input : FencedRunMutation} {original : Committed}
    (split : store.trace store.initial calls = earlier ++ observed :: later)
    (retries : Retries earlier observed input original) :
    original.mutation.Valid ∧ original.mutation.lease.runId = input.lease.runId ∧
      original.mutation.operationId = input.operationId ∧
      assertRunLeaseToken input.lease = .ok () ∧
      (input.Valid → (observed.result, observed.after) =
        (if mutationPayloadDigest hash input = mutationPayloadDigest hash original.mutation
          then .ok (.committed { original.receipt with replayed := true })
          else .error (.store .idempotencyConflict "Operation payload changed on retry"),
        observed.before)) ∧
      (∀ failure, validateMutation input = .error failure →
        (observed.result, observed.after) = (.error failure, observed.before)) := by
  obtain ⟨first, rfl, before, performed⟩ := store.trace_split split
  obtain ⟨inv, keeps⟩ := journals.reached input.lease.runId first
  rw [← before] at inv keeps
  rw [retries.call] at performed
  obtain ⟨valid, sameRun⟩ := keeps.valid original (Keyed.find_mem retries.known)
  obtain ⟨lease, present, live⟩ := retries.live
  have token := (journals.leaseValid _ _ _ inv present).token
  rw [live.1] at token
  refine ⟨valid, sameRun, Keyed.find_key retries.known, token, ?_, ?_⟩
  · intro inputValid
    rw [← performed]
    exact journals.retried input observed.clock observed.before _ original inv keeps retries.known
      ⟨lease, present, live⟩ retries.clock inputValid
  · intro failure invalid
    rw [← performed]
    exact journals.malformed input observed.clock observed.before failure invalid

theorem exactlyOnce (journals : store.Journals hash Inv) (calls : List (StoreCall × Nat)) :
    ExactlyOnce hash store (store.trace store.initial calls)
      (store.finalState store.initial calls) where
  history runId := (journals.reached runId calls).2.history
  distinct runId := Journal.ofTrace_distinct runId _
  sequences runId := by
    have keeps := (journals.reached runId calls).2
    rw [keeps.history]
    exact keeps.sequences
  repeated earlier observed later input original split retries same := by
    obtain ⟨valid, sameRun, sameOperation, token, retried, _⟩ := journals.retry split retries
    have inputValid := same.valid valid token sameRun.symm sameOperation.symm
    have digest : mutationPayloadDigest hash input =
        mutationPayloadDigest hash original.mutation :=
      congrArg hash.digestBytes ((mutationPayload_same valid.expectedSequence).mpr same)
    have outcome := retried inputValid
    rw [if_pos digest] at outcome
    exact ⟨congrArg Prod.fst outcome, congrArg Prod.snd outcome⟩
  changed earlier observed later input original split retries changed := by
    obtain ⟨valid, _, _, _, retried, malformed⟩ := journals.retry split retries
    refine ⟨?_, ?_, ?_⟩
    · cases validated : validateMutation input with
      | ok _ => exact congrArg Prod.snd (retried (validateMutation_ok.mp validated))
      | error failure => exact congrArg Prod.snd (malformed failure validated)
    · intro validated separates
      have outcome := retried (validateMutation_ok.mp validated)
      rw [if_neg fun same => changed
        ((mutationPayload_same valid.expectedSequence).mp (separates same))] at outcome
      exact congrArg Prod.fst outcome
    · intro failure invalid
      exact congrArg Prod.fst (malformed failure invalid)
  throws observed member input failure call thrown := by
    have performed := store.trace_mem member
    rw [call] at performed
    have state : _ = observed.after := congrArg Prod.snd performed
    rw [← state]
    exact journals.throws input observed.clock observed.before failure (by rw [performed, thrown])

end StoreImplementation.Journals

/-- In both stores, over every list of calls and clock readings. -/
theorem durableStore_exactlyOnce (platform : Platform) (kind : StoreKind)
    (calls : List (StoreCall × Nat)) :
    ExactlyOnce platform.hash (durableStore platform kind)
      ((durableStore platform kind).trace (durableStore platform kind).initial calls)
      ((durableStore platform kind).finalState (durableStore platform kind).initial calls) := by
  cases kind with
  | memory => exact (memoryImplementation_journals platform).exactlyOnce calls
  | sqlite => exact (sqliteImplementation_journals platform).exactlyOnce calls

/-- Hexadecimal digits, least significant first. -/
def hexDigits : Nat → Nat → List Char
  | 0, _ => []
  | width + 1, value => Nat.digitChar (value % 16) :: hexDigits width (value / 16)

theorem hexDigits_length (width value : Nat) : (hexDigits width value).length = width := by
  induction width generalizing value with
  | zero => rfl
  | succ width ih => simp [hexDigits, ih]

theorem hexDigits_hex (width value : Nat) : (hexDigits width value).all Text.hexLower = true := by
  induction width generalizing value with
  | zero => rfl
  | succ width ih =>
    have digit : ∀ n < 16, Text.hexLower (Nat.digitChar n) = true := by decide
    simp only [hexDigits, List.all_cons, ih, Bool.and_true]
    exact digit _ (Nat.mod_lt _ (by decide))

theorem digest_hexDigits (value : Nat) :
    Text.digest (String.ofList ("sha256:".toList ++ hexDigits 64 value)) = true := by
  have tag : "sha256:".toList.length = 7 := by decide
  simp only [Text.digest, String.toList_ofList]
  rw [List.take_append_of_le_length (by rw [tag]), List.drop_append_of_le_length (by rw [tag])]
  simp [hexDigits_length, hexDigits_hex]

/-- A rolling digest with the form of SHA-256. -/
def Hash.rolling : Hash where
  digestBytes bytes := String.ofList ("sha256:".toList ++
    hexDigits 64 (bytes.toList.foldl (fun digest c => digest * 1114112 + c.toNat + 1) 0))
  wellFormed _ := digest_hexDigits _

namespace Sample

def platform : Platform :=
  { ajv := { compiles := fun _ => true, errors := fun _ _ => [] }, hash := .rolling }

def budget : AttemptBudget := { maxAttempts := 1, maxDurationMs := none }

def command : CommandDefinition :=
  { argv := ["true"], cwd := ".", maxDurationMs := 1000, maxOutputBytes := 1024 }

def node (id : String) : WorkflowNode :=
  { id, kind := .command, needs := [], role := none,
    output := { ref := "result.schema.json", schema := .object [] }, attemptBudget := budget,
    mutation := none, command := some command }

def workflow : WorkflowDefinition :=
  { metadata := { id := "sample", version := "1.0.0" }, sourcePath := "/workflow.yaml",
    inputs := [], defaultAttemptBudget := budget, nodeOrder := ["build"],
    nodes := [("build", node "build")], task := none }

def created : RunEvent :=
  { payload := .runCreated "instance" "sample" "1.0.0" ["build"] [], runId := "run", sequence := 1 }

def ready : RunEvent :=
  { payload := .nodeReady "build" .dependenciesSatisfied, runId := "run", sequence := 2 }

def state : RunState :=
  { runId := "run", workflowInstanceId := "instance", workflowId := "sample",
    workflowVersion := "1.0.0", status := .running, sequence := 1, inputs := [],
    nodes := [{ id := "build", status := .pending, attempts := [] }] }

def owner : LocalProcessIdentity :=
  { hostIdentityDigest := "sha256:".append (String.ofList (hexDigits 64 1))
    bootIdentityDigest := "sha256:".append (String.ofList (hexDigits 64 2))
    pid := 1, startToken := "1" }

def creation : CreateOwnedRun :=
  { runId := "run", workflow, initialEvents := [created],
    ownerId := "00000000-0000-4000-8000-000000000000", owner, operationId := "create",
    snapshot := snapshotOf platform.hash workflow state
      (extendPrefix platform.hash platform.hash.emptyEventHistoryDigest [created]) }

theorem creation_valid : validateCreateOwnedRun platform creation = .ok () := by
  have accepted : assertWorkflowDefinition platform.ajv workflow = true := by decide +kernel
  have replayed : replayRun [created] = .ok state := by decide +kernel
  have matching : stateMatchesWorkflow state workflow = true := by decide +kernel
  have fits : state.Fits := by decide +kernel
  refine validateCreateOwnedRun_ok.mpr ⟨validateAcquisition_ok.mpr ⟨by decide +kernel,
    by decide +kernel, by decide +kernel⟩, by decide +kernel, accepted, ?_, state, replayed, rfl,
    matching⟩
  exact assertRunSnapshot_ok.mpr ⟨_, createRunSnapshot_ok.mpr
    ⟨accepted, state, replayed, matching, fits, rfl⟩, RunSnapshot.same_refl _⟩

def first : FencedRunMutation :=
  { lease := (creationMutation creation).lease, operationId := "advance", expectedSequence := 1,
    events := [ready] }

/-- The retry names another expected sequence and is otherwise unchanged. -/
def shifted : FencedRunMutation := { first with expectedSequence := 2 }

def calls : List (StoreCall × Nat) := [(.createOwned creation, 1), (.commit first, 2)]

def createdStore : MemoryStore := { runs := [MemoryStore.createdRun platform creation 1] }

theorem creation_performed : MemoryStore.perform platform (.createOwned creation) 1 .empty =
    (.ok (.created { lease := first.lease, mutation := creationReceipt creation }),
      createdStore) :=
  Action.tag_run (MemoryStore.createOwned_ok.mpr
    ⟨creation_valid, rfl, by decide, by decide, rfl, rfl⟩)

theorem first_performed : MemoryStore.perform platform (.commit first) 2 createdStore =
    (.ok (.committed (receiptFor first)),
      (MemoryStore.perform platform (.commit first) 2 createdStore).2) :=
  Prod.ext (by decide +kernel) rfl

theorem shifted_malformed : validateMutation shifted =
    .error (.typeError "Event at offset 0 does not match sequence 3") := by decide +kernel

theorem first_known : Keyed.find (Journal.ofTrace shifted.lease.runId
    ((memoryImplementation platform).trace .empty calls)) shifted.operationId =
      some ⟨first, receiptFor first⟩ := by
  simp only [StoreImplementation.trace, memoryImplementation, calls, creation_performed,
    Journal.ofTrace, List.foldl_cons, List.foldl_nil]
  rw [first_performed]
  decide +kernel

/-- The store that the retry finds. -/
def held : MemoryStore := (MemoryStore.perform platform (.commit first) 2 createdStore).2

theorem held_lease : held.lease? shifted.lease.runId =
    some (MemoryStore.createdRun platform creation 1).lease := by decide +kernel

/-- The retry as it happens. -/
def retry : Observed (memoryImplementation platform).State :=
  { call := .commit shifted, clock := 3, before := held,
    result := (MemoryStore.perform platform (.commit shifted) 3 held).1,
    after := (MemoryStore.perform platform (.commit shifted) 3 held).2 }

theorem retry_traced : (memoryImplementation platform).trace .empty
    (calls ++ [(.commit shifted, 3)]) =
      (memoryImplementation platform).trace .empty calls ++ [retry] := by
  simp only [StoreImplementation.trace, memoryImplementation, calls, creation_performed,
    List.cons_append, List.nil_append, retry, held]
  rfl

theorem retry_retries : Retries ((memoryImplementation platform).trace .empty calls) retry shifted
    ⟨first, receiptFor first⟩ where
  call := rfl
  known := first_known
  live := by
    simp only [retry, memoryImplementation]
    exact ⟨_, held_lease, rfl, rfl, by decide⟩
  clock := by decide

end Sample

/-- A retry under a live fence that changes only the expected sequence fails the
envelope check, so it is not rejected as an idempotency conflict. -/
theorem changedSequence_not_conflict : ¬ ∀ earlier observed later input original,
    (memoryImplementation Sample.platform).trace .empty
      (Sample.calls ++ [(.commit Sample.shifted, 3)]) = earlier ++ observed :: later →
    Retries earlier observed input original → ¬ SamePayload input original.mutation →
    ∃ message, observed.result = .error (.store .idempotencyConflict message) := by
  intro claimed
  obtain ⟨message, conflict⟩ := claimed _ Sample.retry [] Sample.shifted _ Sample.retry_traced
    Sample.retry_retries (fun same => absurd same.expectedSequence (by decide))
  have rejected := (memoryImplementation_journals Sample.platform).malformed Sample.shifted 3
    Sample.held _ Sample.shifted_malformed
  simp only [Sample.retry] at conflict
  exact absurd (conflict.symm.trans (congrArg Prod.fst rejected)) (by simp)

end Anastom
