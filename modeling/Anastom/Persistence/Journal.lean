import Anastom.Engine.MutationPayload
import Anastom.Persistence.Fencing

/-! The journal of a run: the first success of each operation id. Both stores keep
exactly the journal, whatever the order of calls, owners and retries. -/
namespace Anastom

/-- A mutation that succeeded, with the receipt its first success returned. -/
structure Committed where
  mutation : FencedRunMutation
  receipt : MutationReceipt
  deriving DecidableEq, Repr

instance : Keyed Committed String := ⟨fun committed => committed.mutation.operationId⟩

abbrev Journal := List Committed

/-- The mutation of one run that a call committed or replayed. -/
def committedBy (runId : String) (call : StoreCall) (result : Except Failure StoreResult) :
    Option Committed :=
  match call, result with
  | .createOwned input, .ok (.created receipt) =>
    if input.runId = runId then some ⟨creationMutation input, receipt.mutation⟩ else none
  | .commit input, .ok (.committed receipt) =>
    if input.lease.runId = runId then some ⟨input, receipt⟩ else none
  | _, _ => none

namespace Journal

/-- A success is entered unless its operation id already is. -/
def enter (journal : Journal) : Option Committed → Journal
  | none => journal
  | some committed =>
    match Keyed.find journal committed.mutation.operationId with
    | some _ => journal
    | none => journal ++ [committed]

/-- The batches in commit order. -/
def events (journal : Journal) : List RunEvent :=
  journal.flatMap fun committed => committed.mutation.events

/-- The journal that a trace of calls leaves for a run. -/
def ofTrace {σ : Type} (runId : String) (trace : List (Observed σ)) : Journal :=
  trace.foldl (fun journal observed =>
    journal.enter (committedBy runId observed.call observed.result)) []

end Journal

/-- What a store keeps for a run is what its journal says. -/
structure StoreImplementation.Keeps (store : StoreImplementation) (hash : Hash)
    (state : store.State) (runId : String) (journal : Journal) : Prop where
  history : store.history state runId = journal.events
  recorded : ∀ operationId, store.recorded state runId operationId =
    (Keyed.find journal operationId).map fun committed =>
      (mutationPayloadDigest hash committed.mutation, committed.receipt)
  sequences : journal.events.map RunEvent.sequence = List.range' 1 journal.events.length
  valid : ∀ committed ∈ journal,
    committed.mutation.Valid ∧ committed.mutation.lease.runId = runId

namespace StoreImplementation.Keeps
variable {store : StoreImplementation} {hash : Hash} {state next : store.State} {runId : String}
  {journal : Journal}

/-- A call that leaves the events and receipts of the run. -/
theorem unchanged (keeps : store.Keeps hash state runId journal)
    (history : store.history next runId = store.history state runId)
    (recorded : ∀ operationId,
      store.recorded next runId operationId = store.recorded state runId operationId) :
    store.Keeps hash next runId journal :=
  ⟨history.trans keeps.history, fun operationId => (recorded operationId).trans
    (keeps.recorded operationId), keeps.sequences, keeps.valid⟩

theorem absent (keeps : store.Keeps hash state runId journal) {operationId : String}
    (unrecorded : store.recorded state runId operationId = none) :
    Keyed.find journal operationId = none := by
  have same := keeps.recorded operationId
  rw [unrecorded] at same
  exact Option.map_eq_none_iff.mp same.symm

theorem present (keeps : store.Keeps hash state runId journal) {operationId digest : String}
    {receipt : MutationReceipt}
    (recorded : store.recorded state runId operationId = some (digest, receipt)) :
    ∃ committed, Keyed.find journal operationId = some committed ∧
      digest = mutationPayloadDigest hash committed.mutation ∧ receipt = committed.receipt := by
  have same := keeps.recorded operationId
  rw [recorded] at same
  obtain ⟨committed, found, equal⟩ := Option.map_eq_some_iff.mp same.symm
  cases equal
  exact ⟨committed, found, rfl, rfl⟩

/-- A replay of a recorded operation enters nothing. -/
theorem replayed (keeps : store.Keeps hash state runId journal) {committed : Committed}
    {entry : String × MutationReceipt}
    (recorded : store.recorded state runId committed.mutation.operationId = some entry) :
    journal.enter (some committed) = journal := by
  obtain ⟨original, found, _⟩ := keeps.present recorded
  simp [Journal.enter, found]

/-- A first success appends its batch and its receipt. -/
theorem appended (keeps : store.Keeps hash state runId journal) {committed : Committed}
    (valid : committed.mutation.Valid) (sameRun : committed.mutation.lease.runId = runId)
    (unrecorded : store.recorded state runId committed.mutation.operationId = none)
    (expected : committed.mutation.expectedSequence = (store.history state runId).length)
    (history : store.history next runId =
      store.history state runId ++ committed.mutation.events)
    (recorded : ∀ operationId, store.recorded next runId operationId =
      (store.recorded state runId operationId).or
        (if committed.mutation.operationId = operationId then
          some (mutationPayloadDigest hash committed.mutation, committed.receipt) else none)) :
    store.Keeps hash next runId (journal.enter (some committed)) := by
  have entered : journal.enter (some committed) = journal ++ [committed] := by
    simp [Journal.enter, keeps.absent unrecorded]
  have events : (journal ++ [committed] : Journal).events =
      journal.events ++ committed.mutation.events := by
    simp [Journal.events]
  rw [entered]
  constructor
  · rw [history, keeps.history, events]
  · intro operationId
    rw [recorded, keeps.recorded, Keyed.find_append, Keyed.find_cons]
    have key : Keyed.key committed = committed.mutation.operationId := rfl
    rw [key]
    cases Keyed.find journal operationId with
    | some original => rfl
    | none =>
      by_cases same : committed.mutation.operationId = operationId
      · simp [same]
      · simp [same, Keyed.find]
  · rw [events, List.map_append, keeps.sequences, valid.sequences, expected, keeps.history,
      List.length_append]
    rw [Nat.add_comm journal.events.length 1, List.range'_append_1]
  · intro other member
    rcases List.mem_append.mp member with earlier | last
    · exact keeps.valid other earlier
    · rw [List.mem_singleton.mp last]
      exact ⟨valid, sameRun⟩

end StoreImplementation.Keeps

/-- What a store has to do with the journals of its runs in one call. `Inv` is the
store's own invariant on reachable states. -/
structure StoreImplementation.Journals (store : StoreImplementation) (hash : Hash)
    (Inv : store.State → Prop) : Prop where
  initial : Inv store.initial
  empty : ∀ runId, store.Keeps hash store.initial runId []
  preserved : ∀ call clock state, Inv state → Inv (store.perform call clock state).2
  leaseValid : ∀ state runId lease, Inv state → store.lease state runId = some lease → lease.Valid
  kept : ∀ call clock state runId journal, Inv state → store.Keeps hash state runId journal →
    store.Keeps hash (store.perform call clock state).2 runId
      (journal.enter (committedBy runId call (store.perform call clock state).1))
  retried : ∀ input clock state journal original, Inv state →
    store.Keeps hash state input.lease.runId journal →
    Keyed.find journal input.operationId = some original →
    (∃ lease, store.lease state input.lease.runId = some lease ∧
      lease.Live input.lease clock) →
    positive clock = true → input.Valid →
    store.perform (.commit input) clock state =
      (if mutationPayloadDigest hash input = mutationPayloadDigest hash original.mutation
        then .ok (.committed { original.receipt with replayed := true })
        else .error (.store .idempotencyConflict "Operation payload changed on retry"), state)
  malformed : ∀ input clock state failure, validateMutation input = .error failure →
    store.perform (.commit input) clock state = (.error failure, state)
  throws : ∀ input clock state failure,
    (store.perform (.commit input) clock state).1 = .error failure →
    (store.perform (.commit input) clock state).2 = state

theorem committedBy_error (runId : String) (call : StoreCall) (failure : Failure) :
    committedBy runId call (.error failure) = none := by
  cases call <;> rfl

end Anastom
