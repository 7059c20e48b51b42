import Anastom.Persistence.ExactlyOnce
import Anastom.Persistence.SqliteOperations

/-! A valid creation of a run goes through on empty tables. -/
namespace Anastom
namespace SqliteStore

theorem digestColumn_digest (hash : Hash) (text : String) :
    digestColumn (hash.digestBytes text) = true := by
  have form := hash.wellFormed text
  simp only [Text.digest, Bool.and_eq_true, beq_iff_eq, List.length_drop] at form
  simp only [digestColumn, Bool.and_eq_true, beq_iff_eq]
  exact ⟨by omega, form.1.1⟩

variable {platform : Platform} {runId : String}

/-- New events of a run that exists go into the tables, one by one. -/
theorem insertEvents_fresh {events : List RunEvent} {digests : List String} {db : SqliteStore}
    (valid : ∀ event ∈ events, assertRunEvent event = .ok ()) (exist : db.runExists runId = true)
    (numbered : ∀ event ∈ events, 0 < event.sequence)
    (distinct : (events.map RunEvent.sequence).Nodup)
    (fresh : ∀ event ∈ events, db.eventExists runId event.sequence = false ∧
      Keyed.find db.eventIntegrity (runId, event.sequence) = none) :
    ∃ result, insertEvents platform runId events digests db =
      (.ok result, db.withEvents platform runId (lastDigest platform.hash digests) events) := by
  suffices ran : ∃ result next, insertEvents platform runId events digests db =
      (.ok result, next) by
    obtain ⟨result, next, ran⟩ := ran
    have same := (insertEvents_ok ran).1
    exact ⟨result, by rw [ran, same]; rfl⟩
  induction events generalizing digests db with
  | nil => exact ⟨_, _, rfl⟩
  | cons event rest ih =>
    obtain ⟨absent, unchecked⟩ := fresh event List.mem_cons_self
    obtain ⟨apart, distinct⟩ := List.nodup_cons.mp distinct
    let previous := lastDigest platform.hash digests
    let integrity := extendEventHistoryDigest platform.hash previous runId event
    have eventRow (sequence : Nat) :
        Keyed.find (db.withEvents platform runId previous [event]).events (runId, sequence) =
          (Keyed.find db.events (runId, sequence)).or (if event.sequence = sequence then
            some { runId, sequence := event.sequence, eventType := event.payload.type, event }
            else none) := by
      refine Keyed.find_append.trans (congrArg _ ((Keyed.find_cons _ _ _).trans ?_))
      simp [Keyed.key, Keyed.find]
    have integrityRow (sequence : Nat) (other : event.sequence ≠ sequence) :
        Keyed.find (db.withEvents platform runId previous [event]).eventIntegrity
          (runId, sequence) = Keyed.find db.eventIntegrity (runId, sequence) := by
      refine Keyed.find_append.trans ?_
      simp [integrityRowsOf, Keyed.find, Keyed.key, other]
    obtain ⟨result, next, later⟩ := @ih (digests ++ [integrity.2])
      (db.withEvents platform runId previous [event])
      (fun other listed => valid other (List.mem_cons_of_mem _ listed)) exist
      (fun other listed => numbered other (List.mem_cons_of_mem _ listed)) distinct
      (fun other listed => by
        have different : event.sequence ≠ other.sequence :=
          fun same => apart (same ▸ List.mem_map_of_mem listed)
        obtain ⟨noEvent, noIntegrity⟩ := fresh other (List.mem_cons_of_mem _ listed)
        rw [eventExists, eventRow, if_neg different, Option.or_none, integrityRow _ different]
        exact ⟨noEvent, noIntegrity⟩)
    simp only [insertEvents, Action.lift_bind_ok, insertEvent_bind_ok, insertIntegrity_bind_ok]
    refine ⟨result, next, (), valid event List.mem_cons_self,
      ⟨numbered event List.mem_cons_self, exist, absent⟩, ⟨?_, ?_, unchecked⟩, later⟩
    · simp [IntegrityRow.check, extendEventHistoryDigest, Hash.digestJson, digestColumn_digest,
        numbered event List.mem_cons_self]
    · have present := eventRow event.sequence
      rw [if_pos rfl] at present
      change (Keyed.find (db.withEvents platform runId previous [event]).events
        (runId, event.sequence)).isSome = true
      rw [present, Option.isSome_or]
      exact Bool.or_true _

theorem eventRows_find {events : List RunEvent} {event : RunEvent} (listed : event ∈ events) :
    (Keyed.find (eventRowsOf runId events) (runId, event.sequence)).isSome = true := by
  rw [Keyed.find_isSome, Keyed.keys, eventRowsOf, List.map_map]
  exact List.mem_map.mpr ⟨event, listed, rfl⟩

/-- A valid creation succeeds on empty tables. -/
theorem createOwned_empty {input : CreateOwnedRun} {clock : Nat}
    (valid : validateCreateOwnedRun platform input = .ok ()) (clockValid : positive clock = true)
    (expiryValid : positive (clock + runLeaseDurationMs) = true)
    (lease : (createdLease platform input clock).check = true)
    (snapshot : (snapshotRow input.snapshot clock).check = true)
    (snapshotRun : input.snapshot.runId = input.runId)
    (operation : shortText input.operationId = true)
    (digest : ((integrityRowsOf platform.hash input.runId platform.hash.emptyEventHistoryDigest
      input.initialEvents).map IntegrityRow.historyDigest).getLast? =
        some input.snapshot.eventPrefixDigest) :
    createOwned platform input clock .empty =
      (.ok { lease := (creationMutation input).lease, mutation := creationReceipt input },
        SqliteStore.empty.created platform input clock) := by
  have mutationValid := (creationMutation_valid valid).validated
  obtain ⟨state, replayed, -, -⟩ := (validateCreateOwnedRun_ok.mp valid).2.2.2.2
  have sequences : input.initialEvents.map RunEvent.sequence =
      List.range' 1 input.initialEvents.length := by
    refine List.ext_getElem (by simp) fun i inside _ => ?_
    have here := (replayRun_sequence replayed).1 i (by simpa using inside)
    simp [here, Nat.add_comm]
  have nonempty : 0 < input.initialEvents.length :=
    List.length_pos_iff.mpr (replayRun_nonempty replayed)
  have numbered (sequence : Nat) (inside : 1 ≤ sequence ∧ sequence ≤ input.initialEvents.length) :
      ∃ event ∈ input.initialEvents, event.sequence = sequence := by
    have listed : sequence ∈ input.initialEvents.map RunEvent.sequence := by
      rw [sequences, List.mem_range'_1]
      omega
    exact List.mem_map.mp listed
  let opened : SqliteStore := SqliteStore.empty.withRun {
    runId := input.runId, workflow := input.workflow,
    workflowDigest := platform.hash.digestJson input.workflow.toJson }
  have exist : opened.runExists input.runId = true := by
    simp [opened, withRun, runExists, Keyed.find, Keyed.key]
  have stored (sequence : Nat) (inside : 1 ≤ sequence ∧ sequence ≤ input.initialEvents.length) :
      (opened.withEvents platform input.runId platform.hash.emptyEventHistoryDigest
        input.initialEvents).eventExists input.runId sequence = true := by
    obtain ⟨event, listed, rfl⟩ := numbered sequence inside
    exact eventRows_find listed
  have eventsValid := foldEvents_valid (replayRun_ok.mp replayed)
  obtain ⟨digests, inserted⟩ := @insertEvents_fresh platform input.runId input.initialEvents []
    opened (fun event listed => require_ok.mpr (eventsValid event listed)) exist
    (fun event listed => by
      have inside : event.sequence ∈ List.range' 1 input.initialEvents.length :=
        sequences ▸ List.mem_map_of_mem listed
      rw [List.mem_range'_1] at inside
      omega)
    (by rw [sequences]; exact List.nodup_range') (fun _ _ => ⟨rfl, rfl⟩)
  obtain ⟨-, rfl⟩ := insertEvents_ok inserted
  simp only [createOwned, Action.lift_bind_ok, writeTransaction_ok, Action.get_bind, require_ok,
    validateClock_ok, insertRun_bind_ok, insertMutation]
  refine ⟨(), valid, (), rfl, _, ⟨clockValid, rfl⟩, rfl, ?_⟩
  refine Action.bind_ok.mpr ⟨_, _, inserted, ?_⟩
  simp only [Action.lift_bind_ok, insertLease_bind_ok, leaseExpiry_ok, insertMutationRow_bind_ok,
    insertSnapshot_bind_ok]
  refine ⟨_, ⟨expiryValid, rfl⟩, ⟨lease, exist, rfl⟩, (), mutationValid,
    ⟨?_, exist, stored 1 ⟨Nat.le_refl 1, nonempty⟩, stored _ ⟨nonempty, Nat.le_refl _⟩, rfl⟩,
    ⟨snapshot, snapshotRun ▸ exist⟩, (), ?_, ?_⟩
  · simp [MutationRow.check, operation, mutationPayloadDigest, Hash.digestJson,
      digestColumn_digest]
    exact ⟨nonempty, (positive_iff.mp clockValid).1⟩
  · exact require_ok.mpr (beq_iff_eq.mpr digest)
  · rfl

theorem perform_createOwned {input : CreateOwnedRun} {clock : Nat} {db next : SqliteStore}
    {receipt : OwnedRunReceipt}
    (completed : createOwned platform input clock db = (.ok receipt, next)) :
    (sqliteImplementation platform).finalState db [(.createOwned input, clock)] = next := by
  have performed : perform platform (.createOwned input) clock db =
      (.ok (.created receipt), next) := Action.tag_run completed
  simp only [StoreImplementation.finalState, sqliteImplementation, performed]

end SqliteStore
end Anastom
