import Anastom.Persistence.Journal

/-! The SQLite store keeps the journal of every run. Its own invariant: leases and
receipts stay readable, and the event rows of a run are contiguous from one. -/
namespace Anastom
namespace SqliteStore
variable {platform : Platform} {db next : SqliteStore} {runId : String}

/-- A lease row that every later read accepts. -/
structure LeaseReadable (platform : Platform) (row : LeaseRow) : Prop where
  valid : row.toRunLease.Valid
  ownerDigest : row.ownerDigest = platform.hash.digestJson row.owner.toJson

theorem LeaseReadable.read {row : LeaseRow} (readable : LeaseReadable platform row) :
    leaseFromRow platform row = .ok row.toRunLease := by
  have valid := readable.valid
  have lease : assertRunLease row.toRunLease = .ok () := assertRunLease_ok.mpr valid
  simp [leaseFromRow, readable.ownerDigest, assertLocalProcessIdentity, valid.owner, lease, require,
    bind, Except.bind, pure, Except.pure]

/-- The rows of one run's events, as inserted. -/
def runEvents (db : SqliteStore) (runId : String) : List EventRow :=
  db.events.filter (·.runId == runId)

/-- What holds of the tables in every reachable state. -/
structure Sound (platform : Platform) (db : SqliteStore) : Prop where
  leaseKeys : Keyed.Distinct db.runLeases
  leases : ∀ row ∈ db.runLeases, LeaseReadable platform row
  mutations : ∀ row ∈ db.runMutations, assertMutationRow row = .ok ()
  mutationRuns : ∀ row ∈ db.runMutations, db.runExists row.runId = true
  eventRuns : ∀ row ∈ db.events, db.runExists row.runId = true
  contiguous : ∀ runId, (db.runEvents runId).map EventRow.sequence =
    List.range' 1 (db.runEvents runId).length
  numbered : ∀ row ∈ db.events, row.event.sequence = row.sequence

namespace Sound

theorem readLease (sound : Sound platform db) {lease : RunLease}
    (found : db.lease? runId = some lease) : db.readLease platform runId = .ok (some lease) := by
  obtain ⟨row, present, rfl⟩ := Option.map_eq_some_iff.mp found
  have readable := (sound.leases row (Keyed.find_mem present)).read
  simp [SqliteStore.readLease, present, readable, asStoreError, Except.map]

theorem leaseValid (sound : Sound platform db) {lease : RunLease}
    (found : db.lease? runId = some lease) : lease.Valid := by
  obtain ⟨row, present, rfl⟩ := Option.map_eq_some_iff.mp found
  exact (sound.leases row (Keyed.find_mem present)).valid

/-- Contiguous rows are already in the order that the query asks for. -/
theorem eventRows_eq (sound : Sound platform db) (runId : String) :
    db.eventRows runId = db.runEvents runId := by
  refine List.Pairwise.insertionSort_eq ?_
  have increasing : ((db.runEvents runId).map EventRow.sequence).Pairwise (· ≤ ·) := by
    rw [sound.contiguous]
    exact List.pairwise_le_range'
  simpa [List.pairwise_map, runEvents] using increasing

theorem history_eq (sound : Sound platform db) (runId : String) :
    db.history runId = (db.runEvents runId).map EventRow.event := by
  rw [history, sound.eventRows_eq]

theorem noEvents (sound : Sound platform db) (absent : db.runExists runId = false) :
    db.runEvents runId = [] := by
  apply List.filter_eq_nil_iff.mpr
  intro row member same
  have exist := sound.eventRuns row member
  rw [beq_iff_eq.mp same, absent] at exist
  cases exist

end Sound
theorem runExists_append {row : RunRow} {other : String} :
    (db.withRun row).runExists other = (db.runExists other || decide (row.runId = other)) := by
  unfold runExists withRun
  rw [Keyed.find_append, Keyed.find_cons]
  have key : Keyed.key row = row.runId := rfl
  by_cases same : row.runId = other <;>
    cases Keyed.find db.runs other <;> simp [key, same, Keyed.find]

theorem runEvents_append (platform : Platform) (batchRun previous : String)
    (events : List RunEvent) (other : String) :
    (db.withEvents platform batchRun previous events).runEvents other =
      db.runEvents other ++ if batchRun = other then eventRowsOf batchRun events else [] := by
  unfold runEvents withEvents eventRowsOf
  rw [List.filter_append]
  by_cases same : batchRun = other
  · simp [same]
  · simp [same]

theorem eventRowsOf_sequences (runId : String) (events : List RunEvent) :
    (eventRowsOf runId events).map EventRow.sequence = events.map RunEvent.sequence := by
  simp [eventRowsOf]

theorem eventRowsOf_events (runId : String) (events : List RunEvent) :
    (eventRowsOf runId events).map EventRow.event = events := by
  simp [eventRowsOf, Function.comp_def]

/-- A batch that starts where the rows of its run end keeps them contiguous. -/
theorem contiguous_append {rows : List EventRow} {events : List RunEvent} {batchRun : String}
    (before : rows.map EventRow.sequence = List.range' 1 rows.length)
    (batch : events.map RunEvent.sequence = List.range' (rows.length + 1) events.length) :
    (rows ++ eventRowsOf batchRun events).map EventRow.sequence =
      List.range' 1 (rows ++ eventRowsOf batchRun events).length := by
  have length : (eventRowsOf batchRun events).length = events.length := by simp [eventRowsOf]
  rw [List.map_append, before, eventRowsOf_sequences, batch, List.length_append, length,
    Nat.add_comm rows.length 1, List.range'_append_1]

theorem mutationRow_readable {input : FencedRunMutation} (valid : input.Valid) {clock : Nat}
    (clockValid : positive clock = true) :
    assertMutationRow (mutationRow platform input (receiptFor input) clock) = .ok () := by
  obtain ⟨_, _, generation⟩ := assertRunLeaseToken_ok.mp valid.lease
  obtain ⟨first, rest, split⟩ := List.exists_cons_of_ne_nil valid.events
  have nonempty : 0 < input.events.length := by rw [split]; exact Nat.succ_pos _
  have last := (valid.offsets (input.events.length - 1) (by omega)).1
  have expected := valid.expectedSequence
  have digest : Text.digest (mutationPayloadDigest platform.hash input) = true :=
    platform.hash.wellFormed _
  rw [valid.receipt]
  refine require_ok.mpr ?_
  have generation := positive_iff.mp generation
  have clockValid := positive_iff.mp clockValid
  simp [mutationRow, digest, nonnegative_iff, positive_iff]
  omega

/-- The tables that a batch, its receipt and its optional effects leave sound. -/
theorem sound_committed {input : FencedRunMutation} {clock : Nat}
    (sound : Sound platform db) (exist : db.runExists input.lease.runId = true)
    (valid : input.Valid) (clockValid : positive clock = true)
    (expected : input.expectedSequence = (db.runEvents input.lease.runId).length)
    (leases : next.runLeases = db.runLeases) (runs : next.runs = db.runs)
    (events : next.events = db.events ++ eventRowsOf input.lease.runId input.events)
    (mutations : next.runMutations =
      db.runMutations ++ [mutationRow platform input (receiptFor input) clock]) :
    Sound platform next := by
  have exists_next (other : String) : next.runExists other = db.runExists other := by
    simp [runExists, runs]
  have rows (other : String) : next.runEvents other = db.runEvents other ++
      if input.lease.runId = other then eventRowsOf input.lease.runId input.events else [] := by
    rw [← runEvents_append platform input.lease.runId "" input.events other]
    simp [runEvents, events, withEvents]
  constructor
  case leaseKeys => rw [leases]; exact sound.leaseKeys
  case leases => rw [leases]; exact sound.leases
  case mutations =>
    intro row member
    rw [mutations] at member
    rcases List.mem_append.mp member with earlier | last
    · exact sound.mutations row earlier
    · rw [List.mem_singleton.mp last]
      exact mutationRow_readable valid clockValid
  case mutationRuns =>
    intro row member
    rw [mutations] at member
    rw [exists_next]
    rcases List.mem_append.mp member with earlier | last
    · exact sound.mutationRuns row earlier
    · rw [List.mem_singleton.mp last]
      exact exist
  case eventRuns =>
    intro row member
    rw [events] at member
    rw [exists_next]
    rcases List.mem_append.mp member with earlier | batch
    · exact sound.eventRuns row earlier
    · obtain ⟨event, _, rfl⟩ := List.mem_map.mp batch
      exact exist
  case contiguous =>
    intro other
    rw [rows]
    by_cases same : input.lease.runId = other
    · subst same
      rw [if_pos rfl]
      exact contiguous_append (sound.contiguous _) (expected ▸ valid.sequences)
    · rw [if_neg same, List.append_nil]
      exact sound.contiguous other
  case numbered =>
    intro row member
    rw [events] at member
    rcases List.mem_append.mp member with earlier | batch
    · exact sound.numbered row earlier
    · obtain ⟨event, _, rfl⟩ := List.mem_map.mp batch
      rfl

/-- A rewrite of one run's lease row that every later read accepts. -/
theorem sound_withLeases {f : LeaseRow → LeaseRow} (sound : Sound platform db)
    (keeps : ∀ row : LeaseRow, row.runId = runId → (f row).runId = runId)
    (rewritten : ∀ row ∈ db.runLeases, row.runId = runId → LeaseReadable platform (f row)) :
    Sound platform (db.withLeases runId f) := by
  refine ⟨sound.leaseKeys.modify keeps, ?_, sound.mutations, sound.mutationRuns, sound.eventRuns,
    sound.contiguous, sound.numbered⟩
  intro row member
  obtain ⟨before, present, ⟨key, rfl⟩ | ⟨_, rfl⟩⟩ := Keyed.mem_modify.mp member
  · exact rewritten before present key
  · exact sound.leases row present

theorem grantedRow_readable {input : AcquireReleasedRun} {generation clock : Nat} {row : LeaseRow}
    (allowed : GrantAllowed input generation clock) (key : row.runId = input.runId) :
    LeaseReadable platform (grantedRow platform input generation clock row) := by
  refine ⟨?_, rfl⟩
  have same : (grantedRow platform input generation clock row).toRunLease =
      grantedLease input generation clock (clock + runLeaseDurationMs) := by
    simp [grantedRow, grantedLease, key]
  rw [same]
  exact allowed.valid

theorem lease?_row {lease : RunLease} (sound : Sound platform db)
    (found : db.lease? runId = some lease) {row : LeaseRow} (member : row ∈ db.runLeases)
    (key : row.runId = runId) : row.toRunLease = lease := by
  obtain ⟨other, present, rfl⟩ := Option.map_eq_some_iff.mp found
  have same := Keyed.eq_of_key sound.leaseKeys member (Keyed.find_mem present)
    (key.trans (Keyed.find_key present).symm)
  rw [same]

theorem sound_created {input : CreateOwnedRun} {clock : Nat} (sound : Sound platform db)
    (inputValid : validateCreateOwnedRun platform input = .ok ())
    (absent : db.runExists input.runId = false)
    (noLease : Keyed.find db.runLeases input.runId = none) (clockValid : positive clock = true)
    (expiryValid : positive (clock + runLeaseDurationMs) = true) :
    Sound platform (db.created platform input clock) := by
  have valid := creationMutation_valid inputValid
  have exists_next (other : String) : (db.created platform input clock).runExists other =
      (db.runExists other || decide (input.runId = other)) := runExists_append
  have kept {other : String} (exist : db.runExists other = true) :
      (db.created platform input clock).runExists other = true := by
    rw [exists_next, exist, Bool.true_or]
  have rows (other : String) : (db.created platform input clock).runEvents other =
      db.runEvents other ++
        if input.runId = other then eventRowsOf input.runId input.initialEvents else [] :=
    runEvents_append platform input.runId platform.hash.emptyEventHistoryDigest
      input.initialEvents other
  constructor
  case leaseKeys =>
    refine sound.leaseKeys.append_one ?_
    intro member
    have present := Keyed.find_isSome.mpr member
    rw [show Keyed.key (createdLease platform input clock) = input.runId from rfl, noLease] at present
    cases present
  case leases =>
    intro row member
    rcases List.mem_append.mp member with earlier | last
    · exact sound.leases row earlier
    · rw [List.mem_singleton.mp last]
      refine ⟨?_, rfl⟩
      have acquisition := (validateCreateOwnedRun_ok.mp inputValid).1
      exact GrantAllowed.valid ⟨acquisition, rfl, clockValid, expiryValid⟩
  case mutations =>
    intro row member
    rcases List.mem_append.mp member with earlier | last
    · exact sound.mutations row earlier
    · rw [List.mem_singleton.mp last]
      have readable : assertMutationRow (mutationRow platform (creationMutation input) _ clock) = _ :=
        mutationRow_readable valid clockValid
      rw [valid.receipt] at readable
      simpa [creationMutation, creationReceipt] using readable
  case mutationRuns =>
    intro row member
    rcases List.mem_append.mp member with earlier | last
    · exact kept (sound.mutationRuns row earlier)
    · rw [List.mem_singleton.mp last, exists_next]
      simp [mutationRow, creationMutation]
  case eventRuns =>
    intro row member
    rcases List.mem_append.mp member with earlier | batch
    · exact kept (sound.eventRuns row earlier)
    · obtain ⟨event, _, rfl⟩ := List.mem_map.mp batch
      rw [exists_next]
      simp
  case contiguous =>
    intro other
    rw [rows]
    by_cases same : input.runId = other
    · subst same
      rw [if_pos rfl]
      refine contiguous_append (sound.contiguous _) ?_
      rw [sound.noEvents absent]
      exact valid.sequences
    · rw [if_neg same, List.append_nil]
      exact sound.contiguous other
  case numbered =>
    intro row member
    rcases List.mem_append.mp member with earlier | batch
    · exact sound.numbered row earlier
    · obtain ⟨event, _, rfl⟩ := List.mem_map.mp batch
      rfl

theorem parseEventRows_sequences {rows : List EventRow} {events : List RunEvent}
    (parsed : parseEventRows runId rows = .ok events) :
    events.map RunEvent.sequence = rows.map EventRow.sequence := by
  induction rows generalizing events with
  | nil => cases parsed; rfl
  | cons row rest ih =>
    simp only [parseEventRows, parseEventRow, bind_ok, require_ok, pure_ok, Bool.and_eq_true,
      beq_iff_eq] at parsed
    obtain ⟨event, ⟨_, _, _, ⟨⟨_, sequence⟩, _⟩, rfl⟩, tail, read, rfl⟩ := parsed
    rw [List.map_cons, List.map_cons, ih read, sequence]

theorem asStoreError_ok {message : String} {result : Except Failure α} {a : α} :
    asStoreError message result = .ok a ↔ result = .ok a := by
  cases result with
  | ok value => simp [asStoreError]
  | error failure => cases failure <;> simp [asStoreError]

/-- What reading a run's authoritative rows establishes. -/
theorem readAuthoritativeRun_ok {run : AuthoritativeRun}
    (read : readAuthoritativeRun platform db runId = .ok (some run)) :
    parseEventRows runId (db.eventRows runId) = .ok run.events ∧
      replayRun run.events = .ok run.state ∧
      validateIntegrity platform db runId (db.eventRows runId) = .ok run.historyDigests := by
  unfold readAuthoritativeRun at read
  cases found : Keyed.find db.runs runId with
  | none => rw [found] at read; cases read
  | some row =>
    simp only [found, bind_ok, pure_ok, Option.some.injEq] at read
    obtain ⟨_, _, _, _, events, parsed, state, replayed, _, _, digests, integrity, rfl⟩ := read
    exact ⟨parsed, replayed, integrity⟩

theorem checkAppend_ok {input : FencedRunMutation} {digests : List String}
    {acknowledgement : Option Nat}
    (checked : checkAppend platform db input = .ok (digests, acknowledgement)) :
    ∃ run, readAuthoritativeRun platform db input.lease.runId = .ok (some run) ∧
      lastSequence run.events = input.expectedSequence ∧ digests = run.historyDigests := by
  simp only [checkAppend, bind_ok, asStoreError_ok, requireSome_ok, require_ok, beq_iff_eq] at checked
  obtain ⟨_, read, run, rfl, _, last, _, _, _, _, checked⟩ := checked
  refine ⟨run, read, last, ?_⟩
  cases snapshot : input.snapshot <;> simp only [snapshot, bind_ok, pure_ok, Prod.mk.injEq] at checked
  · obtain ⟨_, _, rfl, _⟩ := checked
    rfl
  · obtain ⟨_, _, _, _, rfl, _⟩ := checked
    rfl

/-- A first commit starts where the rows of its run end. -/
theorem checkAppend_expected {input : FencedRunMutation} {digests : List String}
    {acknowledgement : Option Nat} (sound : Sound platform db)
    (checked : checkAppend platform db input = .ok (digests, acknowledgement)) :
    input.expectedSequence = (db.runEvents input.lease.runId).length ∧
      db.runExists input.lease.runId = true := by
  obtain ⟨run, read, last, _⟩ := checkAppend_ok checked
  have sequences := parseEventRows_sequences (readAuthoritativeRun_ok read).1
  rw [sound.eventRows_eq] at sequences
  have length : run.events.length = (db.runEvents input.lease.runId).length := by
    simpa using congrArg List.length sequences
  rw [sound.contiguous, ← length] at sequences
  rw [lastSequence_of_contiguous sequences, length] at last
  refine ⟨last.symm, ?_⟩
  unfold readAuthoritativeRun at read
  cases found : Keyed.find db.runs input.lease.runId with
  | none => rw [found] at read; cases read
  | some row => simp [runExists, found]

theorem appended_fields (platform : Platform) (db : SqliteStore) (input : FencedRunMutation)
    (digests : List String) (acknowledgement : Option Nat) (clock : Nat) :
    (db.appended platform input digests acknowledgement clock).runLeases = db.runLeases ∧
    (db.appended platform input digests acknowledgement clock).runs = db.runs ∧
    (db.appended platform input digests acknowledgement clock).events =
      db.events ++ eventRowsOf input.lease.runId input.events ∧
    (db.appended platform input digests acknowledgement clock).runMutations =
      db.runMutations ++ [mutationRow platform input (receiptFor input) clock] := by
  unfold appended withAcknowledgement withSnapshot
  split <;> split <;> exact ⟨rfl, rfl, rfl, rfl⟩

theorem commit_sound {input : FencedRunMutation} {clock : Nat} {receipt : MutationReceipt}
    (sound : Sound platform db)
    (committed : commit platform input clock db = (.ok receipt, next)) : Sound platform next := by
  obtain ⟨_, _, _, valid, clockValid, _, outcome⟩ := commit_ok committed
  rcases outcome with ⟨_, _, _, _, rfl⟩ | ⟨_, digests, acknowledgement, checked, _, rfl⟩
  · exact sound
  · obtain ⟨expected, exist⟩ := checkAppend_expected sound checked
    obtain ⟨leases, runs, events, mutations⟩ :=
      appended_fields platform db input digests acknowledgement clock
    exact sound_committed sound exist (validateMutation_ok.mp valid) clockValid expected leases runs
      events mutations

theorem perform_ok_sound {call : StoreCall} {clock : Nat} {result : StoreResult}
    (performed : perform platform call clock db = (.ok result, next))
    (sound : Sound platform db) : Sound platform next := by
  have unchanged := perform_reads performed
  cases call <;> simp only [perform, Action.tag_ok] at performed <;>
    obtain ⟨value, performed, rfl⟩ := performed
  case createOwned input =>
    obtain ⟨valid, absent, noLease, clockValid, expiryValid, _, _, rfl⟩ := createOwned_ok performed
    exact sound_created sound valid absent noLease clockValid expiryValid
  case acquireReleased input =>
    obtain ⟨lease, _, _, allowed, rfl, rfl⟩ := acquireReleased_ok performed
    exact sound_withLeases sound (by intro _ key; exact key) fun _ _ key =>
      grantedRow_readable allowed key
  case takeoverExpired input =>
    obtain ⟨lease, _, _, _, _, allowed, rfl, rfl⟩ := takeoverExpired_ok performed
    exact sound_withLeases sound (by intro _ key; exact key) fun _ _ key =>
      grantedRow_readable allowed key
  case renew token =>
    obtain ⟨lease, found, _, _, clockValid, expiryValid, rfl, rfl⟩ := renew_ok performed
    refine sound_withLeases sound (by intro _ key; exact key) fun row member key => ?_
    have same := lease?_row sound found member key
    refine ⟨?_, (sound.leases row member).ownerDigest⟩
    have renewed : (renewedRow (renewedLease lease clock) row).toRunLease =
        renewedLease lease clock := by
      rw [← same]
      rfl
    rw [renewed]
    exact (sound.leaseValid found).renewed clockValid expiryValid
  case release token =>
    obtain ⟨lease, _, _, ⟨_, rfl⟩ | ⟨_, rfl⟩⟩ := release_ok performed
    · exact sound
    · refine sound_withLeases sound (by intro _ key; exact key) fun row member _ => ?_
      have readable := sound.leases row member
      exact ⟨readable.valid.released true, readable.ownerDigest⟩
  case commit => exact commit_sound sound performed
  case submitControl input =>
    obtain ⟨_, rfl | ⟨_, _, rfl⟩⟩ := submitControl_ok performed
    · exact sound
    · exact ⟨sound.leaseKeys, sound.leases, sound.mutations, sound.mutationRuns, sound.eventRuns,
        sound.contiguous, sound.numbered⟩
  case load | inspectLease | pendingControls => exact unchanged rfl ▸ sound

/-- A call that writes neither event rows nor receipts. -/
theorem kept_of_rows {journal : Journal} {other : String}
    (kept : (sqliteImplementation platform).Keeps platform.hash db other journal)
    (events : next.events = db.events) (mutations : next.runMutations = db.runMutations) :
    (sqliteImplementation platform).Keeps platform.hash next other (journal.enter none) := by
  refine kept.unchanged ?_ ?_
  · simp only [sqliteImplementation, history, eventRows, events]
  · intro operationId
    simp only [sqliteImplementation, recorded, mutations]

/-- The events and receipts after one more batch with its receipt. -/
theorem kept_committed {input : FencedRunMutation} {receipt : MutationReceipt} {row : MutationRow}
    {journal : Journal} {other : String} (sound : Sound platform db) (after : Sound platform next)
    (valid : input.Valid) (expected : input.expectedSequence = (db.runEvents input.lease.runId).length)
    (unknown : Keyed.find db.runMutations (input.lease.runId, input.operationId) = none)
    (events : next.events = db.events ++ eventRowsOf input.lease.runId input.events)
    (mutations : next.runMutations = db.runMutations ++ [row])
    (key : Keyed.key row = (input.lease.runId, input.operationId))
    (content : (row.payloadDigest, row.receipt) =
      (mutationPayloadDigest platform.hash input, receipt))
    (kept : (sqliteImplementation platform).Keeps platform.hash db other journal) :
    (sqliteImplementation platform).Keeps platform.hash next other
      (journal.enter (if input.lease.runId = other then some ⟨input, receipt⟩ else none)) := by
  have rows (runId : String) : next.runEvents runId = db.runEvents runId ++
      if input.lease.runId = runId then eventRowsOf input.lease.runId input.events else [] := by
    rw [← runEvents_append platform input.lease.runId "" input.events runId]
    simp [runEvents, events, withEvents]
  have found (operationId : String) : next.recorded other operationId =
      (db.recorded other operationId).or
        (if (input.lease.runId, input.operationId) = (other, operationId) then
          some (mutationPayloadDigest platform.hash input, receipt) else none) := by
    simp only [recorded, mutations, Keyed.find_append, Keyed.find_cons, key]
    cases Keyed.find db.runMutations (other, operationId) with
    | some prior => rfl
    | none =>
      by_cases named : (input.lease.runId, input.operationId) = (other, operationId)
      · simp [named, content]
      · simp [named, Keyed.find]
  by_cases same : input.lease.runId = other
  · subst same
    rw [if_pos rfl]
    refine kept.appended valid rfl ?_ ?_ ?_ ?_
    · show db.recorded _ _ = none
      simp [recorded, unknown]
    · show _ = (db.history _).length
      rw [sound.history_eq, List.length_map, expected]
    · show next.history _ = db.history _ ++ _
      rw [after.history_eq, sound.history_eq, rows, if_pos rfl, List.map_append,
        eventRowsOf_events]
    · intro operationId
      refine (found operationId).trans ?_
      simp [sqliteImplementation]
  · rw [if_neg same]
    refine kept.unchanged ?_ ?_
    · show next.history _ = db.history _
      rw [after.history_eq, sound.history_eq, rows, if_neg same, List.append_nil]
    · intro operationId
      refine (found operationId).trans ?_
      simp [same, sqliteImplementation]

theorem createOwned_kept {input : CreateOwnedRun} {clock : Nat} {receipt : OwnedRunReceipt}
    {journal : Journal} {other : String} (sound : Sound platform db)
    (completed : createOwned platform input clock db = (.ok receipt, next))
    (kept : (sqliteImplementation platform).Keeps platform.hash db other journal) :
    (sqliteImplementation platform).Keeps platform.hash next other (journal.enter
      (committedBy other (.createOwned input) (.ok (.created receipt)))) := by
  obtain ⟨inputValid, absent, noLease, clockValid, expiryValid, noMutation, rfl, rfl⟩ :=
    createOwned_ok completed
  have after := sound_created sound inputValid absent noLease clockValid expiryValid
  refine kept_committed sound after (creationMutation_valid inputValid) ?_ noMutation rfl rfl rfl
    rfl kept
  have empty := sound.noEvents absent
  simp [creationMutation, empty]

theorem commit_kept {input : FencedRunMutation} {clock : Nat} {receipt : MutationReceipt}
    {journal : Journal} {other : String} (sound : Sound platform db)
    (committed : commit platform input clock db = (.ok receipt, next))
    (kept : (sqliteImplementation platform).Keeps platform.hash db other journal) :
    (sqliteImplementation platform).Keeps platform.hash next other (journal.enter
      (committedBy other (.commit input) (.ok (.committed receipt)))) := by
  have after := commit_sound sound committed
  obtain ⟨_, _, _, valid, _, _, outcome⟩ := commit_ok committed
  have valid := validateMutation_ok.mp valid
  rcases outcome with ⟨prior, known, _, rfl, rfl⟩ | ⟨unknown, digests, acknowledgement, checked,
    rfl, rfl⟩
  · by_cases same : input.lease.runId = other
    · subst same
      have recorded : (sqliteImplementation platform).recorded next input.lease.runId
          input.operationId = some (prior.payloadDigest, prior.receipt) := by
        simp [sqliteImplementation, recorded, known]
      simp only [committedBy, if_pos]
      rw [kept.replayed recorded]
      exact kept
    · simp only [committedBy, if_neg same]
      exact kept
  · obtain ⟨_, _, events, mutations⟩ :=
      appended_fields platform db input digests acknowledgement clock
    exact kept_committed sound after valid (checkAppend_expected sound checked).1 unknown events
      mutations rfl rfl kept

theorem perform_ok_kept {call : StoreCall} {clock : Nat} {result : StoreResult}
    {journal : Journal} {other : String} (sound : Sound platform db)
    (performed : perform platform call clock db = (.ok result, next))
    (kept : (sqliteImplementation platform).Keeps platform.hash db other journal) :
    (sqliteImplementation platform).Keeps platform.hash next other
      (journal.enter (committedBy other call (.ok result))) := by
  have unchanged := perform_reads performed
  cases call <;> simp only [perform, Action.tag_ok] at performed <;>
    obtain ⟨value, performed, rfl⟩ := performed
  case createOwned => exact createOwned_kept sound performed kept
  case commit => exact commit_kept sound performed kept
  case acquireReleased input =>
    obtain ⟨_, _, _, _, _, rfl⟩ := acquireReleased_ok performed
    exact kept_of_rows kept rfl rfl
  case takeoverExpired input =>
    obtain ⟨_, _, _, _, _, _, _, rfl⟩ := takeoverExpired_ok performed
    exact kept_of_rows kept rfl rfl
  case renew token =>
    obtain ⟨_, _, _, _, _, _, _, rfl⟩ := renew_ok performed
    exact kept_of_rows kept rfl rfl
  case release token =>
    obtain ⟨_, _, _, ⟨_, rfl⟩ | ⟨_, rfl⟩⟩ := release_ok performed
    · exact kept
    · exact kept_of_rows kept rfl rfl
  case submitControl input =>
    obtain ⟨_, rfl | ⟨_, _, rfl⟩⟩ := submitControl_ok performed
    · exact kept
    · exact kept_of_rows kept rfl rfl
  case load | inspectLease | pendingControls => exact unchanged rfl ▸ kept

theorem commit_malformed {input : FencedRunMutation} {clock : Nat} {failure : Failure}
    (invalid : validateMutation input = .error failure) :
    commit platform input clock db = (.error failure, db) := by
  simp only [commit, Action.lift_bind, invalid]

/-- A well-formed retry under a live fence compares payload digests and nothing else. -/
theorem commit_retried {input : FencedRunMutation} {clock : Nat} {lease : RunLease}
    {prior : MutationRow} (sound : Sound platform db)
    (found : db.lease? input.lease.runId = some lease) (valid : input.Valid)
    (clockValid : positive clock = true) (live : lease.Live input.lease clock)
    (known : Keyed.find db.runMutations (input.lease.runId, input.operationId) = some prior) :
    commit platform input clock db =
      (if prior.payloadDigest = mutationPayloadDigest platform.hash input
        then .ok { prior.receipt with replayed := true }
        else .error (.store .idempotencyConflict "Operation payload changed on retry"), db) := by
  have clockOk := validateClock_ok.mpr ⟨clockValid, rfl⟩
  have fenced : requireFence platform db input.lease clock = .ok lease := by
    simp only [requireFence, sound.readLease found, bind_ok, requireSome_ok, pure_ok]
    exact ⟨some lease, rfl, lease, rfl, (), fenceLease_of_live live, rfl⟩
  have row := sound.mutations prior (Keyed.find_mem known)
  have key := Keyed.find_key known
  have named : input.lease.runId = prior.runId ∧ input.operationId = prior.operationId :=
    ⟨(congrArg Prod.fst key).symm, (congrArg Prod.snd key).symm⟩
  simp only [commit, valid.validated, writeTransaction, Action.lift_bind, Action.get_bind, clockOk,
    fenced, known, row, require, beq_iff_eq]
  by_cases same : prior.payloadDigest = mutationPayloadDigest platform.hash input
  · simp only [same, if_true]
    simp [pure, MutationRow.receipt, named]
  · simp only [same, if_false]

theorem sound_empty : Sound platform .empty where
  leaseKeys := List.Pairwise.nil
  leases := by intro _ member; cases member
  mutations := by intro _ member; cases member
  mutationRuns := by intro _ member; cases member
  eventRuns := by intro _ member; cases member
  contiguous _ := rfl
  numbered := by intro _ member; cases member

end SqliteStore

theorem sqliteImplementation_journals (platform : Platform) :
    (sqliteImplementation platform).Journals platform.hash (SqliteStore.Sound platform) where
  initial := SqliteStore.sound_empty
  empty runId := ⟨rfl, fun _ => rfl, rfl, by intro _ member; cases member⟩
  preserved call clock state sound := by
    cases performed : SqliteStore.perform platform call clock state with
    | mk result next =>
      simp only [sqliteImplementation, performed]
      cases result with
      | ok value => exact SqliteStore.perform_ok_sound performed sound
      | error failure => exact SqliteStore.perform_error_state performed ▸ sound
  leaseValid state runId lease sound found := sound.leaseValid found
  kept call clock state runId journal sound kept := by
    cases performed : SqliteStore.perform platform call clock state with
    | mk result next =>
      show (sqliteImplementation platform).Keeps _ (SqliteStore.perform platform call clock state).2
        runId (journal.enter (committedBy runId call (SqliteStore.perform platform call clock state).1))
      rw [performed]
      cases result with
      | ok value => exact SqliteStore.perform_ok_kept sound performed kept
      | error failure =>
        rw [committedBy_error, SqliteStore.perform_error_state performed]
        exact kept
  retried input clock state journal original sound kept found live clockValid valid := by
    obtain ⟨lease, present, live⟩ := live
    have recorded := kept.recorded input.operationId
    rw [found] at recorded
    obtain ⟨prior, known, same⟩ := Option.map_eq_some_iff.mp recorded
    simp only [Prod.mk.injEq] at same
    have retried := SqliteStore.commit_retried sound present valid clockValid live known
    refine (Action.tag_run retried).trans ?_
    rw [same.1, same.2]
    by_cases equal : mutationPayloadDigest platform.hash input =
        mutationPayloadDigest platform.hash original.mutation
    · rw [if_pos equal.symm, if_pos equal]
      rfl
    · rw [if_neg fun other => equal other.symm, if_neg equal]
      rfl
  malformed input clock state failure invalid := by
    exact Action.tag_error.mpr (SqliteStore.commit_malformed invalid)
  throws input clock state failure thrown := by
    have performed : SqliteStore.perform platform (.commit input) clock state =
        (.error failure, _) := Prod.ext thrown rfl
    exact SqliteStore.perform_error_state performed

end Anastom
