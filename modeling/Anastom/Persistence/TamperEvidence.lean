import Anastom.Persistence.Integrity
import Anastom.Persistence.OwnedCreation

/-! Tamper evidence of the SQLite store: event rows that load against integrity rows of
the store say what it wrote, as far as a query reads them. -/
namespace Anastom
namespace SqliteStore
open Integrity

section Reading
variable (platform : Platform) (parse : String → Option RunEvent)

end Reading

/-- The event rows of a run as texts. -/
def storedRows (db : SqliteStore) (runId : String) : List StoredEvent :=
  (db.runEvents runId).map EventRow.stored

def integrityRows (db : SqliteStore) (runId : String) : List IntegrityRow :=
  db.eventIntegrity.filter (·.runId == runId)

/-- The stored event rows of a run. -/
def storedRecords (db : SqliteStore) (recordedAt : Nat → String) (runId : String) :
    List EventRecord :=
  (db.storedRows runId).map fun row => row.record (recordedAt row.sequence)

section Reachable
variable {platform : Platform} {hash : Hash} {parse : String → Option RunEvent} {db next : SqliteStore}
  {runId previous : String}

theorem runEvents_mem {row : EventRow} (member : row ∈ db.runEvents runId) : row ∈ db.events :=
  List.mem_of_mem_filter member

/-- The integrity rows of every run chain its event rows. -/
structure Chained (platform : Platform) (db : SqliteStore) : Prop where
  typed : ∀ row ∈ db.events, row.eventType = row.event.payload.type
  chain : ∀ runId, db.integrityRows runId =
    chainRows platform.hash runId platform.hash.emptyEventHistoryDigest (db.storedRows runId)

theorem chained_empty : Chained platform .empty where
  typed := by intro _ member; cases member
  chain _ := rfl

theorem integrityRowsOf_chain (events : List RunEvent) :
    integrityRowsOf hash runId previous events =
      chainRows hash runId previous ((eventRowsOf runId events).map EventRow.stored) := by
  induction events generalizing previous with
  | nil => rfl
  | cons event rest ih =>
    simp only [integrityRowsOf, ih]
    rfl

theorem integrityRowsOf_run {events : List RunEvent} {row : IntegrityRow}
    (member : row ∈ integrityRowsOf hash runId previous events) : row.runId = runId := by
  induction events generalizing previous with
  | nil => cases member
  | cons event rest ih =>
    rcases List.mem_cons.mp member with rfl | later
    · rfl
    · exact ih later

theorem canonicalJson_plain (value : JsonValue) :
    Char.ofNat 0 ∉ (Json.canonicalJson value).toList := by
  intro listed
  rw [Json.canonicalJson, String.toList_ofList] at listed
  exact absurd (Json.canonicalChars_printable value _ listed) (by decide)

/-- A batch that extends the chain of its run. -/
theorem Chained.append {batchRun : String} {events : List RunEvent} (chained : Chained platform db)
    (eventTable : next.events = db.events ++ eventRowsOf batchRun events)
    (integrityTable : next.eventIntegrity = db.eventIntegrity ++
      integrityRowsOf platform.hash batchRun (chainEnd platform.hash batchRun
        platform.hash.emptyEventHistoryDigest (db.storedRows batchRun)) events) :
    Chained platform next := by
  constructor
  · intro row member
    rw [eventTable] at member
    rcases List.mem_append.mp member with earlier | batch
    · exact chained.typed row earlier
    · obtain ⟨event, _, rfl⟩ := List.mem_map.mp batch
      rfl
  · intro other
    have rows : next.runEvents other = db.runEvents other ++
        if batchRun = other then eventRowsOf batchRun events else [] := by
      rw [← runEvents_append platform batchRun "" events other]
      simp [runEvents, eventTable, withEvents]
    rw [storedRows, rows, List.map_append, chainRows_append, integrityRows, integrityTable,
      List.filter_append]
    have before := chained.chain other
    rw [integrityRows, storedRows] at before
    rw [before]
    by_cases same : batchRun = other
    · subst same
      rw [if_pos rfl, List.filter_eq_self.mpr fun row member => by
        simpa using integrityRowsOf_run member, integrityRowsOf_chain]
      rfl
    · rw [if_neg same, List.filter_eq_nil_iff.mpr fun row member => by
        simpa [integrityRowsOf_run member] using same]
      rfl

/-- On numbered and typed rows the typed check is the check of their texts. -/
theorem integrityDigests_checkChain {integrity : List IntegrityRow} {rows : List EventRow}
    {started : Bool} (numbered : ∀ row ∈ rows, row.event.sequence = row.sequence)
    (typed : ∀ row ∈ rows, row.eventType = row.event.payload.type) :
    integrityDigests platform runId integrity previous started rows =
      checkChain platform.hash runId integrity previous started (rows.map EventRow.stored) := by
  induction rows generalizing previous started with
  | nil => rfl
  | cons row rest ih =>
    have digests : extendEventHistoryDigest platform.hash previous runId
        { row.event with sequence := row.sequence } =
          rowDigests platform.hash previous runId row.stored := by
      have event : { row.event with sequence := row.sequence } = row.event := by
        rw [← numbered row List.mem_cons_self]
      rw [event]
      simp only [extendEventHistoryDigest, rowDigests, historyRecord, EventRow.stored,
        typed row List.mem_cons_self, numbered row List.mem_cons_self]
    simp only [integrityDigests, List.map_cons, checkChain, digests]
    have tail (previous : String) (started : Bool) := @ih previous started
      (fun row member => numbered row (List.mem_cons_of_mem _ member))
      (fun row member => typed row (List.mem_cons_of_mem _ member))
    simp only [tail]
    rfl

theorem checkChain_digests {integrity : List IntegrityRow} {rows : List StoredEvent}
    {started : Bool} {digests : List String}
    (checked : checkChain hash runId integrity previous started rows = .ok digests) :
    digests.getLast?.getD previous = chainEnd hash runId previous rows := by
  induction rows generalizing previous started digests with
  | nil => cases checked; rfl
  | cons row rest ih =>
    simp only [checkChain, bind_ok, require_ok, pure_ok] at checked
    obtain ⟨_, _, rest, checked, rfl⟩ := checked
    rw [List.getLast?_cons, Option.getD_some, ih checked]
    rfl

/-- A run that reads back has the digests of its chain. -/
theorem readAuthoritativeRun_lastDigest {run : AuthoritativeRun} (sound : Sound platform db)
    (chained : Chained platform db)
    (read : readAuthoritativeRun platform db runId = .ok (some run)) :
    lastDigest platform.hash run.historyDigests = chainEnd platform.hash runId
      platform.hash.emptyEventHistoryDigest (db.storedRows runId) := by
  have validated := (readAuthoritativeRun_ok read).2.2
  simp only [validateIntegrity, bind_ok, require_ok, pure_ok, sound.eventRows_eq] at validated
  obtain ⟨_, checked, _, _, rfl⟩ := validated
  rw [integrityDigests_checkChain
    (fun row member => sound.numbered row (runEvents_mem member))
    (fun row member => chained.typed row (runEvents_mem member))] at checked
  exact checkChain_digests checked

theorem perform_ok_chained {call : StoreCall} {clock : Nat} {result : StoreResult}
    (performed : perform platform call clock db = (.ok result, next)) (sound : Sound platform db)
    (chained : Chained platform db) : Chained platform next := by
  have unchanged := perform_reads performed
  cases call <;> simp only [perform, Action.tag_ok] at performed <;>
    obtain ⟨value, performed, rfl⟩ := performed
  case createOwned input =>
    obtain ⟨_, absent, _, _, _, _, _, rfl⟩ := createOwned_ok performed
    have appended : (db.created platform input clock).events =
        db.events ++ eventRowsOf input.runId input.initialEvents := rfl
    refine chained.append appended ?_
    rw [storedRows, sound.noEvents absent]
    rfl
  case commit input =>
    obtain ⟨_, _, _, _, _, _, outcome⟩ := commit_ok performed
    rcases outcome with ⟨_, _, _, _, rfl⟩ | ⟨_, digests, acknowledgement, checked, _, rfl⟩
    · exact chained
    · obtain ⟨run, read, _, rfl⟩ := checkAppend_ok checked
      obtain ⟨_, _, events, _⟩ :=
        appended_fields platform db input run.historyDigests acknowledgement clock
      refine chained.append events ?_
      rw [← readAuthoritativeRun_lastDigest sound chained read]
      unfold appended withAcknowledgement withSnapshot
      split <;> split <;> rfl
  case acquireReleased input =>
    obtain ⟨_, _, _, _, _, rfl⟩ := acquireReleased_ok performed
    exact ⟨chained.typed, chained.chain⟩
  case takeoverExpired input =>
    obtain ⟨_, _, _, _, _, _, _, rfl⟩ := takeoverExpired_ok performed
    exact ⟨chained.typed, chained.chain⟩
  case renew token =>
    obtain ⟨_, _, _, _, _, _, _, rfl⟩ := renew_ok performed
    exact ⟨chained.typed, chained.chain⟩
  case release token =>
    obtain ⟨_, _, _, ⟨_, rfl⟩ | ⟨_, rfl⟩⟩ := release_ok performed
    · exact chained
    · exact ⟨chained.typed, chained.chain⟩
  case submitControl input =>
    obtain ⟨_, rfl | ⟨_, _, rfl⟩⟩ := submitControl_ok performed
    · exact chained
    · exact ⟨chained.typed, chained.chain⟩
  case load | inspectLease | pendingControls => exact unchanged rfl ▸ chained

theorem reached_chained (platform : Platform) (calls : List (StoreCall × Nat)) :
    Sound platform ((sqliteImplementation platform).finalState .empty calls) ∧
      Chained platform ((sqliteImplementation platform).finalState .empty calls) := by
  let Inv (db : SqliteStore) : Prop := Sound platform db ∧ Chained platform db
  have preserved (call : StoreCall) (clock : Nat) (db : SqliteStore) (inv : Inv db) :
      Inv (perform platform call clock db).2 := ?_
  · exact (sqliteImplementation platform).finalState_invariant preserved calls
      ⟨sound_empty, chained_empty⟩
  obtain ⟨sound, chained⟩ := inv
  cases performed : perform platform call clock db with
  | mk result next =>
    cases result with
    | ok value => exact ⟨perform_ok_sound performed sound, perform_ok_chained performed sound chained⟩
    | error failure => exact perform_error_state performed ▸ ⟨sound, chained⟩

end Reachable

namespace TamperSample

/-- An event that the store did not write, in place of the second one. -/
def forged : RunEvent := { Sample.ready with payload := .nodeReady "build" .retry }

def digestOf (n : Nat) : String := String.ofList ("sha256:".toList ++ hexDigits 64 n)

def rowOf (event : RunEvent) : StoredEvent where
  sequence := event.sequence
  eventType := event.payload.type
  eventJson := Json.canonicalJson event.toJson

/-- What is digested of the two events and of the forged one, by the place in this list. -/
def values : List JsonValue :=
  [Sample.created.toJson, Sample.ready.toJson, forged.toJson,
    historyRecord (digestOf 6) "run" (rowOf Sample.created) (digestOf 0),
    historyRecord (digestOf 3) "run" (rowOf Sample.ready) (digestOf 1),
    historyRecord (digestOf 3) "run" (rowOf forged) (digestOf 2)]

def texts : List String := values.map Json.canonicalJson

/-- A digest that tells these texts apart. -/
def hash : Hash where
  digestBytes bytes := digestOf (texts.idxOf bytes)
  wellFormed _ := digest_hexDigits _

def platform : Platform := { Sample.platform with hash }

/-- The digested texts differ from each other and from that of an empty history, and so do
their digests. -/
theorem values_checked : (values.map Json.canonicalChars).Nodup ∧
    "anastom.dev/event-history/v1alpha1\n".toList ∉ values.map Json.canonicalChars ∧
    ∀ n < 6, ∀ m < 6, digestOf n = digestOf m → n = m := by
  decide +kernel

theorem free {some : List String} (known : some ⊆ texts) : CollisionFree hash some := by
  intro left leftListed right rightListed same
  have here := known leftListed
  refine (List.idxOf_inj here).mp (values_checked.2.2 _ ?_ _ ?_ same)
  · exact List.idxOf_lt_length_of_mem here
  · exact List.idxOf_lt_length_of_mem (known rightListed)

def state : RunState :=
  { Sample.state with
    sequence := 2, nodes := [{ id := "build", status := .ready, attempts := [] }] }

def creation : CreateOwnedRun :=
  { Sample.creation with
    initialEvents := [Sample.created, Sample.ready]
    snapshot := snapshotOf hash Sample.workflow state
      (extendPrefix hash hash.emptyEventHistoryDigest [Sample.created, Sample.ready]) }

/-- `JSON.parse` on the texts of the events. -/
def parse (text : String) : Option RunEvent :=
  ([Sample.created, Sample.ready, forged].find? fun event =>
    Json.canonicalJson event.toJson == text).map RunEvent.parsed

theorem input_checked :
    (Text.identifier creation.runId = true ∧ Text.uuid creation.ownerId = true ∧
      creation.owner.valid = true) ∧
    Text.identifier creation.operationId = true ∧ shortText creation.ownerId = true ∧
    shortText creation.operationId = true ∧ state.Fits ∧
    assertWorkflowDefinition platform.ajv Sample.workflow = true ∧
    replayRun [Sample.created, Sample.ready] = .ok state ∧
    stateMatchesWorkflow state Sample.workflow = true := by
  decide +kernel

/-- What is read back of the creation. -/
theorem output_checked : assertWorkflowDefinition platform.ajv Sample.workflow.parsed = true ∧
    parseEventRows "run" (eventRowsOf "run" [Sample.created, Sample.ready]) =
      .ok [Sample.created.parsed, Sample.ready.parsed] ∧
    replayRun [Sample.created.parsed, Sample.ready.parsed] = .ok state ∧
    assertStateMatchesWorkflow state Sample.workflow.parsed = .ok () ∧
    assertIdentifier "run" "run ID" = .ok () ∧
    ∀ event ∈ [Sample.created, Sample.ready],
      parse (Json.canonicalJson event.toJson) = some event.parsed := by
  decide +kernel

theorem creation_valid : validateCreateOwnedRun platform creation = .ok () := by
  obtain ⟨acquisition, operationId, _, _, fits, accepted, replayed, matching⟩ := input_checked
  refine validateCreateOwnedRun_ok.mpr ⟨validateAcquisition_ok.mpr acquisition, operationId,
    accepted, ?_, state, replayed, rfl, matching⟩
  exact assertRunSnapshot_ok.mpr ⟨_, createRunSnapshot_ok.mpr
    ⟨accepted, state, replayed, matching, fits, rfl⟩, RunSnapshot.same_refl _⟩

def store : SqliteStore := SqliteStore.empty.created platform creation 1

theorem snapshotRow_check : (snapshotRow creation.snapshot 1).check = true := by
  obtain ⟨_, _, _, _, fits, _⟩ := input_checked
  have size : (Json.canonicalJson state.toJson).utf8ByteSize ≤ 4194304 := fits
  have chained : digestColumn creation.snapshot.eventPrefixDigest = true :=
    digestColumn_digest hash _
  have sequence : state.sequence = 2 := rfl
  simp only [SnapshotRow.check, snapshotRow, chained]
  simp [creation, snapshotOf, sequence, RunSnapshot.stateJson, size, Hash.digestJson,
    digestColumn_digest]

theorem creation_performed : createOwned platform creation 1 .empty =
    (.ok { lease := (creationMutation creation).lease, mutation := creationReceipt creation },
      store) := by
  obtain ⟨_, _, ownerId, operationId, _⟩ := input_checked
  have owner := digestColumn_digest platform.hash (Json.canonicalJson creation.owner.toJson)
  refine createOwned_empty creation_valid (by decide) (by decide) ?_ snapshotRow_check rfl
    operationId rfl
  simp [LeaseRow.check, createdLease, ownerId, Hash.digestJson, owner]

def calls : List (StoreCall × Nat) := [(.createOwned creation, 1)]

theorem store_reached : store = (sqliteImplementation platform).finalState .empty calls :=
  (perform_createOwned creation_performed).symm

theorem store_sound : Sound platform store ∧ Chained platform store := by
  rw [store_reached]
  exact reached_chained platform calls

theorem runEvents_eq : store.runEvents "run" = eventRowsOf "run" [Sample.created, Sample.ready] := by
  have rows := @runEvents_append SqliteStore.empty platform "run" hash.emptyEventHistoryDigest
    [Sample.created, Sample.ready] "run"
  rw [if_pos rfl] at rows
  exact rows

theorem history_eq : store.history "run" = [Sample.created, Sample.ready] := by
  rw [store_sound.1.history_eq, runEvents_eq, eventRowsOf_events]

theorem reads : ∀ event ∈ store.history "run",
    parse (Json.canonicalJson event.toJson) = some event.parsed := by
  obtain ⟨_, _, _, _, _, parsed⟩ := output_checked
  rw [history_eq]
  exact parsed

/-- The rows as the store wrote them. -/
def written : List EventRecord := store.storedRecords (fun _ => "now") "run"

/-- The first row recorded at another time. -/
def later : List EventRecord :=
  [(rowOf Sample.created).record "later", (rowOf Sample.ready).record "now"]

end TamperSample
open TamperSample

end SqliteStore
end Anastom
