import Anastom.Core.JsonText
import Anastom.Data.LossyUtf8
import Anastom.Data.Prefixes
import Anastom.Engine.MutationPayload
import Anastom.Persistence.SqliteJournal

/-! Reading a run whose event rows someone else may have rewritten. A row is the text it
holds; every digest chains on the one before it, so the last digest pins all texts. -/
namespace Anastom

/-- A row of `events` as the query returns it. -/
structure StoredEvent where
  sequence : Nat
  eventType : String
  eventJson : String
  deriving DecidableEq, Repr

/-- The row of an event that the store wrote. -/
def EventRow.stored (row : EventRow) : StoredEvent :=
  { sequence := row.sequence, eventType := row.eventType,
    eventJson := Json.canonicalJson row.event.toJson }

/-- A row of `events` as it is stored: a text is any bytes, and no query reads when the row
was recorded. -/
structure EventRecord where
  sequence : Nat
  eventType : Bytes
  eventJson : Bytes
  recordedAt : String
  deriving DecidableEq, Repr

/-- `SELECT sequence,event_type,event_json`, where the driver reads stored texts this way. -/
def EventRecord.selected (text : Bytes → String) (record : EventRecord) : StoredEvent where
  sequence := record.sequence
  eventType := text record.eventType
  eventJson := text record.eventJson

/-- The row that is stored for an inserted one. -/
def StoredEvent.record (recordedAt : String) (row : StoredEvent) : EventRecord where
  sequence := row.sequence
  eventType := Utf8.encode row.eventType
  eventJson := Utf8.encode row.eventJson
  recordedAt := recordedAt

namespace Integrity
open Json

/-- The record whose digest is the next entry of the history chain. -/
def historyRecord (previous runId : String) (row : StoredEvent) (eventDigest : String) : JsonValue :=
  .object [("version", .string "anastom.dev/event-history/v1alpha1"),
    ("previous", .string previous), ("runId", .string runId),
    ("sequence", JsonValue.nat row.sequence), ("eventType", .string row.eventType),
    ("eventDigest", .string eventDigest)]

variable (hash : Hash)

/-- `extendEventHistoryDigest` from the exact bytes of an event row. -/
def rowDigests (previous runId : String) (row : StoredEvent) : String × String :=
  let eventDigest := hash.digestBytes row.eventJson
  (eventDigest, hash.digestJson (historyRecord previous runId row eventDigest))

/-- The history digest after some rows. -/
def chainEnd (runId previous : String) (rows : List StoredEvent) : String :=
  rows.foldl (fun digest row => (rowDigests hash digest runId row).2) previous

/-- The integrity rows that go with some event rows. -/
def chainRows (runId : String) : String → List StoredEvent → List IntegrityRow
  | _, [] => []
  | previous, row :: rest =>
    let integrity := rowDigests hash previous runId row
    { runId, sequence := row.sequence, eventDigest := integrity.1, historyDigest := integrity.2 } ::
      chainRows runId integrity.2 rest

/-- `validateIntegrity`: every event digest chains on the previous one, and coverage has
no gap once it starts. -/
def checkChain (runId : String) (integrity : List IntegrityRow) :
    String → Bool → List StoredEvent → Except Failure (List String)
  | _, _, [] => .ok []
  | previous, coverageStarted, row :: rest => do
    let expected := rowDigests hash previous runId row
    let stored := integrity.find? (·.sequence == row.sequence)
    require (match stored with
        | some stored => stored.eventDigest == expected.1 && stored.historyDigest == expected.2
        | none => !coverageStarted)
      (.error "Event integrity digest mismatch or gap")
    let digests ← checkChain runId integrity expected.2 (coverageStarted || stored.isSome) rest
    pure (expected.2 :: digests)

def validate (runId : String) (integrity : List IntegrityRow) (rows : List StoredEvent) :
    Except Failure (List String) := do
  let digests ← checkChain hash runId integrity hash.emptyEventHistoryDigest false rows
  require (integrity.all fun entry => rows.any fun row => row.sequence == entry.sequence)
    (.error "Event integrity refers to absent history")
  pure digests

/-- No two of the texts share a digest. -/
def CollisionFree (texts : List String) : Prop :=
  ∀ left ∈ texts, ∀ right ∈ texts, hash.digestBytes left = hash.digestBytes right → left = right

variable {hash} {runId previous : String} {integrity : List IntegrityRow}

theorem chainRows_append (rows more : List StoredEvent) :
    chainRows hash runId previous (rows ++ more) =
      chainRows hash runId previous rows ++
        chainRows hash runId (chainEnd hash runId previous rows) more := by
  induction rows generalizing previous with
  | nil => rfl
  | cons row rest ih => simp only [List.cons_append, chainRows, ih, chainEnd, List.foldl_cons]

theorem CollisionFree.subset {texts fewer : List String} (free : CollisionFree hash texts)
    (subset : fewer ⊆ texts) : CollisionFree hash fewer :=
  fun left leftMember right rightMember =>
    free left (subset leftMember) right (subset rightMember)

end Integrity
end Anastom
