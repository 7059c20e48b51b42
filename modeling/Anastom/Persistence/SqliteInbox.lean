import Anastom.Data.StableSort
import Anastom.Persistence.Inboxes
import Anastom.Persistence.SqliteJournal

/-! The SQLite store keeps the inbox of every run. Its own invariant: the control
rows stay readable, and belong to runs that exist. -/
namespace Anastom
open Inbox

def ControlRow.posted (row : ControlRow) : Posted ControlRequest :=
  ⟨row.toControlRequest, row.acknowledgedSequence.isSome⟩

def SqliteStore.inbox (db : SqliteStore) (runId : String) : List (Posted ControlRequest) :=
  (db.controlRequests.filter (·.runId == runId)).map ControlRow.posted

namespace SqliteStore
variable {platform : Platform} {db next : SqliteStore} {runId : String}

/-- A control row that every later read accepts, of a run that exists. -/
structure ControlReadable (db : SqliteStore) (row : ControlRow) : Prop where
  valid : validateControlSubmission row.toControlSubmission = .ok ()
  recordedAtMs : positive row.recordedAtMs = true
  acknowledgedSequence : row.acknowledgedSequence.all positive = true
  run : db.runExists row.runId = true

theorem ControlReadable.read {row : ControlRow} (readable : ControlReadable db row) :
    controlFromRow row = .ok row.toControlRequest := by
  simp [controlFromRow, readable.valid, assertTimestamp, readable.recordedAtMs,
    readable.acknowledgedSequence, require, asStoreError, bind, Except.bind, pure, Except.pure]

end SqliteStore

end Anastom
