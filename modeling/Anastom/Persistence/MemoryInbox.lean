import Anastom.Data.StableSort
import Anastom.Persistence.Inboxes
import Anastom.Persistence.MemoryJournal

/-! The in-memory store keeps the inbox of every run. -/
namespace Anastom
open Inbox

def MemoryControl.posted (control : MemoryControl) : Posted ControlRequest :=
  ⟨control.toControlRequest, control.acknowledgedSequence.isSome⟩

def MemoryStore.inbox (store : MemoryStore) (runId : String) : List (Posted ControlRequest) :=
  ((store.run? runId).map fun run => run.controls.map MemoryControl.posted).getD []

namespace MemoryStore
variable {platform : Platform} {store next : MemoryStore} {runId : String}

end MemoryStore

end Anastom
