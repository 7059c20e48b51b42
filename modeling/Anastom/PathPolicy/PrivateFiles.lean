import Anastom.Data.Volume

/-! Calls on one leaf of a private path root, each a machine that takes one file-system step
at a time. Every call reads and writes through the same directory, so a run is any order
of their steps. -/
namespace Anastom.PrivatePath

/-- The names in the directory of the leaf that calls touch; each write makes up a
temporary name of its own. -/
inductive Name (ι : Type) where
  | target
  | temporary (call : ι)
  deriving DecidableEq

inductive Call where
  | readFile (maxBytes : Nat)
  | writeFileAtomic (bytes : List UInt8) (maxBytes : Nat)
  | writeFileExclusive (bytes : List UInt8) (maxBytes : Nat)
  deriving DecidableEq

namespace Call

def maxBytes : Call → Nat
  | readFile maxBytes | writeFileAtomic _ maxBytes | writeFileExclusive _ maxBytes => maxBytes

def bytes : Call → List UInt8
  | readFile _ => []
  | writeFileAtomic bytes _ | writeFileExclusive bytes _ => bytes

def writes : Call → Bool
  | readFile _ => false
  | writeFileAtomic .. | writeFileExclusive .. => true

end Call

def readChunkBytes : Nat := 64 * 1024

/-- What a bounded read returns or throws. A leaf that is not there is the error of `lstat`
or `open`; the others have the reason `limit` or `changed`. -/
inductive ReadResult where
  | missing
  | limit
  | changed
  | content (bytes : List UInt8)
  deriving DecidableEq

/-- Where a bounded read stands, named after what it does next. -/
inductive Reading where
  | start
  | opening (initial : Stat)
  | stat (initial : Stat) (handle : Nat)
  | chunks (opened : Stat) (handle : Nat) (read : List UInt8)
  | final (opened : Stat) (handle : Nat) (read : List UInt8)
  | current (opened final : Stat) (read : List UInt8)
  | done (result : ReadResult)
  deriving DecidableEq

/-- The device is the same throughout. -/
def sameIdentity (left right : Stat) : Bool :=
  left.ino == right.ino && left.size == right.size && left.mtime == right.mtime &&
    left.ctime == right.ctime

variable {ι : Type}

/-- One step of a bounded read. A read of a chunk gets some of the bytes that are left, and
none only at the end of the file. -/
def boundedDescriptorRead (maxBytes : Nat) (v : Volume (Name ι)) (granted : Nat) :
    Reading → Reading
  | .start =>
    match v.entry .target with
    | none => .done .missing
    | some n =>
      let initial := v.stat n
      if initial.size > maxBytes then .done .limit else .opening initial
  | .opening initial =>
    match v.entry .target with
    | none => .done .missing
    | some handle => .stat initial handle
  | .stat initial handle =>
    let opened := v.stat handle
    if sameIdentity initial opened then .chunks opened handle [] else .done .changed
  | .chunks opened handle read =>
    if read.length ≤ maxBytes then
      let capacity := min readChunkBytes (maxBytes + 1 - read.length)
      let chunk := ((v.content handle).drop read.length).take (min (max granted 1) capacity)
      if chunk.isEmpty then .final opened handle read else .chunks opened handle (read ++ chunk)
    else .done .limit
  | .final opened handle read => .current opened (v.stat handle) read
  | .current opened final read =>
    match v.entry .target with
    | none => .done .missing
    | some n =>
      if sameIdentity opened final && sameIdentity final (v.stat n) then .done (.content read)
      else .done .changed
  | .done result => .done result

/-- What a call returns or throws. -/
inductive Result where
  | read (result : ReadResult)
  | published
  /-- More bytes than the limit of the call. -/
  | refused
  /-- The leaf could not be read back. -/
  | unread (result : ReadResult)
  /-- The leaf holds other bytes. -/
  | differs
  deriving DecidableEq

/-- Where a call stands. A write knows the file of its temporary name by its number. -/
inductive Phase where
  | start
  | created (n : Nat)
  | filled (n : Nat)
  | ready (n : Nat)
  | linked (n : Nat) (created : Bool)
  | reading (reading : Reading)
  | done (result : Result)
  deriving DecidableEq

/-- The result of a write by what it read back. -/
def observed (bytes : List UInt8) : ReadResult → Result
  | .content observed => if observed = bytes then .published else .differs
  | result => .unread result

variable [DecidableEq ι] (i : ι) (granted : Nat) (v : Volume (Name ι))

/-- One step of a write before it reads the leaf back. Syncing and closing change nothing. -/
def Call.write (publish : Nat → Volume (Name ι) × Phase) (call : Call) :
    Phase → Volume (Name ι) × Phase
  | .start =>
    if call.bytes.length > call.maxBytes then (v, .done .refused)
    else (v.create (.temporary i), .created v.next)
  | .created n => (v.append n call.bytes, .filled n)
  | .filled n => (v.change n, .ready n)
  | .ready n => publish n
  | .linked _ _ => (v.unlink (.temporary i), .reading .start)
  | phase => (v, phase)

/-- One step of a call. -/
def Call.step (call : Call) : Phase → Volume (Name ι) × Phase
  | .reading (.done result) =>
    match call with
    | .readFile _ => (v, .done (.read result))
    | .writeFileAtomic bytes _ => (v, .done (observed bytes result))
    | .writeFileExclusive bytes _ => (v.unlink (.temporary i), .done (observed bytes result))
  | .reading reading => (v, .reading (boundedDescriptorRead call.maxBytes v granted reading))
  | .done result => (v, .done result)
  | phase =>
    match call with
    | .readFile _ => (v, .reading .start)
    | .writeFileAtomic .. =>
      call.write i v (fun _ => (v.rename (.temporary i) .target, .reading .start)) phase
    | .writeFileExclusive .. =>
      call.write i v (fun n =>
        match v.entry .target with
        | none => (v.link .target n, .linked n true)
        | some _ => (v, .linked n false)) phase

structure System (ι : Type) where
  volume : Volume (Name ι)
  phase : ι → Phase

inductive Action (ι : Type) where
  | tick (elapsed : Nat)
  | run (call : ι) (granted : Nat)

/-- An empty directory, and no call begun. -/
def System.initial : System ι where
  volume := ⟨fun _ => none, fun _ => ⟨[], 0, 0⟩, 0, 0⟩
  phase _ := .start

variable (calls : ι → Call)

def System.step (s : System ι) : Action ι → System ι
  | .tick elapsed => { s with volume := s.volume.tick elapsed }
  | .run i granted =>
    let next := (calls i).step i granted s.volume (s.phase i)
    { volume := next.1, phase := Function.update s.phase i next.2 }

/-- The state after some steps of the calls, in any order. -/
def System.run (actions : List (Action ι)) : System ι :=
  actions.foldl (System.step calls) System.initial

end Anastom.PrivatePath
