import Anastom.Data.ByteSize
import Anastom.Data.PosixPath
import Anastom.Engine.DurableStore
import Anastom.Engine.WorkflowEngine

/-! Immutable evidence files under one private state directory. The directory is
only written through this store: it holds no links, and every file is ordinary. -/
namespace Anastom

namespace Text

def pathTail (c : Char) : Bool := c.isAlphanum || c == '_' || c == '-'

/-- `^[a-zA-Z0-9][a-zA-Z0-9_-]*$` -/
def pathName (s : String) : Bool :=
  match s.toList with
  | [] => false
  | head :: tail => identifierHead head && tail.all pathTail

/-- `^[a-zA-Z0-9][a-zA-Z0-9_-]{0,127}$`, of artifact identities and run IDs. -/
def pathIdentity (s : String) : Bool := pathName s && decide (s.toList.length ≤ 128)

end Text

/-- `assertRunId` of the workspace manager. -/
def assertRunId (id : String) : Except Failure Unit :=
  require (Text.pathIdentity id) (.error "Invalid run ID")

/-- The digest of artifact bytes: SHA-256 in prefixed lowercase hex. -/
structure ByteHash where
  digestBytes : List UInt8 → String
  wellFormed : ∀ bytes, Text.digest (digestBytes bytes) = true

/-- A file `runs/<runId>/artifacts/<id>` below the state directory. -/
structure ArtifactFile where
  runId : String
  id : String
  bytes : List UInt8
  deriving DecidableEq, Repr

instance : Keyed ArtifactFile (String × String) := ⟨fun file => (file.runId, file.id)⟩

abbrev ArtifactFiles := List ArtifactFile

namespace FileArtifactStore

/-- One filename component. -/
def validSegment (segment : String) : Bool :=
  segment != "" && segment != "." && segment != ".." &&
    segment.toList.all fun c => c != '/' && c != '\\' && c != Char.ofNat 0

def segments (runId id : String) : List String := ["runs", runId, "artifacts", id]

/-- Publish one immutable record, accepting only identical existing bytes. The file
system refuses a component of more than 255 bytes. -/
def writeFileExclusive (runId id : String) (bytes : List UInt8) : Action ArtifactFiles Unit := do
  .lift (require (decide (bytes.length < maxSafeInteger))
    (.error "Private path byte limit must be a safe integer"))
  .lift (require ((segments runId id).all validSegment)
    (.error "Private path segment must be one filename component"))
  .lift (require (decide (id.utf8ByteSize ≤ 255)) (.error "ENAMETOOLONG"))
  let files ← .get
  match Keyed.find files (runId, id) with
  | none => .modify fun files => files ++ [⟨runId, id, bytes⟩]
  | some existing => do
    .lift (require (decide (existing.bytes.length ≤ bytes.length))
      (.error "Private record exceeds its byte limit"))
    .lift (require (existing.bytes == bytes) (.error "Existing private record bytes differ"))

/-- `digest.slice(7)` -/
def digestHex (digest : String) : String := String.ofList (digest.toList.drop 7)

/-- The name of an artifact's file. -/
def artifactId (hash : ByteHash) (artifact : ArtifactWrite) : String :=
  artifact.nodeId ++ "-" ++ toString artifact.attempt ++ "-" ++ artifact.type ++ "-" ++
    digestHex (hash.digestBytes artifact.bytes)

variable (hash : ByteHash) (stateRoot cwd : List String)

/-- Write immutable evidence under confined producer paths. -/
def write (artifact : ArtifactWrite) : Action ArtifactFiles ArtifactRef := do
  .lift (require (positive artifact.attempt) (.error "Invalid artifact attempt"))
  .lift (require ([artifact.runId, artifact.nodeId, artifact.type].all Text.pathIdentity)
    (.error "Invalid artifact identity"))
  let id := artifactId hash artifact
  writeFileExclusive artifact.runId id artifact.bytes
  pure { id, type := artifact.type, mediaType := artifact.mediaType,
         uri := PosixPath.render (stateRoot ++ segments artifact.runId id),
         digest := hash.digestBytes artifact.bytes,
         producer := { runId := artifact.runId, nodeId := artifact.nodeId,
                       attempt := artifact.attempt } }

/-- Read referenced evidence within the state root and verify its digest. -/
def read (artifact : ArtifactRef) : Action ArtifactFiles (List UInt8) := do
  let runId := artifact.producer.runId
  .lift (require (Text.pathIdentity runId && Text.pathName artifact.id)
    (.error "Invalid artifact identity"))
  let authoredDir := ["runs", runId, "artifacts"].foldl PosixPath.resolve stateRoot
  .lift (require (stateRoot.isPrefixOf authoredDir && decide (authoredDir ≠ stateRoot))
    (.error "Artifact parent escapes the configured state root"))
  let expectedFile := PosixPath.resolve authoredDir artifact.id
  .lift (require (PosixPath.resolve cwd artifact.uri == expectedFile)
    (.error "Invalid artifact path"))
  let files ← .get
  let file ← .lift (requireSome (Keyed.find files (runId, artifact.id)) (.error "ENOENT"))
  .lift (require (hash.digestBytes file.bytes == artifact.digest)
    (.error "Artifact digest mismatch"))
  pure file.bytes

/-- The files that a list of writes leaves, whether they succeed or throw. -/
def written (files : ArtifactFiles) (writes : List ArtifactWrite) : ArtifactFiles :=
  writes.foldl (fun files artifact => (write hash stateRoot artifact files).2) files

end FileArtifactStore
end Anastom
