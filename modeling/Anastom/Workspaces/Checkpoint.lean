import Anastom.Core.KeyOrder
import Anastom.Data.PosixPath
import Anastom.Data.Utf8Text
import Anastom.Engine.EventValidation

/-! The ignored files in a workspace checkpoint. Git lists the ignored paths, the capture walks
the directories among them, and what it collects is hashed entry by entry in the order of the
paths. Nothing changes while a checkpoint is captured, so that what is read again is the same. -/
namespace Anastom

/-- What `lstat` finds at a path, with what `readdir`, `readlink` and reading return there. -/
inductive FileStatus where
  | directory (mode : Nat) (names : List Bytes)
  | file (mode : Nat) (content : Bytes)
  | symlink (mode : Nat) (target : Bytes)
  | other (mode : Nat)
  deriving DecidableEq, Repr

def FileStatus.mode : FileStatus → Nat
  | .directory mode _ | .file mode _ | .symlink mode _ | .other mode => mode

def FileStatus.names : FileStatus → List Bytes
  | .directory _ names => names
  | _ => []

/-- A name that an entry of a directory can have. -/
structure ValidName (name : Bytes) : Prop where
  nonempty : name ≠ []
  current : name ≠ [46]
  parent : name ≠ [46, 46]
  slash : 47 ∉ name
  nul : 0 ∉ name

instance (name : Bytes) : Decidable (ValidName name) :=
  decidable_of_iff (name ≠ [] ∧ name ≠ [46] ∧ name ≠ [46, 46] ∧ 47 ∉ name ∧ 0 ∉ name)
    ⟨fun ⟨nonempty, current, parent, slash, nul⟩ => ⟨nonempty, current, parent, slash, nul⟩,
      fun valid => ⟨valid.nonempty, valid.current, valid.parent, valid.slash, valid.nul⟩⟩

/-- A file system at one moment, by the names on absolute paths. -/
structure FileSnapshot where
  lstat : List Bytes → Except Failure FileStatus
  names_valid : ∀ path status, lstat path = .ok status → ∀ name ∈ status.names, ValidName name
  names_found : ∀ path status, lstat path = .ok status → ∀ name ∈ status.names,
    ∃ entry, lstat (path ++ [name]) = .ok entry

/-- A path as Git prints it, without the slash behind a directory. -/
def withoutSlash (path : Bytes) : Bytes :=
  if path.getLast? = some 47 then path.dropLast else path

def pathNames (path : Bytes) : List Bytes := (withoutSlash path).splitOn 47

/-- The paths in the output of `git ls-files -z`. -/
def listedPaths (output : Bytes) : List Bytes := (output.splitOn 0).filter (· ≠ [])

/-- A workspace and what Git prints for it: `git ls-files --others --ignored
--exclude-standard --directory -z`. Git may list a directory and also entries below it. -/
structure Worktree where
  files : FileSnapshot
  path : List String
  listed : Bytes
  listed_valid : ∀ path ∈ listedPaths listed, ∀ name ∈ pathNames path, ValidName name
  listed_found : ∀ entry ∈ listedPaths listed,
    ∃ status, files.lstat (path.map Utf8.encode ++ pathNames entry) = .ok status

inductive IgnoredType where
  | directory | file | symlink
  deriving DecidableEq, Repr

def IgnoredType.text : IgnoredType → String
  | .directory => "directory"
  | .file => "file"
  | .symlink => "symlink"

structure IgnoredEntry where
  path : String
  target : List String
  type : IgnoredType
  mode : Nat
  size : Nat
  symlinkBytes : Option Bytes
  deriving DecidableEq, Repr

/-- `entries` is the map in the order of insertion. -/
structure IgnoredCollection where
  entries : List IgnoredEntry
  byteCount : Nat
  deriving DecidableEq, Repr

structure IgnoredFingerprint where
  digest : String
  entryCount : Nat
  byteCount : Nat
  deriving DecidableEq, Repr

def ignoredEntryLimit : Nat := 4096
def ignoredByteLimit : Nat := 64 * 1024 * 1024
def readChunkBytes : Nat := 64 * 1024

/-- `collection.entries.has(path)` -/
def IgnoredCollection.has (collection : IgnoredCollection) (path : String) : Bool :=
  collection.entries.any fun entry => entry.path == path

def decodeUtf8 (bytes : Bytes) (label : String) : Except Failure String :=
  requireSome (Utf8.textDecoder bytes)
    (.error ("Workspace contains " ++ label ++ " that is not valid UTF-8"))

def decodeGitPaths (bytes : Bytes) : Except Failure (List String) := do
  let text ← decodeUtf8 bytes "a Git path"
  pure (((text.toList.splitOn (Char.ofNat 0)).map String.ofList).filter (· ≠ ""))

/-- A path without a slash behind it. -/
def normalizedPath (path : String) : String :=
  if path.toList.getLast? = some '/' then String.ofList path.toList.dropLast else path

def addIgnoredEntry (collection : IgnoredCollection) (entry : IgnoredEntry) :
    Except Failure IgnoredCollection :=
  if collection.has entry.path then .ok collection
  else do
    require (decide (collection.entries.length < ignoredEntryLimit))
      (.error "Ignored workspace content exceeds the checkpoint entry limit")
    let byteCount := collection.byteCount + entry.size
    require (decide (byteCount ≤ ignoredByteLimit))
      (.error "Ignored workspace content exceeds the checkpoint byte limit")
    pure { entries := collection.entries ++ [entry], byteCount }

/-- The canonical JSON in front of an entry's bytes. -/
def IgnoredEntry.header (path : String) (type : String) (mode size : Nat) : JsonValue :=
  .object [("path", .string path), ("type", .string type), ("mode", .nat mode),
    ("size", .nat size)]

/-- The reads of an open file from an offset, until one returns nothing or more than `size`
bytes were read. -/
def readChunks (content : Bytes) (size : Nat) : Nat → Nat → List Bytes
  | 0, _ => []
  | fuel + 1, total =>
    if size < total then []
    else
      let chunk := (content.drop total).take (min readChunkBytes (size + 1 - total))
      if chunk = [] then [] else chunk :: readChunks content size fuel (total + chunk.length)

namespace Worktree
variable (tree : Worktree)

/-- The names on the target of a workspace-relative path. The text of one absolute path begins
with that of another and a slash exactly when its names begin with the other's. -/
def lexicalChild (child : String) : Except Failure (List String) := do
  require (decide (child ≠ "" ∧ Char.ofNat 0 ∉ child.toList ∧ child.toList.head? ≠ some '/'))
    (.error "Git returned an invalid workspace-relative path")
  let target := PosixPath.resolve tree.path child
  require (decide (tree.path = [] ∨ (tree.path <+: target ∧ target ≠ tree.path)))
    (.error "Git returned a path outside the workspace")
  pure target

def lstat (target : List String) : Except Failure FileStatus :=
  tree.files.lstat (target.map Utf8.encode)

/-- Each level below the first adds an entry, so `levels` beyond the entry limit are never
used up. -/
def collectIgnoredEntry : Nat → String → IgnoredCollection → Except Failure IgnoredCollection
  | 0, _, _ => .error (.error "Ignored workspace content exceeds the checkpoint entry limit")
  | levels + 1, listed, collection =>
    let path := normalizedPath listed
    if collection.has path then .ok collection
    else do
      let target ← tree.lexicalChild path
      match ← tree.lstat target with
      | .directory mode names => do
        let collection ← addIgnoredEntry collection
          { path, target, type := .directory, mode := mode % 0o10000, size := 0
            symlinkBytes := none }
        names.foldlM (fun collection name => do
          let child ← decodeUtf8 name "a filesystem path"
          collectIgnoredEntry levels (path ++ "/" ++ child) collection) collection
      | .file mode content => do
        require (decide (content.length ≤ maxSafeInteger))
          (.error "Ignored workspace file is too large to checkpoint")
        addIgnoredEntry collection
          { path, target, type := .file, mode := mode % 0o10000, size := content.length
            symlinkBytes := none }
      | .symlink mode bytes =>
        addIgnoredEntry collection
          { path, target, type := .symlink, mode := mode % 0o10000, size := bytes.length
            symlinkBytes := some bytes }
      | .other _ =>
        .error (.error "Ignored workspace content contains an unsupported file type")

/-- The bytes of a file as they are fed to the hash. -/
def hashFile (entry : IgnoredEntry) : Except Failure Bytes := do
  match ← tree.lstat entry.target with
  | .file _ content => do
    require (decide (content.length = entry.size))
      (.error "Ignored workspace file changed during checkpoint capture")
    let read := (readChunks content entry.size (entry.size + 1) 0).flatten
    require (decide (read.length = entry.size))
      (.error "Ignored workspace file changed during checkpoint capture")
    pure read
  | _ => .error (.error "Ignored workspace file changed during checkpoint capture")

def entryBytes (entry : IgnoredEntry) : Except Failure Bytes :=
  match entry.type with
  | .directory => .ok []
  | .file => tree.hashFile entry
  | .symlink => .ok (entry.symlinkBytes.getD [])

/-- What one entry feeds to the hash. -/
def hashEntry (entry : IgnoredEntry) : Except Failure Bytes := do
  let bytes ← tree.entryBytes entry
  let header := IgnoredEntry.header entry.path entry.type.text entry.mode entry.size
  pure (Utf8.encode (Json.canonicalJson header) ++ 0 :: (bytes ++ [0]))

def ignoredCollection : Except Failure IgnoredCollection := do
  let roots ← decodeGitPaths tree.listed
  (roots.insertionSort (Json.entryLe id)).foldlM
    (fun collection root => tree.collectIgnoredEntry (ignoredEntryLimit + 1) root collection)
    { entries := [], byteCount := 0 }

def hashEntries (collection : IgnoredCollection) : Except Failure Bytes := do
  let parts ← (collection.entries.insertionSort (Json.entryLe IgnoredEntry.path)).mapM
    tree.hashEntry
  pure parts.flatten

/-- All that `ignoredFingerprint` feeds to its hash. -/
def ignoredStream : Except Failure Bytes := do
  let collection ← tree.ignoredCollection
  tree.hashEntries collection

def ignoredFingerprint (hash : Bytes → String) : Except Failure IgnoredFingerprint := do
  let collection ← tree.ignoredCollection
  let stream ← tree.hashEntries collection
  pure { digest := "sha256:" ++ hash stream, entryCount := collection.entries.length
         byteCount := collection.byteCount }

end Worktree
end Anastom
