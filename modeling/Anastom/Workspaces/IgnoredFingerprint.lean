import Anastom.Data.Terminated
import Anastom.Engine.JsonRoundTrip
import Anastom.ExecutionHost.Records
import Anastom.Workspaces.IgnoredPaths

/-! The bytes that the fingerprint of ignored files is the hash of. They determine the entries
that were collected, in path, type, mode, size and bytes; those are the ignored entries of the
workspace exactly when every byte order mark that the decoder takes off, in front of a name or of
Git's whole list, is accounted for by another name or path. -/
namespace Anastom

/-- What stands at a path, apart from its permissions. -/
inductive EntryContent where
  | directory
  | file (bytes : Bytes)
  | symlink (target : Bytes)
  | unsupported
  deriving DecidableEq, Repr

namespace EntryContent

def text : EntryContent → String
  | .directory => "directory"
  | .file _ => "file"
  | .symlink _ => "symlink"
  | .unsupported => "unsupported"

def bytes : EntryContent → Bytes
  | .file bytes | .symlink bytes => bytes
  | .directory | .unsupported => []

theorem ext_of {a b : EntryContent} (texts : a.text = b.text) (same : a.bytes = b.bytes) :
    a = b := by
  cases a <;> cases b <;> simp_all [text, bytes]

end EntryContent

/-- An entry of a workspace, by its path as a text or as the bytes on disk. -/
structure WorkspaceEntry (π : Type) where
  path : π
  mode : Nat
  content : EntryContent
  deriving DecidableEq, Repr

def FileStatus.content : FileStatus → EntryContent
  | .directory _ _ => .directory
  | .file _ content => .file content
  | .symlink _ target => .symlink target
  | .other _ => .unsupported

def FileStatus.entry {π : Type} (path : π) (status : FileStatus) : WorkspaceEntry π where
  path
  mode := status.mode % 0o10000
  content := status.content

def WorkspaceEntry.header (entry : WorkspaceEntry String) : JsonValue :=
  IgnoredEntry.header entry.path entry.content.text entry.mode entry.content.bytes.length

/-- The canonical header of an entry and its bytes. -/
def fingerprintRecord (entry : WorkspaceEntry String) : Bytes × Bytes :=
  (Utf8.encode (Json.canonicalJson entry.header), entry.content.bytes)

theorem fingerprintRecord_head (entry : WorkspaceEntry String) :
    (fingerprintRecord entry).1 = Utf8.encode (Json.canonicalJson entry.header) := by
  simp only [fingerprintRecord]

/-- The stream that a set of entries is hashed from. -/
def fingerprintStream (entries : List (WorkspaceEntry String)) : Bytes :=
  Terminated.stream 0
    ((entries.insertionSort (Json.entryLe WorkspaceEntry.path)).map fingerprintRecord)

theorem header_distinctKeys (path text : String) (mode size : Nat) :
    (IgnoredEntry.header path text mode size).distinctKeys = true := by
  refine distinctKeys_object ["path", "type", "mode", "size"] rfl (by decide) ?_
  rfl

/-- The text of a header determines its fields. -/
theorem header_injective {path path' text text' : String} {mode mode' size size' : Nat}
    (same : Json.canonicalJson (IgnoredEntry.header path text mode size) =
      Json.canonicalJson (IgnoredEntry.header path' text' mode' size')) :
    path = path' ∧ text = text' ∧ mode = mode' ∧ size = size' := by
  have read := Json.parse_canonicalJson (header_distinctKeys path text mode size)
  rw [same, Json.parse_canonicalJson (header_distinctKeys path' text' mode' size')] at read
  have fields (key : String) := congrArg (JsonValue.get? · key) (Option.some.inj read)
  simp only [JsonValue.get?_reread] at fields
  have number {m n : Nat} (equal : (JsonValue.nat n).reread = (JsonValue.nat m).reread) :
      m = n := by
    have ints := congrArg JsonValue.asInt? equal
    simp only [JsonValue.nat, JsonValue.reread, JsonValue.asInt?, JsonValue.asNumber?,
      Option.bind_some, JsonNumber.toInt?_parsed, JsonNumber.toInt?_ofNat] at ints
    exact (Int.ofNat.inj (Option.some.inj ints)).symm
  have paths := fields "path"
  have texts := fields "type"
  have modes := fields "mode"
  have sizes := fields "size"
  simp [IgnoredEntry.header, JsonValue.get?, List.lookup_cons] at paths texts modes sizes
  simp only [JsonValue.reread, JsonValue.string.injEq] at paths texts
  exact ⟨paths.symm, texts.symm, number modes, number sizes⟩

theorem fingerprintRecord_header {entry other : WorkspaceEntry String}
    (same : (fingerprintRecord entry).1 = (fingerprintRecord other).1) :
    entry.path = other.path ∧ entry.content.text = other.content.text ∧ entry.mode = other.mode ∧
      entry.content.bytes.length = other.content.bytes.length := by
  rw [fingerprintRecord_head, fingerprintRecord_head] at same
  exact header_injective (Utf8.encode_injective same)

theorem fingerprintRecord_injective {entry other : WorkspaceEntry String}
    (same : fingerprintRecord entry = fingerprintRecord other) : entry = other := by
  obtain ⟨headers, bytes⟩ := Prod.ext_iff.mp same
  obtain ⟨paths, texts, modes, _⟩ := fingerprintRecord_header headers
  obtain ⟨path, mode, content⟩ := entry
  obtain ⟨path', mode', content'⟩ := other
  obtain rfl : path = path' := paths
  obtain rfl : mode = mode' := modes
  obtain rfl : content = content' := EntryContent.ext_of texts bytes
  rfl

/-- Sets of entries with one stream are the same. -/
theorem fingerprintStream_injective {entries others : List (WorkspaceEntry String)}
    (same : fingerprintStream entries = fingerprintStream others) : entries.Perm others := by
  have free (list : List (WorkspaceEntry String)) :
      ∀ record ∈ list.map fingerprintRecord, (0 : UInt8) ∉ record.1 := by
    intro record member zero
    obtain ⟨entry, _, rfl⟩ := List.mem_map.mp member
    rw [fingerprintRecord_head, Utf8.zero_mem_encode, Json.canonicalJson, String.toList_ofList] at zero
    exact absurd (Json.canonicalChars_printable _ _ zero) (by decide)
  have sized (list list' : List (WorkspaceEntry String)) :
      ∀ record ∈ list.map fingerprintRecord, ∀ other ∈ list'.map fingerprintRecord,
      record.1 = other.1 → record.2.length = other.2.length := by
    intro record member other member' headers
    obtain ⟨entry, _, rfl⟩ := List.mem_map.mp member
    obtain ⟨entry', _, rfl⟩ := List.mem_map.mp member'
    exact (fingerprintRecord_header headers).2.2.2
  have records := Terminated.stream_injective (free _) (free _) (sized _ _) same
  have sorted := List.map_injective_iff.mpr (fun _ _ => fingerprintRecord_injective) records
  have left := (List.perm_insertionSort (Json.entryLe WorkspaceEntry.path) entries).symm
  rw [sorted] at left
  exact left.trans (List.perm_insertionSort _ others)

/-- Reading to the end of a file returns its content, however it is cut. -/
theorem readChunks_flatten (content : Bytes) (fuel total : Nat) (inside : total ≤ content.length)
    (enough : content.length - total < fuel) :
    (readChunks content content.length fuel total).flatten = content.drop total := by
  induction fuel generalizing total with
  | zero => omega
  | succ fuel ih =>
    rw [readChunks, if_neg (Nat.not_lt.mpr inside)]
    simp only
    have capacity : 0 < min readChunkBytes (content.length + 1 - total) := by
      unfold readChunkBytes
      omega
    split
    case isTrue empty =>
      rcases List.take_eq_nil_iff.mp empty with zero | done
      · omega
      · rw [done]
        rfl
    case isFalse more =>
      have positive := List.length_pos_of_ne_nil more
      have length := List.length_take_le' (min readChunkBytes (content.length + 1 - total))
        (content.drop total)
      rw [List.length_drop] at length
      rw [List.flatten_cons, ih _ (by omega) (by omega), ← List.drop_drop]
      generalize min readChunkBytes (content.length + 1 - total) = n
      rw [List.length_take]
      rcases Nat.le_total n (content.drop total).length with short | long
      · rw [Nat.min_eq_left short, List.take_append_drop]
      · rw [Nat.min_eq_right long, List.take_of_length_le long, List.drop_length, List.append_nil]

namespace Worktree
section
variable {tree other : Worktree} {whole after : IgnoredCollection} {entry : IgnoredEntry}

/-- What the stream holds of a collected entry. -/
def recorded (tree : Worktree) (entry : IgnoredEntry) : WorkspaceEntry String :=
  match tree.lstat entry.target with
  | .ok status => status.entry entry.path
  | .error _ => { path := entry.path, mode := entry.mode, content := .unsupported }

theorem recorded_path : (tree.recorded entry).path = entry.path := by
  unfold recorded
  split <;> rfl

theorem fingerprintRecord_body (entry : WorkspaceEntry String) :
    (fingerprintRecord entry).2 = entry.content.bytes := by
  simp only [fingerprintRecord]

theorem hashFile_ok {raw : Nat} {content : Bytes}
    (found : tree.lstat entry.target = .ok (.file raw content))
    (size : entry.size = content.length) : tree.hashFile entry = .ok content := by
  have read : (readChunks content content.length (content.length + 1) 0).flatten = content := by
    rw [readChunks_flatten content _ 0 (Nat.zero_le _) (by omega), List.drop_zero]
  rw [hashFile, found, size]
  refine require_bind_ok.mpr ⟨decide_eq_true rfl, ?_⟩
  rw [read]
  exact require_bind_ok.mpr ⟨decide_eq_true rfl, rfl⟩

/-- What a collected entry feeds to the hash is what stands at its path. -/
theorem entryBytes_ok (yields : tree.Yields entry.path entry) :
    tree.entryBytes entry = .ok (tree.recorded entry).content.bytes ∧
    IgnoredEntry.header entry.path entry.type.text entry.mode entry.size =
      (tree.recorded entry).header := by
  obtain ⟨status, _, _, found, _, made⟩ := yields.status
  obtain ⟨path, target, type, mode, size, symlinkBytes⟩ := entry
  have same : tree.recorded { path, target, type, mode, size, symlinkBytes } =
      status.entry path := by
    rw [recorded, found]
  rw [same]
  cases status with
  | directory raw names =>
    cases made
    exact ⟨rfl, rfl⟩
  | file raw content =>
    cases made
    exact ⟨hashFile_ok found rfl, rfl⟩
  | symlink raw bytes =>
    cases made
    exact ⟨rfl, rfl⟩
  | other raw => cases made

theorem hashEntry_ok (yields : tree.Yields entry.path entry) : tree.hashEntry entry =
    .ok ((fingerprintRecord (tree.recorded entry)).1 ++
      0 :: ((fingerprintRecord (tree.recorded entry)).2 ++ [0])) := by
  obtain ⟨bytes, header⟩ := entryBytes_ok yields
  rw [hashEntry, bytes, fingerprintRecord_head, fingerprintRecord_body, ← header]
  simp only [bind, Except.bind, pure, Except.pure]

/-- A captured collection is hashed as the set of its entries. -/
theorem hashEntries_ok (captured : ∀ entry ∈ whole.entries, tree.Yields entry.path entry) :
    tree.hashEntries whole = .ok (fingerprintStream (whole.entries.map tree.recorded)) := by
  have sorted : (whole.entries.map tree.recorded).insertionSort (Json.entryLe WorkspaceEntry.path) =
      (whole.entries.insertionSort (Json.entryLe IgnoredEntry.path)).map tree.recorded := by
    symm
    refine List.map_insertionSort _ _ _ _ fun a _ b _ => ?_
    rw [Json.entryLe, Json.entryLe, recorded_path, recorded_path]
  have parts (entries : List IgnoredEntry) (each : ∀ entry ∈ entries, tree.Yields entry.path entry) :
      entries.mapM tree.hashEntry = .ok (entries.map fun entry =>
        (fingerprintRecord (tree.recorded entry)).1 ++
          0 :: ((fingerprintRecord (tree.recorded entry)).2 ++ [0])) := by
    rw [mapM_ok, List.forall₂_map_right_iff, List.forall₂_same]
    exact fun entry member => hashEntry_ok (each entry member)
  rw [hashEntries, parts _ fun entry member =>
    captured entry ((List.perm_insertionSort _ _).subset member)]
  rw [fingerprintStream, sorted, Terminated.stream, List.map_map, List.flatMap_map]
  rfl

theorem ignoredStream_ok {stream : Bytes} (captured : tree.ignoredStream = .ok stream) :
    ∃ whole roots, tree.ignoredCollection = .ok whole ∧ decodeGitPaths tree.listed = .ok roots ∧
      tree.Complete whole ∧ (∀ path, path ∈ whole.paths ↔ tree.Reached (Root roots) path) ∧
      stream = fingerprintStream (whole.entries.map tree.recorded) := by
  obtain ⟨whole, collected, hashed⟩ := bind_ok.mp captured
  obtain ⟨roots, decoded, complete, reached⟩ := ignoredCollection_spec collected
  rw [hashEntries_ok complete.valid.captured] at hashed
  exact ⟨whole, roots, collected, decoded, complete, reached, (Except.ok.inj hashed).symm⟩

/-- The entries that stand at the ignored paths of a workspace. -/
def ignoredEntries (tree : Worktree) : Set (WorkspaceEntry Bytes) :=
  { entry | ∃ names status, tree.Ignored names ∧ tree.place names = .ok status ∧
    entry = status.entry (joinNames names) }

/-- An entry by the bytes of its path. -/
def onDisk (entry : WorkspaceEntry String) : WorkspaceEntry Bytes :=
  { path := Utf8.encode entry.path, mode := entry.mode, content := entry.content }

/-- The ignored entries of the workspace are the only ones that have this stream. -/
def Identified (tree : Worktree) (stream : Bytes) : Prop :=
  ∀ entries : List (WorkspaceEntry String), fingerprintStream entries = stream →
    { entry | entry ∈ entries.map onDisk } = tree.ignoredEntries

theorem collected_entries (complete : tree.Complete whole) {roots : List String}
    (reached : ∀ path, path ∈ whole.paths ↔ tree.Reached (Root roots) path) :
    { entry | entry ∈ (whole.entries.map tree.recorded).map onDisk } = tree.ignoredEntries ↔
      tree.Faithful roots := by
  have stands {entry : IgnoredEntry} (member : entry ∈ whole.entries) {names : List Bytes}
      (ignored : tree.Ignored names) (spells : Spells entry.path names) :
      onDisk (tree.recorded entry) ∈ tree.ignoredEntries := by
    obtain ⟨status, located, _, found, _⟩ := (complete.valid.captured entry member).status
    rw [statusAt_spells spells ignored.nonempty ignored.valid] at located
    refine ⟨names, status, ignored, located, ?_⟩
    rw [recorded, found, ← spells]
    rfl
  constructor
  · intro same
    constructor
    case sound =>
      intro path isReached
      obtain ⟨entry, member, rfl⟩ := List.mem_map.mp ((reached path).mpr isReached)
      have inside : onDisk (tree.recorded entry) ∈ tree.ignoredEntries := by
        rw [← same]
        exact List.mem_map_of_mem (List.mem_map_of_mem member)
      obtain ⟨names, status, ignored, _, equal⟩ := inside
      refine ⟨names, ignored, ?_⟩
      have paths := congrArg WorkspaceEntry.path equal
      rwa [onDisk, recorded_path] at paths
    case complete =>
      intro names ignored
      obtain ⟨status, found⟩ := ignored.found
      have inside : status.entry (joinNames names) ∈ tree.ignoredEntries :=
        ⟨names, status, ignored, found, rfl⟩
      rw [← same] at inside
      obtain ⟨_, listed, equal⟩ := List.mem_map.mp inside
      obtain ⟨entry, member, rfl⟩ := List.mem_map.mp listed
      have paths := congrArg WorkspaceEntry.path equal
      rw [onDisk, recorded_path] at paths
      exact ⟨entry.path, (reached _).mp (List.mem_map_of_mem member), paths⟩
  · intro faithful
    ext entry
    constructor
    · intro listed
      obtain ⟨_, again, rfl⟩ := List.mem_map.mp listed
      obtain ⟨entry, member, rfl⟩ := List.mem_map.mp again
      obtain ⟨names, ignored, spells⟩ :=
        faithful.sound _ ((reached _).mp (List.mem_map_of_mem member))
      exact stands member ignored spells
    · rintro ⟨names, status, ignored, found, rfl⟩
      obtain ⟨path, isReached, spells⟩ := faithful.complete names ignored
      obtain ⟨entry, member, rfl⟩ := List.mem_map.mp ((reached path).mpr isReached)
      obtain ⟨again, located, _, lstat, _⟩ := (complete.valid.captured entry member).status
      rw [statusAt_spells spells ignored.nonempty ignored.valid, found] at located
      obtain rfl := Except.ok.inj located
      have equal : onDisk (tree.recorded entry) = status.entry (joinNames names) := by
        rw [recorded, lstat, ← spells]
        rfl
      rw [← equal]
      exact List.mem_map_of_mem (List.mem_map_of_mem member)

/-- A stream identifies the ignored entries of a workspace exactly when every mark that the
capture loses is accounted for. -/
theorem identified_iff {stream : Bytes} (captured : tree.ignoredStream = .ok stream) :
    tree.Identified stream ↔ tree.Accounted := by
  obtain ⟨whole, roots, _, decoded, complete, reached, rfl⟩ := ignoredStream_ok captured
  have decodes : ∀ path, tree.Reached (Root roots) path → tree.Decodes path :=
    fun path isReached => complete.decodes path ((reached path).mpr isReached)
  constructor
  · intro identified
    exact ((collected_entries complete reached).mp (identified _ rfl)).accounted decoded decodes
  · intro accounted entries same
    have faithful := accounted.faithful decoded decodes
    rw [← (collected_entries complete reached).mpr faithful]
    ext entry
    exact ((fingerprintStream_injective same).map onDisk).mem_iff

end
end Worktree
end Anastom
