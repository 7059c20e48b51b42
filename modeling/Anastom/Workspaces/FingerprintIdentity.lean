import Anastom.Workspaces.IgnoredFingerprint

/-! Which workspaces have one fingerprint of their ignored files: those that a capture reads
alike, whatever the order of their directories; and, where every lost mark is accounted for, only
those with the same ignored entries. -/
namespace Anastom

/-- What a capture takes from a path: no order of names, and no mark in front of one. -/
structure FileStatus.Alike (a b : FileStatus) : Prop where
  mode : a.mode = b.mode
  content : a.content = b.content
  children : ∀ child, (∃ name ∈ a.names, Utf8.textDecoder name = some child) ↔
    ∃ name ∈ b.names, Utf8.textDecoder name = some child
  decodes : (∀ name ∈ a.names, ∃ child, Utf8.textDecoder name = some child) ↔
    ∀ name ∈ b.names, ∃ child, Utf8.textDecoder name = some child

namespace FileStatus.Alike
variable {a b : FileStatus}

theorem symm (alike : a.Alike b) : b.Alike a :=
  ⟨alike.mode.symm, alike.content.symm, fun child => (alike.children child).symm,
    alike.decodes.symm⟩

theorem entry {π : Type} (alike : a.Alike b) (path : π) : a.entry path = b.entry path := by
  rw [FileStatus.entry, FileStatus.entry, alike.mode, alike.content]

theorem ignoredEntry (alike : a.Alike b) (path : String) (target : List String) :
    a.ignoredEntry path target = b.ignoredEntry path target := by
  obtain ⟨mode, content, _, _⟩ := alike
  cases a <;> cases b <;> simp_all [FileStatus.ignoredEntry, FileStatus.content, FileStatus.mode]

end FileStatus.Alike

namespace Worktree

/-- Two workspaces hold the same at a path, as far as a capture can tell. -/
def ReadsAlike (tree other : Worktree) (path : String) : Prop :=
  ∃ target a b, tree.lexicalChild path = .ok target ∧ other.lexicalChild path = .ok target ∧
    tree.lstat target = .ok a ∧ other.lstat target = .ok b ∧ a.Alike b

section
variable {tree other : Worktree} {whole after : IgnoredCollection} {path : String}
  {entry : IgnoredEntry} {roots roots' : List String}

theorem ReadsAlike.symm (alike : tree.ReadsAlike other path) : other.ReadsAlike tree path := by
  obtain ⟨target, a, b, child, child', found, found', same⟩ := alike
  exact ⟨target, b, a, child', child, found', found, same.symm⟩

theorem ReadsAlike.located (alike : tree.ReadsAlike other path) {status : FileStatus}
    (located : other.statusAt path = .ok status) :
    ∃ before, tree.statusAt path = .ok before ∧ before.Alike status := by
  obtain ⟨target, a, b, child, child', found, found', same⟩ := alike
  obtain ⟨_, again, foundAgain⟩ := bind_ok.mp located
  rw [child'] at again
  obtain rfl := Except.ok.inj again
  rw [found'] at foundAgain
  obtain rfl := Except.ok.inj foundAgain
  exact ⟨a, bind_ok.mpr ⟨_, child, found⟩, same⟩

theorem ReadsAlike.yields (alike : tree.ReadsAlike other path) (yields : tree.Yields path entry) :
    other.Yields path entry := by
  obtain ⟨target, a, b, child, child', found, found', same⟩ := alike
  obtain ⟨_, _, again, foundAgain, recorded⟩ := yields
  rw [child] at again
  obtain rfl := Except.ok.inj again
  rw [found] at foundAgain
  obtain rfl := Except.ok.inj foundAgain
  exact ⟨_, b, child', found', by rw [← same.ignoredEntry, recorded]⟩

theorem ReadsAlike.recorded (alike : tree.ReadsAlike other entry.path)
    (yields : tree.Yields entry.path entry) : tree.recorded entry = other.recorded entry := by
  obtain ⟨target, a, b, child, child', found, found', same⟩ := alike
  obtain ⟨_, _, again, _⟩ := yields.status
  rw [child] at again
  have target_eq := Except.ok.inj again
  rw [Worktree.recorded, Worktree.recorded, ← target_eq, found, found']
  exact same.entry entry.path

/-- What is complete in one workspace is complete in another that reads alike there. -/
theorem Complete.transfer (complete : tree.Complete whole)
    (alike : ∀ path ∈ whole.paths, tree.ReadsAlike other path) : other.Complete whole := by
  have captured : ∀ entry ∈ whole.entries, other.Yields entry.path entry := fun entry member =>
    (alike _ (List.mem_map_of_mem member)).yields (complete.valid.captured entry member)
  constructor
  case valid =>
    constructor
    case distinct => exact complete.valid.distinct
    case counted => exact complete.valid.counted
    case few => exact complete.valid.few
    case light => exact complete.valid.light
    case captured => exact captured
    case sound =>
      exact ⟨fun path _ => ⟨path, trivial, .refl⟩, fun result member =>
        ⟨result.path, result.path, trivial, .refl, captured result member⟩⟩
  case decodes =>
    intro path member status located
    obtain ⟨before, found, same⟩ := (alike path member).located located
    exact same.decodes.mp (complete.decodes path member before found)
  case leads =>
    rintro path member next ⟨status, located, name, listed, child, isText, rfl⟩
    obtain ⟨before, found, same⟩ := (alike path member).located located
    obtain ⟨name', listed', isText'⟩ := (same.children child).mpr ⟨name, listed, isText⟩
    exact complete.leads path member _ ⟨before, found, name', listed', child, isText', rfl⟩

/-- Workspaces that read alike where one of them was captured have the same captures. -/
theorem ignoredCollection_alike (collected : tree.ignoredCollection = .ok whole)
    (decoded : decodeGitPaths tree.listed = .ok roots)
    (decoded' : decodeGitPaths other.listed = .ok roots') (same : ∀ root, root ∈ roots ↔ root ∈ roots')
    (alike : ∀ path ∈ whole.paths, tree.ReadsAlike other path) :
    ∃ after, other.ignoredCollection = .ok after ∧ after.entries.Perm whole.entries ∧
      other.Complete after := by
  obtain ⟨starts, again, complete, reached⟩ := ignoredCollection_spec collected
  rw [decoded] at again
  obtain rfl : roots = starts := Except.ok.inj again
  have entered {root : String} (member : root ∈ roots) : normalizedPath root ∈ whole.paths :=
    (reached _).mpr ⟨_, ⟨root, member, rfl⟩, .refl⟩
  obtain ⟨after, collected', part⟩ := (complete.transfer alike).captures decoded'
    fun root member => entered ((same root).mpr member)
  obtain ⟨starts, again, complete', reached'⟩ := ignoredCollection_spec collected'
  rw [decoded'] at again
  obtain rfl : roots' = starts := Except.ok.inj again
  have entered' {root : String} (member : root ∈ roots') : normalizedPath root ∈ after.paths :=
    (reached' _).mpr ⟨_, ⟨root, member, rfl⟩, .refl⟩
  have alike' : ∀ path ∈ after.paths, other.ReadsAlike tree path := fun path member =>
    (alike path (List.map_subset _ part member)).symm
  obtain ⟨back, collectedBack, part'⟩ := (complete'.transfer alike').captures decoded
    fun root member => entered' ((same root).mp member)
  rw [collected] at collectedBack
  obtain rfl : whole = back := Except.ok.inj collectedBack
  refine ⟨after, collected', ?_, complete'⟩
  exact (List.perm_ext_iff_of_nodup complete'.valid.nodup complete.valid.nodup).mpr
    fun entry => ⟨fun member => part member, fun member => part' member⟩

/-- The order of a set of entries with distinct paths does not show in the stream. -/
theorem fingerprintStream_perm {entries others : List (WorkspaceEntry String)}
    (order : entries.Perm others) (distinct : (entries.map WorkspaceEntry.path).Nodup) :
    fingerprintStream entries = fingerprintStream others := by
  have left := List.perm_insertionSort (Json.entryLe WorkspaceEntry.path) entries
  have right := List.perm_insertionSort (Json.entryLe WorkspaceEntry.path) others
  have sorted : entries.insertionSort (Json.entryLe WorkspaceEntry.path) =
      others.insertionSort (Json.entryLe WorkspaceEntry.path) := by
    refine List.Perm.eq_of_pairwise ?_ (List.pairwise_insertionSort _ _)
      (List.pairwise_insertionSort _ _) (left.trans (order.trans right.symm))
    intro a b member member' first second
    exact List.inj_on_of_nodup_map distinct (left.subset member)
      (order.symm.subset (right.subset member')) (Json.keyLe_antisymm first second)
  rw [fingerprintStream, fingerprintStream, sorted]

/-- Workspaces that read alike have one fingerprint. -/
theorem fingerprint_alike {stream : Bytes} (captured : tree.ignoredStream = .ok stream)
    (decoded : decodeGitPaths tree.listed = .ok roots)
    (decoded' : decodeGitPaths other.listed = .ok roots') (same : ∀ root, root ∈ roots ↔ root ∈ roots')
    (alike : ∀ path, tree.Reached (Root roots) path → tree.ReadsAlike other path) :
    other.ignoredStream = .ok stream ∧
      ∀ hash, other.ignoredFingerprint hash = tree.ignoredFingerprint hash := by
  obtain ⟨whole, starts, collected, again, complete, reached, rfl⟩ := ignoredStream_ok captured
  rw [decoded] at again
  obtain rfl : roots = starts := Except.ok.inj again
  have inside : ∀ path ∈ whole.paths, tree.ReadsAlike other path := fun path member =>
    alike path ((reached path).mp member)
  obtain ⟨after, collected', order, complete'⟩ :=
    ignoredCollection_alike collected decoded decoded' same inside
  have hashed := hashEntries_ok complete.valid.captured
  have hashed' := hashEntries_ok complete'.valid.captured
  have streams : fingerprintStream (after.entries.map other.recorded) =
      fingerprintStream (whole.entries.map tree.recorded) := by
    have recorded : whole.entries.map other.recorded = whole.entries.map tree.recorded := by
      refine List.map_congr_left fun entry member => ?_
      exact ((inside _ (List.mem_map_of_mem member)).recorded
        (complete.valid.captured entry member)).symm
    rw [← recorded]
    refine fingerprintStream_perm (order.map _) ?_
    have paths : (after.entries.map other.recorded).map WorkspaceEntry.path = after.paths := by
      rw [List.map_map, IgnoredCollection.paths]
      exact List.map_congr_left fun entry _ => recorded_path
    rw [paths]
    exact complete'.valid.distinct
  have counts : after.byteCount = whole.byteCount := by
    rw [complete'.valid.counted, complete.valid.counted]
    exact (order.map _).sum_eq
  rw [streams] at hashed'
  refine ⟨?_, fun hash => ?_⟩
  · rw [ignoredStream, collected']
    exact hashed'
  · rw [ignoredFingerprint, ignoredFingerprint, collected', collected]
    show (other.hashEntries after >>= _) = (tree.hashEntries whole >>= _)
    rw [hashed', hashed, order.length_eq, counts]

/-- One file, or one directory whose names were returned in another order. -/
inductive SameFile : Except Failure FileStatus → Except Failure FileStatus → Prop
  | same (status : Except Failure FileStatus) : SameFile status status
  | directory {mode : Nat} {names names' : List Bytes} (order : names.Perm names') :
      SameFile (.ok (.directory mode names)) (.ok (.directory mode names'))

/-- One workspace whose directories are returned in another order, and where Git may list the
paths in another order when a mark does not stand in front of them. -/
structure Reordered (tree other : Worktree) : Prop where
  path : tree.path = other.path
  files : ∀ target, SameFile (tree.files.lstat target) (other.files.lstat target)
  listed : tree.listed = other.listed ∨
    ((listedPaths tree.listed).Perm (listedPaths other.listed) ∧
      ¬Utf8.mark <+: tree.listed ∧ ¬Utf8.mark <+: other.listed)

theorem SameFile.alike {status : FileStatus} {result : Except Failure FileStatus}
    (same : SameFile (.ok status) result) : ∃ other, result = .ok other ∧ status.Alike other := by
  cases same with
  | same => exact ⟨status, rfl, rfl, rfl, fun _ => Iff.rfl, Iff.rfl⟩
  | directory order =>
    refine ⟨_, rfl, rfl, rfl, fun child => ?_, ?_⟩
    · constructor
      · rintro ⟨name, member, isText⟩
        exact ⟨name, order.subset member, isText⟩
      · rintro ⟨name, member, isText⟩
        exact ⟨name, order.symm.subset member, isText⟩
    · constructor
      · exact fun each name member => each name (order.symm.subset member)
      · exact fun each name member => each name (order.subset member)

/-- Bytes whose parts are UTF-8 are UTF-8. -/
theorem parts_decode {parts : List Bytes} (each : ∀ part ∈ parts, ∃ text, part = Utf8.encode text) :
    ∃ text, ([0] : Bytes).intercalate parts = Utf8.encode text := by
  have nul : Utf8.encode (String.ofList [Char.ofNat 0]) = [0] := by decide
  induction parts with
  | nil => exact ⟨"", rfl⟩
  | cons part parts ih =>
    obtain ⟨text, rfl⟩ := each part List.mem_cons_self
    obtain ⟨rest, later⟩ := ih fun other member => each other (List.mem_cons_of_mem _ member)
    cases parts with
    | nil => exact ⟨text, List.intercalate_singleton⟩
    | cons next parts =>
      refine ⟨text ++ String.ofList [Char.ofNat 0] ++ rest, ?_⟩
      rw [List.intercalate_cons_cons, later, Utf8.encode_append, Utf8.encode_append, nul]

theorem Reordered.decoded (reordered : tree.Reordered other)
    (decoded : decodeGitPaths tree.listed = .ok roots) :
    ∃ roots', decodeGitPaths other.listed = .ok roots' ∧ ∀ root, root ∈ roots ↔ root ∈ roots' := by
  rcases reordered.listed with same | ⟨order, free, free'⟩
  · exact ⟨roots, same ▸ decoded, fun _ => Iff.rfl⟩
  · have bytes := decodeGitPaths_ok decoded
    rw [Utf8.withoutMark_free free] at bytes
    have isText : ∀ part ∈ other.listed.splitOn 0, ∃ text, part = Utf8.encode text := by
      intro part member
      by_cases empty : part = []
      · exact ⟨"", empty⟩
      · have listed : part ∈ listedPaths other.listed :=
          List.mem_filter.mpr ⟨member, decide_eq_true empty⟩
        have inside := order.symm.subset listed
        rw [← bytes] at inside
        obtain ⟨root, _, spelled⟩ := List.mem_map.mp inside
        exact ⟨root, spelled.symm⟩
    obtain ⟨text, whole⟩ := parts_decode isText
    rw [List.intercalate_splitOn] at whole
    have read : Utf8.textDecoder other.listed = some text :=
      Utf8.textDecoder_eq_some.mpr (.inl ⟨whole, free'⟩)
    have decoded' : ∃ roots', decodeGitPaths other.listed = .ok roots' :=
      ⟨_, bind_ok.mpr ⟨text, requireSome_ok.mpr read, rfl⟩⟩
    obtain ⟨roots', decoded'⟩ := decoded'
    have bytes' := decodeGitPaths_ok decoded'
    rw [Utf8.withoutMark_free free'] at bytes'
    refine ⟨roots', decoded', fun root => ?_⟩
    have member (list : List String) : root ∈ list ↔ Utf8.encode root ∈ list.map Utf8.encode := by
      constructor
      · exact fun inside => List.mem_map_of_mem inside
      · intro inside
        obtain ⟨again, found, equal⟩ := List.mem_map.mp inside
        exact Utf8.encode_injective equal ▸ found
    rw [member roots, member roots', bytes, bytes', order.mem_iff]

/-- The order of listings shows neither in the stream nor in the fingerprint. -/
theorem Reordered.stream (reordered : tree.Reordered other) {stream : Bytes}
    (captured : tree.ignoredStream = .ok stream) : other.ignoredStream = .ok stream ∧
      ∀ hash, other.ignoredFingerprint hash = tree.ignoredFingerprint hash := by
  obtain ⟨whole, roots, _, decoded, complete, reached, _⟩ := ignoredStream_ok captured
  obtain ⟨roots', decoded', same⟩ := reordered.decoded decoded
  refine fingerprint_alike captured decoded decoded' same fun path isReached => ?_
  obtain ⟨entry, member, rfl⟩ := List.mem_map.mp ((reached path).mpr isReached)
  obtain ⟨status, _, child, found, _⟩ := (complete.valid.captured entry member).status
  have files := reordered.files (entry.target.map Utf8.encode)
  rw [show tree.files.lstat (entry.target.map Utf8.encode) = .ok status from found] at files
  obtain ⟨status', found', alike⟩ := files.alike
  have child' : other.lexicalChild entry.path = .ok entry.target := by
    rw [← child, lexicalChild, lexicalChild, reordered.path]
  exact ⟨entry.target, status, status', child, child', found, found', alike⟩

/-- A fingerprint is a function of the collection and of the stream. -/
theorem ignoredFingerprint_same (collections : other.ignoredCollection = tree.ignoredCollection)
    (streams : other.ignoredStream = tree.ignoredStream) (hash : Bytes → String) :
    other.ignoredFingerprint hash = tree.ignoredFingerprint hash := by
  rw [ignoredStream, ignoredStream, collections] at streams
  rw [ignoredFingerprint, ignoredFingerprint, collections]
  cases collected : tree.ignoredCollection with
  | error failure => rfl
  | ok whole =>
    rw [collected] at streams
    show (other.hashEntries whole >>= _) = (tree.hashEntries whole >>= _)
    rw [show other.hashEntries whole = tree.hashEntries whole from streams]

/-- Neither the stream that is hashed nor the fingerprint depends on the order of listings. The
stream identifies the ignored entries of a workspace exactly when every byte order mark that the
decoder takes off is accounted for; two such workspaces with one stream have the same ignored
entries. -/
theorem ignoredStream_exact {stream : Bytes} (captured : tree.ignoredStream = .ok stream) :
    (tree.Identified stream ↔ tree.Accounted) ∧
    (∀ other : Worktree, tree.Accounted → other.Accounted → other.ignoredStream = .ok stream →
      tree.ignoredEntries = other.ignoredEntries) ∧
    ∀ other : Worktree, tree.Reordered other → other.ignoredStream = .ok stream ∧
      ∀ hash, other.ignoredFingerprint hash = tree.ignoredFingerprint hash := by
  refine ⟨identified_iff captured, ?_, fun other reordered => reordered.stream captured⟩
  intro other accounted accounted' captured'
  obtain ⟨whole, _, _, _, _, _, same⟩ := ignoredStream_ok captured'
  have one := (identified_iff captured).mpr accounted _ same.symm
  have two := (identified_iff captured').mpr accounted' _ same.symm
  exact one.symm.trans two

end

/-- A file system by its entries. -/
def snapshotOf (entries : List (List Bytes × FileStatus))
    (valid : ∀ entry ∈ entries, ∀ name ∈ entry.2.names, ValidName name)
    (found : ∀ entry ∈ entries, ∀ name ∈ entry.2.names,
      (entries.lookup (entry.1 ++ [name])).isSome) : FileSnapshot where
  lstat path := requireSome (entries.lookup path) (.error "ENOENT: no such file or directory")
  names_valid path status located :=
    valid (path, status) (lookup_mem (requireSome_ok.mp located))
  names_found path status located name member := by
    obtain ⟨entry, inside⟩ := Option.isSome_iff_exists.mp
      (found (path, status) (lookup_mem (requireSome_ok.mp located)) name member)
    exact ⟨entry, requireSome_ok.mpr inside⟩

/-- An ignored directory `d` with a file `a`, and when `marked` with a second file whose name is
`a` behind a byte order mark. -/
def sampleFiles (marked : Bool) : List (List Bytes × FileStatus) :=
  [([[119]], .directory 0o755 [[100]]),
   ([[119], [100]], .directory 0o755 ([97] :: if marked then [[239, 187, 191, 97]] else [])),
   ([[119], [100], [97]], .file 0o644 [120])] ++
  if marked then [([[119], [100], [239, 187, 191, 97]], .file 0o644 [121])] else []

def sampleTree (marked : Bool) : Worktree where
  files := snapshotOf (sampleFiles marked) (by cases marked <;> decide) (by cases marked <;> decide)
  path := ["w"]
  listed := [100, 47, 0]
  listed_valid := by decide
  listed_found entry member := by
    rw [show entry = [100, 47] from List.mem_singleton.mp member]
    cases marked <;> exact ⟨_, rfl⟩

/-- Both samples are captured, and with the same result. -/
theorem sample_checked : (sampleTree false).ignoredStream.isOk ∧
    (sampleTree true).ignoredCollection = (sampleTree false).ignoredCollection ∧
    (sampleTree true).ignoredStream = (sampleTree false).ignoredStream := by
  decide +kernel

/-- A directory `u` in which all is ignored, by a rule for its files and one for the directory
`v`: Git lists `u/`, `u/a.o`, `u/v/` and the file whose name is `a.o` behind a mark. -/
def objectFiles : List (List Bytes × FileStatus) :=
  [([[119]], .directory 0o755 [[117]]),
   ([[119], [117]], .directory 0o755 [[97, 46, 111], [118], [239, 187, 191, 97, 46, 111]]),
   ([[119], [117], [97, 46, 111]], .file 0o644 [120]),
   ([[119], [117], [118]], .directory 0o700 [[98]]),
   ([[119], [117], [118], [98]], .symlink 0o777 [46]),
   ([[119], [117], [239, 187, 191, 97, 46, 111]], .file 0o644 [121])]

def objectTree : Worktree where
  files := snapshotOf objectFiles (by decide) (by decide)
  path := ["w"]
  listed := [117, 47, 0, 117, 47, 97, 46, 111, 0, 117, 47, 118, 47, 0,
    117, 47, 239, 187, 191, 97, 46, 111, 0]
  listed_valid := by decide
  listed_found entry member := by
    have cases : entry ∈ ([[117, 47], [117, 47, 97, 46, 111], [117, 47, 118, 47],
      [117, 47, 239, 187, 191, 97, 46, 111]] : List Bytes) := member
    simp only [List.mem_cons, List.not_mem_nil, or_false] at cases
    rcases cases with rfl | rfl | rfl | rfl <;> exact ⟨_, rfl⟩

theorem objectTree_checked : objectTree.ignoredStream.isOk := by decide +kernel

/-- The one marked name is in the directory `u`. -/
theorem objectTree_marked {names : List Bytes} {status : FileStatus} {name : Bytes}
    (found : objectTree.place names = .ok status) (member : name ∈ status.names)
    (marked : Utf8.mark <+: name) : names = [[117]] ∧ name = [239, 187, 191, 97, 46, 111] := by
  have listed : ([119] :: names, status) ∈ objectFiles := lookup_mem (requireSome_ok.mp found)
  have only : ∀ entry ∈ objectFiles, ∀ name ∈ entry.2.names, Utf8.mark <+: name →
      entry.1 = [[119], [117]] ∧ name = [239, 187, 191, 97, 46, 111] := by decide
  obtain ⟨path, same⟩ := only _ listed name member marked
  exact ⟨(List.cons.inj path).2, same⟩

theorem objectTree_accounted : objectTree.Accounted := by
  refine .of_names (by decide) ?_ ?_
  · intro names status name _ found member marked
    obtain ⟨rfl, rfl⟩ := objectTree_marked found member marked
    exact .inl ⟨[117, 47, 239, 187, 191, 97, 46, 111], by decide, by decide⟩
  · intro names status rest _ found member _
    obtain ⟨rfl, same⟩ := objectTree_marked found member (List.prefix_append _ _)
    obtain rfl : rest = [97, 46, 111] := List.append_cancel_left same
    exact @Ignored.listed objectTree [117, 47, 97, 46, 111] (by decide)

theorem sample_identified : ∃ stream, objectTree.ignoredStream = .ok stream ∧
    objectTree.Identified stream := by
  have checked := objectTree_checked
  cases captured : objectTree.ignoredStream with
  | error failure =>
    rw [captured] at checked
    cases checked
  | ok stream => exact ⟨stream, rfl, (ignoredStream_exact captured).1.mpr objectTree_accounted⟩

/-- A file that no capture sees: two workspaces with one fingerprint, of which only one has it. -/
theorem marked_notIdentified : (∃ stream, (sampleTree false).ignoredStream = .ok stream ∧
    (sampleTree true).ignoredStream = .ok stream) ∧
    (∀ hash, (sampleTree true).ignoredFingerprint hash =
      (sampleTree false).ignoredFingerprint hash) ∧
    (sampleTree false).ignoredEntries ≠ (sampleTree true).ignoredEntries := by
  obtain ⟨returns, collections, streams⟩ := sample_checked
  refine ⟨?_, ignoredFingerprint_same collections streams, fun same => ?_⟩
  · cases captured : (sampleTree false).ignoredStream with
    | error failure =>
      rw [captured] at returns
      cases returns
    | ok stream => exact ⟨stream, rfl, streams.trans captured⟩
  · have names : ∀ name ∈ ([[100], [239, 187, 191, 97]] : List Bytes), ValidName name := by decide
    have ignored : (sampleTree true).Ignored [[100], [239, 187, 191, 97]] :=
      @Ignored.entry (sampleTree true) [[100]] (.directory 0o755 [[97], [239, 187, 191, 97]])
        [239, 187, 191, 97] (@Ignored.listed (sampleTree true) [100, 47] (by decide)) rfl (by decide)
    have inside : (FileStatus.file 0o644 [121]).entry (joinNames [[100], [239, 187, 191, 97]]) ∈
        (sampleTree true).ignoredEntries := ⟨_, _, ignored, rfl, rfl⟩
    rw [← same] at inside
    obtain ⟨others, status, ignored', found, equal⟩ := inside
    have paths := congrArg (List.splitOn 47) (congrArg WorkspaceEntry.path equal)
    change (joinNames [[100], [239, 187, 191, 97]]).splitOn 47 = (joinNames others).splitOn 47 at paths
    rw [split_joinNames (by decide) names, split_joinNames ignored'.nonempty ignored'.valid] at paths
    subst paths
    cases found

end Worktree
end Anastom
