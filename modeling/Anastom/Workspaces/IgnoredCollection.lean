import Anastom.Data.Exploration
import Anastom.Workspaces.Checkpoint
import Mathlib.Algebra.Order.BigOperators.Group.List
import Mathlib.Algebra.Order.Ring.Nat

/-! What the capture of ignored files collects: the entry of every path that is reached from
the listed ones through the names of directories, whatever the order of the names. -/
namespace Anastom

/-- The entry that is recorded for what was found at a path. -/
def FileStatus.ignoredEntry (path : String) (target : List String) :
    FileStatus → Option IgnoredEntry
  | .directory mode _ => some
      { path, target, type := .directory, mode := mode % 0o10000, size := 0, symlinkBytes := none }
  | .file mode content => some
      { path, target, type := .file, mode := mode % 0o10000, size := content.length
        symlinkBytes := none }
  | .symlink mode bytes => some
      { path, target, type := .symlink, mode := mode % 0o10000, size := bytes.length
        symlinkBytes := some bytes }
  | .other _ => none

def IgnoredCollection.paths (collection : IgnoredCollection) : List String :=
  collection.entries.map IgnoredEntry.path

def IgnoredCollection.exploration (collection : IgnoredCollection) :
    Exploration String IgnoredEntry where
  visited := collection.paths
  found := collection.entries

/-- The collection with one more entry. -/
def IgnoredCollection.add (collection : IgnoredCollection) (entry : IgnoredEntry) :
    IgnoredCollection where
  entries := collection.entries ++ [entry]
  byteCount := collection.byteCount + entry.size

theorem IgnoredCollection.paths_add {collection : IgnoredCollection} {entry : IgnoredEntry} :
    (collection.add entry).paths = collection.paths ++ [entry.path] := by
  rw [paths, add, List.map_append, paths, List.map_singleton]

theorem FileStatus.ignoredEntry_path {path : String} {target : List String} {status : FileStatus}
    {entry : IgnoredEntry} (recorded : status.ignoredEntry path target = some entry) :
    entry.path = path ∧ entry.target = target := by
  cases status with
  | other => cases recorded
  | _ =>
    cases recorded
    exact ⟨rfl, rfl⟩

theorem IgnoredCollection.has_iff {collection : IgnoredCollection} {path : String} :
    collection.has path = true ↔ path ∈ collection.paths := by
  rw [has, List.any_eq_true, paths, List.mem_map]
  simp only [beq_iff_eq]

namespace Worktree

def statusAt (tree : Worktree) (path : String) : Except Failure FileStatus := do
  tree.lstat (← tree.lexicalChild path)

/-- A directory leads to what its names decode to. -/
def Leads (tree : Worktree) (path next : String) : Prop :=
  ∃ status, tree.statusAt path = .ok status ∧ ∃ name ∈ status.names, ∃ child,
    Utf8.textDecoder name = some child ∧ next = normalizedPath (path ++ "/" ++ child)

def Yields (tree : Worktree) (path : String) (entry : IgnoredEntry) : Prop :=
  ∃ target status, tree.lexicalChild path = .ok target ∧ tree.lstat target = .ok status ∧
    status.ignoredEntry path target = some entry

/-- All names at a path are UTF-8. -/
def Decodes (tree : Worktree) (path : String) : Prop :=
  ∀ status, tree.statusAt path = .ok status → ∀ name ∈ status.names,
    ∃ child, Utf8.textDecoder name = some child

section
variable {tree : Worktree} {start : String → Prop} {before middle after : IgnoredCollection}
  {path : String} {entry other : IgnoredEntry}

theorem Yields.status (yields : tree.Yields path entry) :
    ∃ status, tree.statusAt path = .ok status ∧ tree.lexicalChild path = .ok entry.target ∧
      tree.lstat entry.target = .ok status ∧ entry.path = path ∧
      status.ignoredEntry path entry.target = some entry := by
  obtain ⟨target, status, child, found, recorded⟩ := yields
  obtain ⟨samePath, rfl⟩ := FileStatus.ignoredEntry_path recorded
  exact ⟨status, bind_ok.mpr ⟨_, child, found⟩, child, found, samePath, recorded⟩

theorem Yields.unique (one : tree.Yields path entry) (two : tree.Yields path other) :
    entry = other := by
  obtain ⟨target, status, child, found, recorded⟩ := one
  obtain ⟨_, _, child', found', recorded'⟩ := two
  rw [child] at child'
  obtain rfl := Except.ok.inj child'
  rw [found] at found'
  obtain rfl := Except.ok.inj found'
  rw [recorded] at recorded'
  exact Option.some.inj recorded'

/-- The collection has gone from one state to another. -/
abbrev Collected (tree : Worktree) (before after : IgnoredCollection) : Prop :=
  Exploration.Explores tree.Leads tree.Yields before.exploration after.exploration

/-- The capture may be at a path. -/
def Reached (tree : Worktree) (start : String → Prop) (path : String) : Prop :=
  ∃ first, start first ∧ Relation.ReflTransGen tree.Leads first path

/-- Each path is collected once with what stands there, and the limits are kept. -/
structure Valid (tree : Worktree) (start : String → Prop) (collection : IgnoredCollection) :
    Prop where
  distinct : collection.paths.Nodup
  counted : collection.byteCount = (collection.entries.map IgnoredEntry.size).sum
  few : collection.entries.length ≤ ignoredEntryLimit
  light : collection.byteCount ≤ ignoredByteLimit
  captured : ∀ entry ∈ collection.entries, tree.Yields entry.path entry
  sound : Exploration.Sound tree.Leads tree.Yields start collection.exploration

/-- The names of the directories that were added are UTF-8. -/
def Reads (tree : Worktree) (before after : IgnoredCollection) : Prop :=
  ∀ path ∈ after.paths, path ∈ before.paths ∨ tree.Decodes path

theorem Reached.leads {next : String} (reached : tree.Reached start path)
    (leads : tree.Leads path next) : tree.Reached start next := by
  obtain ⟨first, isStart, steps⟩ := reached
  exact ⟨first, isStart, steps.tail leads⟩

theorem Reads.refl (collection : IgnoredCollection) : tree.Reads collection collection :=
  fun _ member => .inl member

theorem Reads.trans (one : tree.Reads before middle) (two : tree.Reads middle after) :
    tree.Reads before after := by
  intro path member
  rcases two path member with earlier | decodes
  · exact one path earlier
  · exact .inr decodes

theorem valid_empty : tree.Valid start { entries := [], byteCount := 0 } where
  distinct := List.nodup_nil
  counted := rfl
  few := Nat.zero_le _
  light := Nat.zero_le _
  captured _ member := absurd member List.not_mem_nil
  sound := ⟨fun _ member => absurd member List.not_mem_nil,
    fun _ member => absurd member List.not_mem_nil⟩

theorem addIgnoredEntry_ok (fresh : before.has entry.path = false) :
    addIgnoredEntry before entry = .ok after ↔
      before.entries.length < ignoredEntryLimit ∧
      before.byteCount + entry.size ≤ ignoredByteLimit ∧
      after = before.add entry := by
  rw [addIgnoredEntry, fresh, if_neg Bool.false_ne_true, require_bind_ok, decide_eq_true_iff,
    require_bind_ok, decide_eq_true_iff]
  constructor
  · rintro ⟨few, light, same⟩
    exact ⟨few, light, (Except.ok.inj same).symm⟩
  · rintro ⟨few, light, rfl⟩
    exact ⟨few, light, rfl⟩

theorem Valid.add (valid : tree.Valid start before) (fresh : before.has entry.path = false)
    (added : addIgnoredEntry before entry = .ok after) (yields : tree.Yields entry.path entry)
    (reached : tree.Reached start entry.path) : tree.Valid start after := by
  obtain ⟨few, light, rfl⟩ := (addIgnoredEntry_ok fresh).mp added
  have absent : entry.path ∉ before.paths := by
    rw [← IgnoredCollection.has_iff, fresh]
    exact Bool.false_ne_true
  obtain ⟨first, isStart, steps⟩ := reached
  constructor
  case distinct =>
    rw [IgnoredCollection.paths_add]
    exact List.nodup_append.mpr ⟨valid.distinct, List.nodup_singleton _, fun old listed new isNew => by
      rw [List.mem_singleton] at isNew
      rintro rfl
      exact absent (isNew ▸ listed)⟩
  case counted =>
    rw [IgnoredCollection.add, List.map_append, List.sum_append, ← valid.counted, List.map_singleton, List.sum_singleton]
  case few =>
    rw [IgnoredCollection.add, List.length_append, List.length_singleton]
    exact few
  case light => exact light
  case captured =>
    intro other member
    rcases List.mem_append.mp member with old | new
    · exact valid.captured other old
    · rw [List.mem_singleton.mp new]
      exact yields
  case sound =>
    constructor
    · intro path member
      rw [IgnoredCollection.exploration, IgnoredCollection.paths_add] at member
      rcases List.mem_append.mp member with old | new
      · exact valid.sound.visited path old
      · rw [List.mem_singleton] at new
        exact ⟨first, isStart, new ▸ steps⟩
    · intro other member
      rcases List.mem_append.mp member with old | new
      · exact valid.sound.found other old
      · rw [List.mem_singleton.mp new]
        exact ⟨first, entry.path, isStart, steps, yields⟩

/-- A capture that returns has entered its path, has left behind everything that it entered, and
has collected nothing else. -/
def Collects (tree : Worktree)
    (collect : String → IgnoredCollection → Except Failure IgnoredCollection) : Prop :=
  ∀ listed before after, collect listed before = .ok after →
    tree.Collected before after ∧ normalizedPath listed ∈ after.paths ∧ tree.Reads before after ∧
    ∀ start, tree.Reached start (normalizedPath listed) → tree.Valid start before →
      tree.Valid start after

/-- The names of a directory, one after the other. -/
theorem collectNames_spec {collect : String → IgnoredCollection → Except Failure IgnoredCollection}
    (collects : tree.Collects collect) {names : List Bytes}
    (ran : names.foldlM (fun collection name => do
      let child ← decodeUtf8 name "a filesystem path"
      collect (path ++ "/" ++ child) collection) before = .ok after) :
    tree.Collected before after ∧ tree.Reads before after ∧
    (∀ name ∈ names, ∃ child, Utf8.textDecoder name = some child ∧
      normalizedPath (path ++ "/" ++ child) ∈ after.paths) ∧
    ∀ start, (∀ name ∈ names, ∀ child, Utf8.textDecoder name = some child →
        tree.Reached start (normalizedPath (path ++ "/" ++ child))) →
      tree.Valid start before → tree.Valid start after := by
  induction names generalizing before with
  | nil =>
    cases ran
    refine ⟨.refl _, .refl _, ?_, fun _ _ valid => valid⟩
    rintro name member
    cases member
  | cons name names ih =>
    rw [List.foldlM_cons, bind_ok] at ran
    obtain ⟨middle, first, rest⟩ := ran
    obtain ⟨child, decoded, ran⟩ := bind_ok.mp first
    have decoded := requireSome_ok.mp decoded
    obtain ⟨collected, entered, reads, valid⟩ := collects _ _ _ ran
    obtain ⟨later, reads', names_entered, valid'⟩ := ih rest
    refine ⟨collected.trans later, reads.trans reads', ?_, ?_⟩
    · intro other member
      rcases List.mem_cons.mp member with rfl | member
      · exact ⟨child, decoded, later.visited entered⟩
      · exact names_entered other member
    · intro start reached isValid
      refine valid' start (fun other member => reached other (List.mem_cons_of_mem _ member)) ?_
      exact valid start (reached name List.mem_cons_self child decoded) isValid

/-- An entry and the names that it leads to; a file or a link has none. -/
theorem collectEntry_spec {collect : String → IgnoredCollection → Except Failure IgnoredCollection}
    (collects : tree.Collects collect) {status : FileStatus}
    (added : addIgnoredEntry before entry = .ok middle) (fresh : before.has entry.path = false)
    (located : tree.statusAt entry.path = .ok status) (yields : tree.Yields entry.path entry)
    (ran : status.names.foldlM (fun collection name => do
      let child ← decodeUtf8 name "a filesystem path"
      collect (entry.path ++ "/" ++ child) collection) middle = .ok after) :
    tree.Collected before after ∧ entry.path ∈ after.paths ∧ tree.Reads before after ∧
    ∀ start, tree.Reached start entry.path → tree.Valid start before → tree.Valid start after := by
  obtain ⟨collected, reads, entered, valid⟩ := collectNames_spec collects ran
  have leads (next : String) : tree.Leads entry.path next ↔
      ∃ name ∈ status.names, ∃ child, Utf8.textDecoder name = some child ∧
        next = normalizedPath (entry.path ++ "/" ++ child) := by
    constructor
    · rintro ⟨again, found, steps⟩
      rw [located] at found
      rw [← Except.ok.inj found] at steps
      exact steps
    · intro steps
      exact ⟨_, located, steps⟩
  have middle_valid (start : String → Prop) (reached : tree.Reached start entry.path)
      (isValid : tree.Valid start before) : tree.Valid start middle :=
    isValid.add fresh added yields reached
  obtain ⟨_, _, rfl⟩ := (addIgnoredEntry_ok fresh).mp added
  have grown : Exploration.Explores tree.Leads tree.Yields
      { before.exploration with visited := before.exploration.visited ++ [entry.path] }
      (before.add entry).exploration := by
    have same : (before.add entry).exploration =
        { visited := before.paths ++ [entry.path], found := before.entries ++ [entry] } := by
      rw [IgnoredCollection.exploration, IgnoredCollection.paths_add]
      rfl
    rw [same]
    exact Exploration.explores_found (List.subset_append_left _ _)
  have inside : entry.path ∈ after.paths := by
    refine collected.visited ?_
    rw [IgnoredCollection.exploration, IgnoredCollection.paths_add]
    exact List.mem_append_right _ List.mem_cons_self
  refine ⟨(grown.trans collected).leave ⟨?_, ?_⟩, inside, ?_, ?_⟩
  · intro next steps
    obtain ⟨name, member, child, decoded, rfl⟩ := (leads next).mp steps
    obtain ⟨other, decoded', entered⟩ := entered name member
    rw [decoded] at decoded'
    exact Option.some.inj decoded' ▸ entered
  · intro result yielded
    rw [yielded.unique yields]
    exact collected.found (List.mem_append_right _ List.mem_cons_self)
  · intro other member
    rcases reads other member with old | decodes
    · rw [IgnoredCollection.paths_add] at old
      refine (List.mem_append.mp old).imp_right fun new => ?_
      intro again found name listed
      rw [List.mem_singleton.mp new, located] at found
      rw [← Except.ok.inj found] at listed
      obtain ⟨child, decoded, _⟩ := entered name listed
      exact ⟨child, decoded⟩
    · exact .inr decodes
  · intro start reached isValid
    refine valid start ?_ (middle_valid start reached isValid)
    intro name member child decoded
    exact reached.leads ((leads _).mpr ⟨name, member, child, decoded, rfl⟩)

theorem collectIgnoredEntry_spec (levels : Nat) :
    tree.Collects (tree.collectIgnoredEntry levels) := by
  induction levels with
  | zero =>
    intro listed before after ran
    cases ran
  | succ levels ih =>
    intro listed before after ran
    rw [collectIgnoredEntry] at ran
    split at ran
    case isTrue known =>
      cases ran
      exact ⟨.refl _, IgnoredCollection.has_iff.mp known, .refl _, fun _ _ valid => valid⟩
    case isFalse unknown =>
      have fresh : before.has (normalizedPath listed) = false := Bool.eq_false_iff.mpr unknown
      obtain ⟨target, child, ran⟩ := bind_ok.mp ran
      obtain ⟨status, found, ran⟩ := bind_ok.mp ran
      have located : tree.statusAt (normalizedPath listed) = .ok status :=
        bind_ok.mpr ⟨target, child, found⟩
      cases status with
      | other mode => cases ran
      | file mode content =>
        obtain ⟨_, added⟩ := require_bind_ok.mp ran
        exact collectEntry_spec ih added fresh located ⟨target, _, child, found, rfl⟩ rfl
      | symlink mode bytes =>
        exact collectEntry_spec ih ran fresh located ⟨target, _, child, found, rfl⟩ rfl
      | directory mode names =>
        obtain ⟨middle, added, ran⟩ := bind_ok.mp ran
        exact collectEntry_spec ih added fresh located ⟨target, _, child, found, rfl⟩ ran

/-- Anything may be a start. -/
abbrev Anywhere : String → Prop := fun _ => True

/-- A collection that leads nowhere else. -/
structure Complete (tree : Worktree) (whole : IgnoredCollection) : Prop where
  valid : tree.Valid Anywhere whole
  decodes : ∀ path ∈ whole.paths, tree.Decodes path
  leads : ∀ path ∈ whole.paths, ∀ next, tree.Leads path next → next ∈ whole.paths

theorem reached_anywhere (path : String) : tree.Reached Anywhere path := ⟨path, trivial, .refl⟩

theorem Valid.anywhere (valid : tree.Valid start before) : tree.Valid Anywhere before where
  distinct := valid.distinct
  counted := valid.counted
  few := valid.few
  light := valid.light
  captured := valid.captured
  sound := ⟨fun path _ => ⟨path, trivial, .refl⟩, fun result member =>
    ⟨result.path, result.path, trivial, .refl, valid.captured result member⟩⟩

theorem Valid.nodup (valid : tree.Valid start before) : before.entries.Nodup :=
  List.Nodup.of_map _ valid.distinct

/-- A part of a collection is not larger. -/
theorem Valid.part {whole : List IgnoredEntry} (distinct : before.entries.Nodup)
    (part : before.entries ⊆ whole) : before.entries.length ≤ whole.length ∧
      (before.entries.map IgnoredEntry.size).sum ≤ (whole.map IgnoredEntry.size).sum := by
  obtain ⟨order, same, sub⟩ := List.subperm_of_subset distinct part
  constructor
  · rw [← same.length_eq]
    exact sub.length_le
  · rw [← (same.map _).sum_eq]
    exact (sub.map _).sum_le_sum fun _ _ => Nat.zero_le _

theorem Collected.length (collected : tree.Collected before after)
    (valid : tree.Valid start before) : before.entries.length ≤ after.entries.length :=
  (Valid.part valid.nodup collected.found).1

/-- An entry of a complete collection can be added to a part of it. -/
theorem Complete.add {whole : IgnoredCollection} (complete : tree.Complete whole)
    (valid : tree.Valid Anywhere before) (part : before.entries ⊆ whole.entries)
    (member : entry ∈ whole.entries) (fresh : before.has entry.path = false) :
    addIgnoredEntry before entry = .ok (before.add entry) := by
  have absent : entry ∉ before.entries := by
    intro old
    have known := IgnoredCollection.has_iff.mpr (List.mem_map_of_mem old)
    rw [fresh] at known
    cases known
  have distinct : (before.entries ++ [entry]).Nodup :=
    List.nodup_append.mpr ⟨valid.nodup, List.nodup_singleton _, fun old listed new isNew => by
      rw [List.mem_singleton.mp isNew]
      rintro rfl
      exact absent listed⟩
  have inside : before.entries ++ [entry] ⊆ whole.entries :=
    List.append_subset.mpr ⟨part, List.cons_subset.mpr ⟨member, List.nil_subset _⟩⟩
  obtain ⟨length, sum⟩ := @Valid.part
    { entries := before.entries ++ [entry], byteCount := 0 } _ distinct inside
  have few := complete.valid.few
  have light := complete.valid.light
  rw [List.length_append, List.length_singleton] at length
  rw [List.map_append, List.sum_append, ← complete.valid.counted, ← valid.counted,
    List.map_singleton, List.sum_singleton] at sum
  exact (addIgnoredEntry_ok fresh).mpr ⟨by omega, by omega, rfl⟩

/-- Capturing what a complete collection holds goes through, and finds nothing else, as long as
there are levels enough for the entries that are still missing. -/
def Returns (tree : Worktree) (whole : IgnoredCollection) (levels : Nat) : Prop :=
  ∀ listed before, normalizedPath listed ∈ whole.paths → tree.Valid Anywhere before →
    before.entries ⊆ whole.entries → ignoredEntryLimit < levels + before.entries.length →
    ∃ after, tree.collectIgnoredEntry levels listed before = .ok after ∧
      after.entries ⊆ whole.entries

theorem collectNames_returns {whole : IgnoredCollection} {levels : Nat}
    (returns : tree.Returns whole levels) {names : List Bytes}
    (decoded : ∀ name ∈ names, ∃ child, Utf8.textDecoder name = some child ∧
      normalizedPath (path ++ "/" ++ child) ∈ whole.paths)
    (valid : tree.Valid Anywhere before) (part : before.entries ⊆ whole.entries)
    (enough : ignoredEntryLimit < levels + before.entries.length) :
    ∃ after, names.foldlM (fun collection name => do
      let child ← decodeUtf8 name "a filesystem path"
      tree.collectIgnoredEntry levels (path ++ "/" ++ child) collection) before = .ok after ∧
      after.entries ⊆ whole.entries := by
  induction names generalizing before with
  | nil => exact ⟨before, rfl, part⟩
  | cons name names ih =>
    obtain ⟨child, isText, member⟩ := decoded name List.mem_cons_self
    obtain ⟨middle, ran, inside⟩ := returns _ before member valid part enough
    obtain ⟨collected, _, _, later⟩ := collectIgnoredEntry_spec levels _ _ _ ran
    have length := collected.length valid
    obtain ⟨after, rest, found⟩ := ih
      (fun other listed => decoded other (List.mem_cons_of_mem _ listed))
      (later Anywhere (reached_anywhere _) valid) inside (by omega)
    refine ⟨after, ?_, found⟩
    rw [List.foldlM_cons, bind_ok]
    exact ⟨middle, bind_ok.mpr ⟨child, requireSome_ok.mpr isText, ran⟩, rest⟩

theorem Complete.returns {whole : IgnoredCollection} (complete : tree.Complete whole)
    (levels : Nat) : tree.Returns whole levels := by
  induction levels with
  | zero =>
    intro listed before _ valid _ enough
    have few := valid.few
    omega
  | succ levels ih =>
    intro listed before member valid part enough
    rw [collectIgnoredEntry]
    by_cases known : before.has (normalizedPath listed) = true
    · rw [if_pos known]
      exact ⟨before, rfl, part⟩
    · rw [if_neg known]
      have fresh := Bool.eq_false_iff.mpr known
      obtain ⟨entry, inside, named⟩ := List.mem_map.mp member
      obtain ⟨status, located, child, found, _, recorded⟩ :=
        (complete.valid.captured entry inside).status
      rw [← named] at fresh ⊢
      have added := complete.add valid part inside fresh
      have grown : (before.add entry).entries ⊆ whole.entries :=
        List.append_subset.mpr ⟨part, List.cons_subset.mpr ⟨inside, List.nil_subset _⟩⟩
      have light : entry.size ≤ maxSafeInteger := by
        have sum := (@Valid.part { entries := [entry], byteCount := 0 } _
          (List.nodup_singleton _) (List.cons_subset.mpr ⟨inside, List.nil_subset _⟩)).2
        have limit := complete.valid.light
        rw [← complete.valid.counted, List.map_singleton, List.sum_singleton] at sum
        unfold ignoredByteLimit at limit
        unfold maxSafeInteger
        omega
      cases status with
      | other mode => cases recorded
      | file mode content =>
        have made := Option.some.inj recorded
        have short : content.length ≤ maxSafeInteger := (congrArg IgnoredEntry.size made).trans_le light
        refine ⟨before.add entry, bind_ok.mpr ⟨_, child, bind_ok.mpr ⟨_, found, ?_⟩⟩, grown⟩
        refine require_bind_ok.mpr ?_
        exact ⟨decide_eq_true short, (congrArg (addIgnoredEntry before) made).trans added⟩
      | symlink mode bytes =>
        have made := Option.some.inj recorded
        refine ⟨before.add entry, bind_ok.mpr ⟨_, child, bind_ok.mpr ⟨_, found, ?_⟩⟩, grown⟩
        exact (congrArg (addIgnoredEntry before) made).trans added
      | directory mode names =>
        have made := Option.some.inj recorded
        have decoded : ∀ name ∈ names, ∃ child, Utf8.textDecoder name = some child ∧
            normalizedPath (entry.path ++ "/" ++ child) ∈ whole.paths := by
          intro name listed
          obtain ⟨child, isText⟩ := complete.decodes _ (List.mem_map_of_mem inside) _ located name
            listed
          exact ⟨child, isText, complete.leads _ (List.mem_map_of_mem inside) _
            ⟨_, located, name, listed, child, isText, rfl⟩⟩
        have valid' := valid.add fresh added (complete.valid.captured entry inside)
          (reached_anywhere _)
        obtain ⟨after, ran, rest⟩ := collectNames_returns ih decoded valid' grown (by
          rw [IgnoredCollection.add, List.length_append, List.length_singleton]
          omega)
        refine ⟨after, bind_ok.mpr ⟨_, child, bind_ok.mpr ⟨_, found, bind_ok.mpr ?_⟩⟩, rest⟩
        exact ⟨_, (congrArg (addIgnoredEntry before) made).trans added, ran⟩

/-- More levels change nothing when there are enough for the entries that can still be added. -/
theorem collectIgnoredEntry_levels {levels : Nat} (valid : tree.Valid Anywhere before)
    (enough : ignoredEntryLimit < levels + before.entries.length) (listed : String) :
    tree.collectIgnoredEntry (levels + 1) listed before =
      tree.collectIgnoredEntry levels listed before := by
  induction levels generalizing before listed with
  | zero =>
    have few := valid.few
    omega
  | succ levels ih =>
    have namesSame (path : String) (names : List Bytes) {before : IgnoredCollection}
        (valid : tree.Valid Anywhere before)
        (enough : ignoredEntryLimit < levels + before.entries.length) :
        names.foldlM (fun collection name => do
          let child ← decodeUtf8 name "a filesystem path"
          tree.collectIgnoredEntry (levels + 1) (path ++ "/" ++ child) collection) before =
        names.foldlM (fun collection name => do
          let child ← decodeUtf8 name "a filesystem path"
          tree.collectIgnoredEntry levels (path ++ "/" ++ child) collection) before := by
      induction names generalizing before with
      | nil => rfl
      | cons name names names_ih =>
        rw [List.foldlM_cons, List.foldlM_cons, bind_assoc, bind_assoc]
        refine bind_congr_ok fun child _ => ?_
        rw [ih valid enough]
        refine bind_congr_ok fun middle ran => ?_
        obtain ⟨collected, _, _, later⟩ := collectIgnoredEntry_spec levels _ _ _ ran
        have length := collected.length valid
        exact names_ih (later Anywhere (reached_anywhere _) valid) (by omega)
    rw [collectIgnoredEntry, collectIgnoredEntry]
    split
    case isTrue => rfl
    case isFalse unknown =>
      have fresh := Bool.eq_false_iff.mpr unknown
      refine bind_congr_ok fun target child => bind_congr_ok fun status found => ?_
      cases status with
      | directory mode names =>
        refine bind_congr_ok fun middle added => ?_
        refine namesSame _ names (valid.add fresh added ⟨target, _, child, found, rfl⟩
          (reached_anywhere _)) ?_
        obtain ⟨_, _, rfl⟩ := (addIgnoredEntry_ok fresh).mp added
        rw [IgnoredCollection.add, List.length_append, List.length_singleton]
        omega
      | _ => rfl

/-- The bound on the levels of a capture never shows: the limit on entries is met first. -/
theorem ignoredCollection_levels (extra : Nat) :
    tree.ignoredCollection = decodeGitPaths tree.listed >>= fun roots =>
      (roots.insertionSort (Json.entryLe id)).foldlM (fun collection root =>
        tree.collectIgnoredEntry (ignoredEntryLimit + 1 + extra) root collection)
        { entries := [], byteCount := 0 } := by
  have once {before : IgnoredCollection} (valid : tree.Valid Anywhere before) (listed : String) :
      tree.collectIgnoredEntry (ignoredEntryLimit + 1 + extra) listed before =
        tree.collectIgnoredEntry (ignoredEntryLimit + 1) listed before := by
    induction extra with
    | zero => rfl
    | succ extra ih =>
      rw [← Nat.add_assoc]
      exact (collectIgnoredEntry_levels valid (by omega) listed).trans ih
  have walked (starts : List String) {before : IgnoredCollection}
      (valid : tree.Valid Anywhere before) :
      starts.foldlM (fun collection root =>
        tree.collectIgnoredEntry (ignoredEntryLimit + 1) root collection) before =
      starts.foldlM (fun collection root =>
        tree.collectIgnoredEntry (ignoredEntryLimit + 1 + extra) root collection) before := by
    induction starts generalizing before with
    | nil => rfl
    | cons root starts ih =>
      rw [List.foldlM_cons, List.foldlM_cons, once valid]
      refine bind_congr_ok fun middle ran => ?_
      obtain ⟨_, _, _, later⟩ := collectIgnoredEntry_spec _ _ _ _ ran
      exact ih (later Anywhere (reached_anywhere _) valid)
  unfold ignoredCollection
  exact bind_congr_ok fun roots _ => walked _ valid_empty

/-- The paths that a capture starts with. -/
def Root (roots : List String) (path : String) : Prop := ∃ root ∈ roots, path = normalizedPath root

/-- A capture that returns has collected the entries that its roots lead to. -/
theorem ignoredCollection_spec (captured : tree.ignoredCollection = .ok after) :
    ∃ roots, decodeGitPaths tree.listed = .ok roots ∧ tree.Complete after ∧
      ∀ path, path ∈ after.paths ↔ tree.Reached (Root roots) path := by
  obtain ⟨roots, decoded, ran⟩ := bind_ok.mp captured
  refine ⟨roots, decoded, ?_⟩
  have member (root : String) : root ∈ roots.insertionSort (Json.entryLe id) ↔ root ∈ roots :=
    (List.perm_insertionSort _ roots).mem_iff
  have walked {starts : List String} {before : IgnoredCollection}
      (ran : starts.foldlM (fun collection root =>
        tree.collectIgnoredEntry (ignoredEntryLimit + 1) root collection) before = .ok after)
      (inside : starts ⊆ roots) (valid : tree.Valid (Root roots) before) :
      tree.Collected before after ∧ tree.Reads before after ∧ tree.Valid (Root roots) after ∧
      ∀ root ∈ starts, normalizedPath root ∈ after.paths := by
    induction starts generalizing before with
    | nil =>
      cases ran
      refine ⟨.refl _, .refl _, valid, ?_⟩
      intro root listed
      cases listed
    | cons root starts ih =>
      rw [List.foldlM_cons, bind_ok] at ran
      obtain ⟨middle, first, rest⟩ := ran
      obtain ⟨collected, entered, reads, later⟩ := collectIgnoredEntry_spec _ _ _ _ first
      have isRoot : Root roots (normalizedPath root) := ⟨root, inside List.mem_cons_self, rfl⟩
      obtain ⟨collected', reads', valid', entered'⟩ := ih rest
        (fun other listed => inside (List.mem_cons_of_mem _ listed))
        (later _ ⟨_, isRoot, .refl⟩ valid)
      refine ⟨collected.trans collected', reads.trans reads', valid', ?_⟩
      intro other listed
      rcases List.mem_cons.mp listed with rfl | listed
      · exact collected'.visited entered
      · exact entered' other listed
  obtain ⟨collected, reads, valid, entered⟩ :=
    walked ran (fun root listed => (member root).mp listed) valid_empty
  have settled (path : String) (listed : path ∈ after.paths) :=
    (collected.settled path listed).resolve_left List.not_mem_nil
  refine ⟨⟨valid.anywhere, ?_, fun path listed => (settled path listed).next⟩, ?_⟩
  · exact fun path listed => (reads path listed).resolve_left List.not_mem_nil
  · intro path
    constructor
    · exact valid.sound.visited path
    · rintro ⟨first, ⟨root, listed, rfl⟩, steps⟩
      exact collected.reaches (entered root ((member root).mpr listed)) steps

/-- A capture whose roots lead into a complete collection returns with a part of it. -/
theorem Complete.captures {whole : IgnoredCollection} (complete : tree.Complete whole)
    {roots : List String} (decoded : decodeGitPaths tree.listed = .ok roots)
    (inside : ∀ root ∈ roots, normalizedPath root ∈ whole.paths) :
    ∃ after, tree.ignoredCollection = .ok after ∧ after.entries ⊆ whole.entries := by
  have walks {starts : List String} {before : IgnoredCollection} (listed : starts ⊆ roots)
      (valid : tree.Valid Anywhere before) (part : before.entries ⊆ whole.entries) :
      ∃ after, starts.foldlM (fun collection root =>
        tree.collectIgnoredEntry (ignoredEntryLimit + 1) root collection) before = .ok after ∧
        after.entries ⊆ whole.entries := by
    induction starts generalizing before with
    | nil => exact ⟨before, rfl, part⟩
    | cons root starts ih =>
      obtain ⟨middle, ran, found⟩ := complete.returns (ignoredEntryLimit + 1) root before
        (inside root (listed List.mem_cons_self)) valid part (by omega)
      obtain ⟨_, _, _, later⟩ := collectIgnoredEntry_spec _ _ _ _ ran
      obtain ⟨after, rest, found'⟩ := ih (fun other member => listed (List.mem_cons_of_mem _ member))
        (later Anywhere (reached_anywhere _) valid) found
      exact ⟨after, by rw [List.foldlM_cons, bind_ok]; exact ⟨middle, ran, rest⟩, found'⟩
  obtain ⟨after, ran, found⟩ := walks
    (fun root member => (List.perm_insertionSort (Json.entryLe id) roots).subset member)
    valid_empty (List.nil_subset _)
  exact ⟨after, bind_ok.mpr ⟨roots, decoded, ran⟩, found⟩

end
end Worktree
end Anastom
