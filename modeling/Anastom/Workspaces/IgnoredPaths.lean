import Anastom.Workspaces.IgnoredCollection
import Mathlib.Data.List.Pairwise

/-! The ignored paths of a workspace as bytes on disk, and the texts that the capture has for
them. A name is read as its own text unless it begins with a byte order mark. -/
namespace Anastom

/-- The bytes of a relative path. -/
def joinNames (names : List Bytes) : Bytes := [47].intercalate names

theorem joinNames_pathNames (path : Bytes) : joinNames (pathNames path) = withoutSlash path :=
  List.intercalate_splitOn _

theorem split_joinNames {names : List Bytes} (nonempty : names ≠ [])
    (valid : ∀ name ∈ names, ValidName name) : (joinNames names).splitOn 47 = names :=
  List.splitOn_intercalate 47 (fun name member => (valid name member).slash) nonempty

theorem joinNames_concat {names : List Bytes} (nonempty : names ≠ []) (name : Bytes) :
    joinNames (names ++ [name]) = joinNames names ++ 47 :: name := by
  induction names with
  | nil => exact absurd rfl nonempty
  | cons first rest ih =>
    cases rest with
    | nil =>
      simp only [joinNames, List.cons_append, List.nil_append, List.intercalate_cons_cons,
        List.intercalate_singleton, List.append_assoc]
    | cons second rest =>
      have later := ih (by simp)
      simp only [joinNames, List.cons_append, List.intercalate_cons_cons, List.append_assoc,
        List.nil_append] at later ⊢
      rw [later]

theorem mem_joinNames {names : List Bytes} {byte : UInt8} (member : byte ∈ joinNames names) :
    byte = 47 ∨ ∃ name ∈ names, byte ∈ name := by
  induction names with
  | nil => cases member
  | cons first rest ih =>
    cases rest with
    | nil => exact .inr ⟨first, List.mem_cons_self, by simpa [joinNames] using member⟩
    | cons second rest =>
      rw [joinNames, List.intercalate_cons_cons, List.mem_append, List.mem_append,
        List.mem_singleton] at member
      rcases member with (here | slash) | later
      · exact .inr ⟨first, List.mem_cons_self, here⟩
      · exact .inl slash
      · exact (ih later).imp_right fun found => by
          obtain ⟨name, inside, member⟩ := found
          exact ⟨name, List.mem_cons_of_mem _ inside, member⟩

/-- The text that a name is read as. -/
theorem child_valid {name : Bytes} {child : String} (valid : ValidName name)
    (decoded : Utf8.textDecoder name = some child) : '/' ∉ child.toList := by
  have ascii : ('/' : Char).toNat < 128 := by decide
  intro slash
  have byte : (47 : UInt8) ∈ Utf8.encode child := (Utf8.mem_encode ascii).mpr slash
  rcases Utf8.textDecoder_eq_some.mp decoded with ⟨same, _⟩ | same
  · exact valid.slash (same ▸ byte)
  · exact valid.slash (same ▸ List.mem_append_right _ byte)

theorem normalizedPath_empty (path : String) : normalizedPath (path ++ "/" ++ "") = path := by
  have chars : (path ++ "/" ++ "").toList = path.toList ++ ['/'] := by simp
  rw [normalizedPath, chars, List.getLast?_concat, if_pos rfl, List.dropLast_concat,
    String.ofList_toList]

theorem normalizedPath_child {path child : String} (nonempty : child ≠ "")
    (noSlash : '/' ∉ child.toList) : normalizedPath (path ++ "/" ++ child) = path ++ "/" ++ child := by
  have other : (path ++ "/" ++ child).toList.getLast? ≠ some '/' := by
    intro last
    have chars : child.toList ≠ [] := fun none => nonempty (String.toList_inj.mp none)
    rw [String.toList_append, List.getLast?_append_of_ne_nil _ chars] at last
    exact noSlash (List.mem_of_getLast? last)
  rw [normalizedPath, if_neg other]

theorem encode_child (path child : String) :
    Utf8.encode (path ++ "/" ++ child) = Utf8.encode path ++ 47 :: Utf8.encode child := by
  have slash : Utf8.encode "/" = [47] := by decide
  rw [Utf8.encode_append, Utf8.encode_append, slash, List.append_assoc, List.singleton_append]

theorem encode_normalizedPath (path : String) :
    Utf8.encode (normalizedPath path) = withoutSlash (Utf8.encode path) := by
  have ascii : ('/' : Char).toNat < 128 := by decide
  rw [withoutSlash, Utf8.encode_chars path]
  rcases List.eq_nil_or_concat path.toList with none | ⟨front, last, chars⟩
  · rw [normalizedPath, none]
    rw [String.toList_eq_nil_iff.mp none]
    rfl
  · rw [List.concat_eq_append] at chars
    rw [normalizedPath, chars, List.getLast?_concat, List.flatMap_append, List.flatMap_singleton]
    by_cases slash : last = '/'
    · subst slash
      have byte : UInt8.ofNat ('/' : Char).toNat = 47 := by decide
      rw [if_pos rfl, Utf8.encodeChar_ascii ascii, byte, List.dropLast_concat, Utf8.encode_ofList,
        List.getLast?_concat, if_pos rfl, List.dropLast_concat]
    · have bytes : String.utf8EncodeChar last ≠ [] := String.utf8EncodeChar_ne_nil
      have other : (front.flatMap String.utf8EncodeChar ++ String.utf8EncodeChar last).getLast? ≠
          some 47 := by
        rw [List.getLast?_append_of_ne_nil _ bytes]
        exact fun same => slash (Utf8.mem_encodeChar ascii (List.mem_of_getLast? same))
      rw [if_neg (fun same => slash (Option.some.inj same)), if_neg other, Utf8.encode_chars,
        chars, List.flatMap_append, List.flatMap_singleton]

namespace Worktree

/-- What stands at a path below the workspace. -/
def place (tree : Worktree) (names : List Bytes) : Except Failure FileStatus :=
  tree.files.lstat (tree.path.map Utf8.encode ++ names)

/-- The paths that Git lists, and all that stands in the directories among them. -/
inductive Ignored (tree : Worktree) : List Bytes → Prop
  | listed {path : Bytes} (member : path ∈ listedPaths tree.listed) : Ignored tree (pathNames path)
  | entry {names : List Bytes} {status : FileStatus} {name : Bytes} (inside : Ignored tree names)
      (found : tree.place names = .ok status) (member : name ∈ status.names) :
      Ignored tree (names ++ [name])

section
variable {tree : Worktree} {names : List Bytes} {path : String}

theorem Ignored.nonempty (ignored : tree.Ignored names) : names ≠ [] := by
  cases ignored with
  | listed member => exact List.splitOn_ne_nil _ _
  | entry => exact List.append_ne_nil_of_right_ne_nil _ (List.cons_ne_nil _ _)

theorem Ignored.valid (ignored : tree.Ignored names) : ∀ name ∈ names, ValidName name := by
  induction ignored with
  | listed member => exact tree.listed_valid _ member
  | entry _ found member ih =>
    intro name inside
    rcases List.mem_append.mp inside with before | last
    · exact ih name before
    · rw [List.mem_singleton.mp last]
      exact tree.files.names_valid _ _ found _ member

theorem Ignored.found (ignored : tree.Ignored names) :
    ∃ status, tree.place names = .ok status := by
  cases ignored with
  | listed member => exact tree.listed_found _ member
  | entry _ found member =>
    rw [place, ← List.append_assoc]
    exact tree.files.names_found _ _ found _ member

/-- The text has the bytes of these names as a path. -/
def Spells (path : String) (names : List Bytes) : Prop := Utf8.encode path = joinNames names

/-- A path is found by its text where its names lead. -/
theorem lexicalChild_spells (spells : Spells path names) (nonempty : names ≠ [])
    (valid : ∀ name ∈ names, ValidName name) : ∃ target, tree.lexicalChild path = .ok target ∧
      target.map Utf8.encode = tree.path.map Utf8.encode ++ names := by
  have ascii : ('/' : Char).toNat < 128 := by decide
  have byte : UInt8.ofNat ('/' : Char).toNat = 47 := by decide
  have dot : Utf8.encode "." = [46] := by decide
  have dots : Utf8.encode ".." = [46, 46] := by decide
  have split := Utf8.splitOn_encode ascii path
  rw [byte, spells, split_joinNames nonempty valid] at split
  have parts : ((path.toList.splitOn '/').map String.ofList).map Utf8.encode = names := by
    rw [List.map_map, split]
    rfl
  have plain : ∀ part ∈ (path.toList.splitOn '/').map String.ofList, PosixPath.Plain part := by
    intro part member
    have isValid := valid (Utf8.encode part) (parts ▸ List.mem_map_of_mem member)
    refine ⟨?_, ?_, ?_, ?_⟩
    · rintro rfl
      exact isValid.nonempty rfl
    · rintro rfl
      exact isValid.current dot
    · rintro rfl
      exact isValid.parent dots
    · intro slash
      exact isValid.slash (byte ▸ (Utf8.mem_encode ascii).mpr slash)
  have noNul : Char.ofNat 0 ∉ path.toList := by
    intro nul
    have zero := Utf8.zero_mem_encode.mpr nul
    rw [spells] at zero
    rcases mem_joinNames zero with slash | ⟨name, member, zero⟩
    · cases slash
    · exact (valid name member).nul zero
  have relative : path.toList.head? ≠ some '/' := by
    intro first
    cases chars : path.toList with
    | nil =>
      rw [chars] at first
      cases first
    | cons c rest =>
      rw [chars] at first
      obtain rfl : c = '/' := Option.some.inj first
      have opening := List.splitOn_append_cons_self (a := '/') [] rest
      refine (plain "" ?_).nonempty rfl
      rw [chars]
      rw [List.nil_append] at opening
      rw [opening]
      exact List.mem_cons_self
  have some : path ≠ "" := by
    rintro rfl
    exact (plain "" List.mem_cons_self).nonempty rfl
  have resolved : PosixPath.resolve tree.path path =
      tree.path ++ (path.toList.splitOn '/').map String.ofList := by
    rw [PosixPath.resolve, if_neg relative]
    exact PosixPath.walk_plain plain _
  have longer : tree.path ++ (path.toList.splitOn '/').map String.ofList ≠ tree.path := by
    intro same
    have none := List.append_right_eq_self.mp same
    rw [none] at parts
    exact nonempty parts.symm
  refine ⟨tree.path ++ (path.toList.splitOn '/').map String.ofList, ?_, ?_⟩
  · rw [lexicalChild, require_bind_ok, resolved]
    refine ⟨decide_eq_true ⟨some, noNul, relative⟩, require_bind_ok.mpr ⟨decide_eq_true ?_, rfl⟩⟩
    exact .inr ⟨List.prefix_append _ _, longer⟩
  · rw [List.map_append, parts]

theorem statusAt_spells (spells : Spells path names) (nonempty : names ≠ [])
    (valid : ∀ name ∈ names, ValidName name) : tree.statusAt path = tree.place names := by
  obtain ⟨target, child, same⟩ := @lexicalChild_spells tree _ _ spells nonempty valid
  rw [statusAt, child, place, ← same]
  rfl

/-- The roots of a capture have the bytes of the listed paths behind a leading mark. -/
theorem decodeGitPaths_ok {output : Bytes} {roots : List String}
    (decoded : decodeGitPaths output = .ok roots) :
    roots.map Utf8.encode = listedPaths (Utf8.withoutMark output) := by
  obtain ⟨text, isText, made⟩ := bind_ok.mp decoded
  rw [← Utf8.encode_decoded (requireSome_ok.mp isText)]
  have ascii : (Char.ofNat 0).toNat < 128 := by decide
  have byte : UInt8.ofNat (Char.ofNat 0).toNat = 0 := by decide
  have split := Utf8.splitOn_encode ascii text
  rw [byte] at split
  rw [← Except.ok.inj made, listedPaths, split]
  induction text.toList.splitOn (Char.ofNat 0) with
  | nil => rfl
  | cons part parts ih =>
    rw [List.map_cons, List.map_cons, List.filter_cons, List.filter_cons]
    by_cases empty : String.ofList part = ""
    · rw [if_neg (by simpa using empty), if_neg (by simpa [Utf8.encode_eq_nil] using empty)]
      exact ih
    · rw [if_pos (by simpa using empty), if_pos (by simpa [Utf8.encode_eq_nil] using empty),
        List.map_cons, ih]

/-- A child's text has the bytes of its parent's names and its own. -/
theorem Spells.child {child : String} (spells : Spells path names) (nonempty : names ≠ []) :
    Spells (path ++ "/" ++ child) (names ++ [Utf8.encode child]) := by
  rw [Spells, encode_child, spells, joinNames_concat nonempty]

theorem Spells.unique {others : List Bytes} (spells : Spells path names)
    (spells' : Spells path others) (nonempty : names ≠ []) (nonempty' : others ≠ [])
    (free : ∀ name ∈ names, 47 ∉ name) (free' : ∀ name ∈ others, 47 ∉ name) : names = others := by
  rw [← List.splitOn_intercalate 47 free nonempty, ← List.splitOn_intercalate 47 free' nonempty']
  exact congrArg (List.splitOn 47) (spells.symm.trans spells')

theorem withoutMark_free_slash {name : Bytes} (valid : ValidName name) :
    47 ∉ Utf8.withoutMark name := by
  unfold Utf8.withoutMark
  split
  · exact fun slash => valid.slash (List.mem_of_mem_drop slash)
  · exact valid.slash

/-- One step of the capture stays where it is, for a name that is only a mark, or goes to a
child by what is left of its name. -/
theorem Leads.cases {next : String} (leads : tree.Leads path next) (spells : Spells path names)
    (ignored : tree.Ignored names) : next = path ∨ ∃ status name, tree.place names = .ok status ∧
      name ∈ status.names ∧ Utf8.withoutMark name ≠ [] ∧
      Spells next (names ++ [Utf8.withoutMark name]) := by
  obtain ⟨status, located, name, member, child, decoded, rfl⟩ := leads
  rw [statusAt_spells spells ignored.nonempty ignored.valid] at located
  have noSlash := child_valid (tree.files.names_valid _ _ located name member) decoded
  by_cases empty : child = ""
  · subst empty
    exact .inl (normalizedPath_empty path)
  · refine .inr ⟨status, name, located, member, ?_, ?_⟩
    · rwa [← Utf8.encode_decoded decoded, ne_eq, Utf8.encode_eq_nil]
    · rw [normalizedPath_child empty noSlash, ← Utf8.encode_decoded decoded]
      exact spells.child ignored.nonempty

/-- From an ignored directory the capture goes to what is left of a name in it. -/
theorem Decodes.leads (decodes : tree.Decodes path) (spells : Spells path names)
    (ignored : tree.Ignored names) {status : FileStatus} (found : tree.place names = .ok status)
    {name : Bytes} (member : name ∈ status.names) (left : Utf8.withoutMark name ≠ []) :
    ∃ next, tree.Leads path next ∧ Spells next (names ++ [Utf8.withoutMark name]) := by
  have located : tree.statusAt path = .ok status := by
    rw [statusAt_spells spells ignored.nonempty ignored.valid, found]
  obtain ⟨child, decoded⟩ := decodes status located name member
  have noSlash := child_valid (tree.files.names_valid _ _ found name member) decoded
  rw [← Utf8.encode_decoded decoded] at left ⊢
  refine ⟨path ++ "/" ++ child, ⟨status, located, name, member, child, decoded, ?_⟩,
    spells.child ignored.nonempty⟩
  rw [normalizedPath_child (fun empty => left (Utf8.encode_eq_nil.mpr empty)) noSlash]

/-- Git lists this path, also behind a mark in front of its whole output. -/
def Starts (tree : Worktree) (names : List Bytes) : Prop :=
  ∃ path ∈ listedPaths (Utf8.withoutMark tree.listed), pathNames path = names

/-- Nothing that Git lists first, and no name in an ignored directory, begins with a mark. -/
structure Unmarked (tree : Worktree) : Prop where
  first : ¬Utf8.mark <+: tree.listed
  names : ∀ names status, tree.Ignored names → tree.place names = .ok status →
    ∀ name ∈ status.names, ¬Utf8.mark <+: name

/-- Every mark that the decoder takes off is accounted for. `first` and `start` are about a mark
in front of the list: the first path stands there again, or is what a name in an ignored
directory is read as, and what is left of it is ignored. `marked` and `bare` are about a name in
an ignored directory: Git lists it itself, or a neighbour has it behind one more mark, and what
is left of it is ignored. -/
structure Accounted (tree : Worktree) : Prop where
  first : ∀ path ∈ listedPaths tree.listed, tree.Starts (pathNames path) ∨
    ∃ names status name, tree.Ignored names ∧ tree.place names = .ok status ∧
      name ∈ status.names ∧ pathNames path = names ++ [Utf8.withoutMark name]
  start : ∀ path ∈ listedPaths (Utf8.withoutMark tree.listed), tree.Ignored (pathNames path)
  marked : ∀ names status name, tree.Ignored names → tree.place names = .ok status →
    name ∈ status.names → Utf8.mark <+: name →
    tree.Starts (names ++ [name]) ∨ Utf8.mark ++ name ∈ status.names
  bare : ∀ names status rest, tree.Ignored names → tree.place names = .ok status →
    Utf8.mark ++ rest ∈ status.names → rest ≠ [] → tree.Ignored (names ++ [rest])

/-- Where no mark stands in front of the list, its paths are read as they are. -/
theorem Accounted.of_names (free : ¬Utf8.mark <+: tree.listed)
    (marked : ∀ names status name, tree.Ignored names → tree.place names = .ok status →
      name ∈ status.names → Utf8.mark <+: name →
      tree.Starts (names ++ [name]) ∨ Utf8.mark ++ name ∈ status.names)
    (bare : ∀ names status rest, tree.Ignored names → tree.place names = .ok status →
      Utf8.mark ++ rest ∈ status.names → rest ≠ [] → tree.Ignored (names ++ [rest])) :
    tree.Accounted where
  first path member := .inl ⟨path, by rwa [Utf8.withoutMark_free free], rfl⟩
  start path member := by
    rw [Utf8.withoutMark_free free] at member
    exact .listed member
  marked := marked
  bare := bare

theorem Unmarked.accounted (unmarked : tree.Unmarked) : tree.Accounted := by
  refine .of_names unmarked.first ?_ ?_
  · intro names status name ignored found member marked
    exact absurd marked (unmarked.names names status ignored found name member)
  · intro names status rest ignored found member _
    exact absurd (List.prefix_append _ _) (unmarked.names names status ignored found _ member)

/-- The capture goes to the ignored paths, each by its own text. -/
structure Faithful (tree : Worktree) (roots : List String) : Prop where
  sound : ∀ path, tree.Reached (Root roots) path → ∃ names, tree.Ignored names ∧ Spells path names
  complete : ∀ names, tree.Ignored names →
    ∃ path, tree.Reached (Root roots) path ∧ Spells path names

variable {roots : List String}

theorem Root.spells (decoded : decodeGitPaths tree.listed = .ok roots) (root : Root roots path) :
    ∃ listed ∈ listedPaths (Utf8.withoutMark tree.listed), Spells path (pathNames listed) := by
  obtain ⟨root, member, rfl⟩ := root
  refine ⟨Utf8.encode root, decodeGitPaths_ok decoded ▸ List.mem_map_of_mem member, ?_⟩
  rw [Spells, encode_normalizedPath, joinNames_pathNames]

theorem Starts.root (decoded : decodeGitPaths tree.listed = .ok roots)
    (starts : tree.Starts names) : ∃ path, Root roots path ∧ Spells path names := by
  obtain ⟨listed, member, rfl⟩ := starts
  rw [← decodeGitPaths_ok decoded] at member
  obtain ⟨root, inside, rfl⟩ := List.mem_map.mp member
  refine ⟨_, ⟨root, inside, rfl⟩, ?_⟩
  rw [Spells, encode_normalizedPath, joinNames_pathNames]

/-- Where every mark is accounted for the capture is faithful, when the names that it meets are
UTF-8. -/
theorem Accounted.faithful (accounted : tree.Accounted)
    (decoded : decodeGitPaths tree.listed = .ok roots)
    (decodes : ∀ path, tree.Reached (Root roots) path → tree.Decodes path) :
    tree.Faithful roots := by
  constructor
  case sound =>
    rintro path ⟨first, root, steps⟩
    induction steps with
    | refl =>
      obtain ⟨listed, member, spells⟩ := root.spells decoded
      exact ⟨_, accounted.start _ member, spells⟩
    | tail _ leads ih =>
      obtain ⟨names, ignored, spells⟩ := ih
      rcases leads.cases spells ignored with same | ⟨status, name, found, member, left, spells'⟩
      · exact ⟨names, ignored, same ▸ spells⟩
      · refine ⟨_, ?_, spells'⟩
        by_cases marked : Utf8.mark <+: name
        · obtain ⟨rest, rfl⟩ := marked
          rw [Utf8.withoutMark_mark] at left ⊢
          exact accounted.bare names status rest ignored found member left
        · rw [Utf8.withoutMark_free marked]
          exact .entry ignored found member
  case complete =>
    have starts {names : List Bytes} (starts : tree.Starts names) :
        ∃ path, tree.Reached (Root roots) path ∧ Spells path names := by
      obtain ⟨path, root, spells⟩ := starts.root decoded
      exact ⟨path, ⟨path, root, .refl⟩, spells⟩
    -- a name is reached from its directory, whose own path is shorter
    have child {names : List Bytes} {status : FileStatus} {name : Bytes}
        (inside : tree.Ignored names) (found : tree.place names = .ok status)
        (member : name ∈ status.names) (left : Utf8.withoutMark name ≠ [])
        (parent : ∃ path, tree.Reached (Root roots) path ∧ Spells path names) :
        ∃ path, tree.Reached (Root roots) path ∧
          Spells path (names ++ [Utf8.withoutMark name]) := by
      obtain ⟨path, reached, spells⟩ := parent
      obtain ⟨next, leads, spells'⟩ := (decodes path reached).leads spells inside found member left
      exact ⟨next, reached.leads leads, spells'⟩
    intro names ignored
    induction length : names.length using Nat.strongRecOn generalizing names with
    | ind n ih =>
      subst length
      have parent {folder : List Bytes} {name : Bytes} (inside : tree.Ignored folder)
          (whole : names = folder ++ [name]) :
          ∃ path, tree.Reached (Root roots) path ∧ Spells path folder := by
        refine ih folder.length ?_ folder inside rfl
        rw [whole, List.length_append, List.length_singleton]
        exact Nat.lt_succ_self _
      have valid := ignored.valid
      cases ignored with
      | listed member =>
        rcases accounted.first _ member with again | ⟨folder, status, name, inside, found, listed, whole⟩
        · exact starts again
        · have left : Utf8.withoutMark name ≠ [] :=
            (valid _ (whole ▸ List.mem_append_right _ List.mem_cons_self)).nonempty
          exact whole ▸ child inside found listed left (parent inside whole)
      | @entry names status name inside found member =>
        have nonempty := (tree.files.names_valid _ _ found name member).nonempty
        by_cases marked : Utf8.mark <+: name
        · rcases accounted.marked names status name inside found member marked with again | more
          · exact starts again
          · have stripped := Utf8.withoutMark_mark name
            exact stripped ▸ child inside found more (stripped.symm ▸ nonempty) (parent inside rfl)
        · have same := Utf8.withoutMark_free marked
          exact same ▸ child inside found member (same.symm ▸ nonempty) (parent inside rfl)

/-- How a faithful capture came to an ignored path. -/
theorem Faithful.origin (faithful : tree.Faithful roots)
    (decoded : decodeGitPaths tree.listed = .ok roots) (ignored : tree.Ignored names) :
    tree.Starts names ∨ ∃ folder status name, tree.Ignored folder ∧
      tree.place folder = .ok status ∧ name ∈ status.names ∧
      names = folder ++ [Utf8.withoutMark name] := by
  have free {names : List Bytes} (ignored : tree.Ignored names) : ∀ name ∈ names, 47 ∉ name :=
    fun name member => (ignored.valid name member).slash
  obtain ⟨path, ⟨start, root, steps⟩, spells⟩ := faithful.complete names ignored
  induction steps with
  | refl =>
    obtain ⟨listed, member, spells'⟩ := root.spells decoded
    have slashes : ∀ name ∈ pathNames listed, 47 ∉ name := Utf8.not_mem_splitOn
    exact .inl ⟨listed, member,
      spells'.unique spells (List.splitOn_ne_nil _ _) ignored.nonempty slashes (free ignored)⟩
  | tail before leads ih =>
    obtain ⟨folder, inside, spells'⟩ := faithful.sound _ ⟨start, root, before⟩
    rcases leads.cases spells' inside with same | ⟨status, name, found, member, _, spelled⟩
    · exact ih (same ▸ spells)
    · refine .inr ⟨folder, status, name, inside, found, member, ?_⟩
      refine spells.unique spelled ignored.nonempty
        (List.append_ne_nil_of_right_ne_nil _ (List.cons_ne_nil _ _)) (free ignored) ?_
      intro other listed
      rcases List.mem_append.mp listed with early | last
      · exact free inside other early
      · rw [List.mem_singleton.mp last]
        exact withoutMark_free_slash (tree.files.names_valid _ _ found name member)

/-- A faithful capture has every mark accounted for. -/
theorem Faithful.accounted (faithful : tree.Faithful roots)
    (decoded : decodeGitPaths tree.listed = .ok roots)
    (decodes : ∀ path, tree.Reached (Root roots) path → tree.Decodes path) : tree.Accounted where
  first path member := faithful.origin decoded (.listed member)
  start listed member := by
    obtain ⟨path, root, spells⟩ := Starts.root decoded ⟨listed, member, rfl⟩
    obtain ⟨names, ignored, spells'⟩ := faithful.sound path ⟨path, root, .refl⟩
    have same := spells'.unique spells ignored.nonempty (List.splitOn_ne_nil _ _)
      (fun name inside => (ignored.valid name inside).slash) Utf8.not_mem_splitOn
    exact same ▸ ignored
  marked names status name ignored found member marked := by
    rcases faithful.origin decoded (.entry ignored found member) with
      starts | ⟨folder, status', other, inside, found', member', whole⟩
    · exact .inl starts
    · obtain ⟨rfl, last⟩ := List.append_inj' whole rfl
      obtain rfl : name = Utf8.withoutMark other := (List.cons.inj last).1
      rw [found] at found'
      obtain rfl := Except.ok.inj found'
      refine .inr ?_
      by_cases more : Utf8.mark <+: other
      · obtain ⟨rest, rfl⟩ := more
        rwa [Utf8.withoutMark_mark]
      · rw [Utf8.withoutMark_free more] at marked
        exact absurd marked more
  bare names status rest ignored found member left := by
    obtain ⟨path, reached, spells⟩ := faithful.complete names ignored
    have stripped := Utf8.withoutMark_mark rest
    obtain ⟨next, leads, spelled⟩ :=
      (decodes path reached).leads spells ignored found member (stripped.symm ▸ left)
    rw [stripped] at spelled
    obtain ⟨others, ignored', spells'⟩ := faithful.sound next (reached.leads leads)
    have same := spells'.unique spelled ignored'.nonempty
      (List.append_ne_nil_of_right_ne_nil _ (List.cons_ne_nil _ _))
      (fun name inside => (ignored'.valid name inside).slash) ?_
    · exact same ▸ ignored'
    · intro other listed
      rcases List.mem_append.mp listed with early | last
      · exact (ignored.valid other early).slash
      · rw [List.mem_singleton.mp last, ← stripped]
        exact withoutMark_free_slash (tree.files.names_valid _ _ found _ member)

end
end Worktree
end Anastom
