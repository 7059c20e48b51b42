import Anastom.Core.NormalizedWorkflow
import Anastom.Engine.EventValidation
import Anastom.Persistence.Artifacts

/-! Which identities every module accepts: the authored node names, the artifact
store, and the events that carry node ids and artifact references. -/
namespace Anastom

namespace Text

theorem identifierTail_pathTail (c : Char) : pathTail c = (identifierTail c && c != '.') := by
  have dot : pathTail '.' = false := by decide
  by_cases same : c = '.'
  · subst same
    simp [dot]
  · have other : (c == '.') = false := by simpa using same
    simp [pathTail, identifierTail, bne, other]

/-- Path names are the node names without a dot. -/
theorem pathName_iff {s : String} : pathName s = true ↔ nodeName s = true ∧ '.' ∉ s.toList := by
  unfold pathName nodeName
  cases s.toList with
  | nil => simp
  | cons head tail =>
    have headDot : identifierHead head = true → head ≠ '.' := by
      rintro holds rfl
      exact absurd holds (by decide)
    simp only [Bool.and_eq_true, List.all_eq_true, identifierTail_pathTail, bne_iff_ne,
      List.mem_cons, not_or]
    constructor
    · rintro ⟨first, rest⟩
      refine ⟨⟨first, fun c member => (rest c member).1⟩, (headDot first).symm, ?_⟩
      intro member
      exact (rest '.' member).2 rfl
    · rintro ⟨⟨first, rest⟩, _, absent⟩
      refine ⟨first, fun c member => ⟨rest c member, ?_⟩⟩
      rintro rfl
      exact absent member

theorem pathName_chars {s : String} (valid : pathName s = true) :
    ∀ c ∈ s.toList, pathTail c = true := by
  unfold pathName at valid
  cases chars : s.toList with
  | nil => simp
  | cons head tail =>
    simp only [chars, Bool.and_eq_true, List.all_eq_true] at valid
    intro c member
    rcases List.mem_cons.mp member with rfl | later
    · have alphanumeric : c.isAlphanum = true := valid.1
      simp [pathTail, alphanumeric]
    · exact valid.2 c later

theorem pathName_append {s t : String} (valid : pathName s = true)
    (more : ∀ c ∈ t.toList, pathTail c = true) : pathName (s ++ t) = true := by
  unfold pathName at valid ⊢
  rw [String.toList_append]
  cases chars : s.toList with
  | nil => simp [chars] at valid
  | cons head tail =>
    simp only [chars, Bool.and_eq_true, List.all_eq_true] at valid
    simp only [List.cons_append, Bool.and_eq_true, List.all_eq_true]
    refine ⟨valid.1, fun c member => ?_⟩
    rcases List.mem_append.mp member with here | later
    · exact valid.2 c here
    · exact more c later

theorem pathTail_ascii {c : Char} (valid : pathTail c = true) : c.val ≤ 127 := by
  delta pathTail Char.isAlphanum Char.isAlpha Char.isUpper Char.isLower Char.isDigit at valid
  simp only [Bool.or_eq_true, Bool.and_eq_true, decide_eq_true_eq, beq_iff_eq] at valid
  rcases valid with ((((upper | lower) | digit) | rfl) | rfl)
  · exact Nat.le_trans upper.2 (by decide)
  · exact Nat.le_trans lower.2 (by decide)
  · exact Nat.le_trans digit.2 (by decide)
  · decide
  · decide

theorem pathName_ne {s : String} (valid : pathName s = true) {other : String}
    (differs : pathName other = false) : s ≠ other := by
  rintro rfl
  rw [valid] at differs
  cases differs

/-- A path name is one component of a path. -/
theorem pathName_plain {s : String} (valid : pathName s = true) : PosixPath.Plain s where
  nonempty := pathName_ne valid (by decide)
  current := pathName_ne valid (by decide)
  parent := pathName_ne valid (by decide)
  slash member := by
    have accepted := pathName_chars valid '/' member
    exact absurd accepted (by decide)

theorem pathName_validSegment {s : String} (valid : pathName s = true) :
    FileArtifactStore.validSegment s = true := by
  have plain := pathName_plain valid
  simp only [FileArtifactStore.validSegment, Bool.and_eq_true, bne_iff_ne, List.all_eq_true]
  refine ⟨⟨⟨plain.nonempty, plain.current⟩, plain.parent⟩, fun c member => ?_⟩
  have accepted := pathName_chars valid c member
  refine ⟨⟨?_, ?_⟩, ?_⟩ <;> rintro rfl <;> exact absurd accepted (by decide)

theorem identifier_iff {s : String} : identifier s = true ↔
    nodeName s = true ∧ s.toList.length ≤ 128 := by
  simp [identifier]

theorem pathIdentity_iff {s : String} : pathIdentity s = true ↔
    pathName s = true ∧ s.toList.length ≤ 128 := by
  simp [pathIdentity]

theorem digest_hex {s : String} (valid : digest s = true) :
    (s.toList.drop 7).length = 64 ∧ ∀ c ∈ s.toList.drop 7, hexLower c = true := by
  simp only [digest, Bool.and_eq_true, beq_iff_eq, List.all_eq_true] at valid
  exact ⟨valid.1.2, valid.2⟩

theorem hexLower_pathTail {c : Char} (valid : hexLower c = true) : pathTail c = true := by
  simp only [hexLower, Bool.or_eq_true, Bool.and_eq_true, decide_eq_true_eq] at valid
  rcases valid with digit | letter
  · simp [pathTail, Char.isAlphanum, digit]
  · have lower : c.isLower = true := by
      delta Char.isLower
      simp only [Bool.and_eq_true, decide_eq_true_eq]
      exact ⟨letter.1, Nat.le_trans letter.2 (by decide)⟩
    have letter : c.isAlpha = true := by
      delta Char.isAlpha
      rw [lower, Bool.or_true]
    simp [pathTail, Char.isAlphanum, letter]

end Text

namespace FileArtifactStore
variable {hash : ByteHash} {stateRoot cwd : List String}

theorem digestHex_toList (bytes : List UInt8) :
    (digestHex (hash.digestBytes bytes)).toList = (hash.digestBytes bytes).toList.drop 7 := by
  simp [digestHex]

theorem artifactId_eq (artifact : ArtifactWrite) : artifactId hash artifact =
    artifact.nodeId ++ ("-" ++ (toString artifact.attempt ++ ("-" ++ (artifact.type ++ ("-" ++
      digestHex (hash.digestBytes artifact.bytes)))))) := by
  simp [artifactId, String.append_assoc]

/-- The number of decimal digits of an attempt. -/
def attemptDigits (attempt : Nat) : Nat := (Nat.toDigits 10 attempt).length

theorem attemptDigits_toString (attempt : Nat) :
    (toString attempt).toList.length = attemptDigits attempt := by
  rw [Nat.toString_eq_ofList_toDigits, String.toList_ofList, attemptDigits]

theorem artifactId_length (artifact : ArtifactWrite) :
    (artifactId hash artifact).toList.length = artifact.nodeId.toList.length +
      attemptDigits artifact.attempt + artifact.type.toList.length + 67 := by
  have hex := (Text.digest_hex (hash.wellFormed artifact.bytes)).1
  have dash : "-".toList.length = 1 := by decide
  rw [artifactId_eq]
  simp only [String.toList_append, List.length_append, dash, attemptDigits_toString,
    digestHex_toList, hex]
  omega

/-- Every name an artifact gets is a path name once its node and type are. -/
theorem artifactId_pathName {artifact : ArtifactWrite} (node : Text.pathName artifact.nodeId = true)
    (type : Text.pathName artifact.type = true) :
    Text.pathName (artifactId hash artifact) = true := by
  have hex := (Text.digest_hex (hash.wellFormed artifact.bytes)).2
  rw [artifactId_eq]
  refine Text.pathName_append node ?_
  have dash : ∀ c ∈ "-".toList, Text.pathTail c = true := by
    intro c member
    rw [List.mem_singleton.mp member]
    decide
  intro c member
  simp only [String.toList_append, List.mem_append, digestHex_toList,
    Nat.toString_eq_ofList_toDigits, String.toList_ofList] at member
  rcases member with first | digit | second | named | third | digest
  · exact dash c first
  · have decimal := Nat.isDigit_of_mem_toDigits (by decide) (by decide) digit
    simp [Text.pathTail, Char.isAlphanum, decimal]
  · exact dash c second
  · exact Text.pathName_chars type c named
  · exact dash c third
  · exact Text.hexLower_pathTail (hex c digest)

/-- The reference that a write returns. -/
def artifactRef (hash : ByteHash) (stateRoot : List String) (artifact : ArtifactWrite) :
    ArtifactRef :=
  { id := artifactId hash artifact, type := artifact.type, mediaType := artifact.mediaType,
    uri := PosixPath.render (stateRoot ++ segments artifact.runId (artifactId hash artifact)),
    digest := hash.digestBytes artifact.bytes,
    producer := { runId := artifact.runId, nodeId := artifact.nodeId,
                  attempt := artifact.attempt } }

/-- What the store checks of an artifact before it looks at the files. -/
structure Accepted (hash : ByteHash) (artifact : ArtifactWrite) : Prop where
  attempt : positive artifact.attempt = true
  run : Text.pathIdentity artifact.runId = true
  node : Text.pathIdentity artifact.nodeId = true
  type : Text.pathIdentity artifact.type = true
  size : artifact.bytes.length < maxSafeInteger
  name : (artifactId hash artifact).utf8ByteSize ≤ 255

namespace Accepted
variable {artifact : ArtifactWrite}

theorem id_pathName (accepted : Accepted hash artifact) :
    Text.pathName (artifactId hash artifact) = true :=
  artifactId_pathName (Text.pathIdentity_iff.mp accepted.node).1
    (Text.pathIdentity_iff.mp accepted.type).1

theorem segments_valid (accepted : Accepted hash artifact) :
    (segments artifact.runId (artifactId hash artifact)).all validSegment = true := by
  have run := Text.pathName_validSegment (Text.pathIdentity_iff.mp accepted.run).1
  have id := Text.pathName_validSegment accepted.id_pathName
  have runs : validSegment "runs" = true := by decide
  have artifacts : validSegment "artifacts" = true := by decide
  simp [segments, run, id, runs, artifacts]

end Accepted

theorem write_ok {artifact : ArtifactWrite} {files next : ArtifactFiles} {ref : ArtifactRef}
    (completed : write hash stateRoot artifact files = (.ok ref, next)) :
    Accepted hash artifact ∧ ref = artifactRef hash stateRoot artifact ∧
      ((Keyed.find files (artifact.runId, ref.id) = none ∧
          next = files ++ [⟨artifact.runId, ref.id, artifact.bytes⟩]) ∨
        ∃ existing, Keyed.find files (artifact.runId, ref.id) = some existing ∧
          existing.bytes = artifact.bytes ∧ next = files) := by
  simp only [write, writeFileExclusive, Action.bind_bind, Action.lift_bind_ok, Action.get_bind,
    require_ok, List.all_cons, List.all_nil, Bool.and_true, Bool.and_eq_true,
    decide_eq_true_eq] at completed
  obtain ⟨_, attempt, _, ⟨run, node, type⟩, _, size, _, _, _, name, completed⟩ := completed
  have accepted : Accepted hash artifact := ⟨attempt, run, node, type, size, name⟩
  cases known : Keyed.find files (artifact.runId, artifactId hash artifact) with
  | none =>
    simp only [known, Action.modify_bind] at completed
    cases completed
    exact ⟨accepted, rfl, .inl ⟨known, rfl⟩⟩
  | some existing =>
    simp only [known, Action.bind_bind, Action.lift_bind_ok, require_ok, beq_iff_eq] at completed
    obtain ⟨_, _, _, same, completed⟩ := completed
    cases completed
    exact ⟨accepted, rfl, .inr ⟨existing, known, same, rfl⟩⟩

theorem writeFileExclusive_atomic (runId id : String) (bytes : List UInt8) :
    Action.Atomic (writeFileExclusive runId id bytes) := by
  refine Action.atomic_lift_bind fun _ => Action.atomic_lift_bind fun _ =>
    Action.atomic_lift_bind fun _ => Action.atomic_get_bind fun files => ?_
  cases Keyed.find files (runId, id) with
  | none =>
    intro _ _ _ thrown
    cases thrown
  | some existing =>
    refine Action.atomic_lift_bind fun _ => ?_
    intro _ _ _ thrown
    exact (congrArg Prod.snd thrown).symm

theorem write_atomic (artifact : ArtifactWrite) :
    Action.Atomic (write hash stateRoot artifact) := by
  refine Action.atomic_lift_bind fun _ => Action.atomic_lift_bind fun _ => ?_
  intro files failure next thrown
  have atomic := writeFileExclusive_atomic artifact.runId (artifactId hash artifact) artifact.bytes
  cases published : writeFileExclusive artifact.runId (artifactId hash artifact) artifact.bytes files
    with
  | mk result later =>
  cases result with
  | error failure' =>
    have unchanged := atomic files failure' later published
    simp only [Bind.bind, published] at thrown
    cases thrown
    exact unchanged
  | ok value =>
    simp only [Bind.bind, published] at thrown
    cases thrown

/-- A write leaves the files, or adds the one it names. -/
theorem write_files (hash : ByteHash) (stateRoot : List String) (artifact : ArtifactWrite)
    (files : ArtifactFiles) :
    (write hash stateRoot artifact files).2 = files ∨
      (write hash stateRoot artifact files).2 =
        files ++ [⟨artifact.runId, artifactId hash artifact, artifact.bytes⟩] := by
  cases outcome : write hash stateRoot artifact files with
  | mk result next =>
  cases result with
  | error failure => exact .inl (write_atomic artifact files failure next outcome)
  | ok ref =>
    obtain ⟨_, rfl, ⟨_, added⟩ | ⟨_, _, _, same⟩⟩ := write_ok outcome
    · exact .inr added
    · exact .inl same

theorem written_find (writes : List ArtifactWrite) {files : ArtifactFiles}
    {key : String × String} {file : ArtifactFile} (found : Keyed.find files key = some file) :
    Keyed.find (written hash stateRoot files writes) key = some file := by
  induction writes generalizing files with
  | nil => exact found
  | cons artifact rest ih =>
    have kept : Keyed.find (write hash stateRoot artifact files).2 key = some file := by
      rcases write_files hash stateRoot artifact files with same | added
      · rw [same, found]
      · rw [added, Keyed.find_append, found]
        rfl
    exact ih kept

/-- Every file has the bytes of one of the writes, under a name that ends in their digest. -/
theorem written_named (writes : List ArtifactWrite) {files : ArtifactFiles} :
    ∀ file ∈ written hash stateRoot files writes, file ∈ files ∨
      (∃ artifact ∈ writes, artifact.bytes = file.bytes) ∧
        ∃ before, file.id = before ++ digestHex (hash.digestBytes file.bytes) := by
  induction writes generalizing files with
  | nil => exact fun file member => .inl member
  | cons artifact rest ih =>
    intro file member
    have step : written hash stateRoot files (artifact :: rest) =
      written hash stateRoot (write hash stateRoot artifact files).2 rest := rfl
    rw [step] at member
    rcases ih file member with here | ⟨⟨later, among, same⟩, name⟩
    · rcases write_files hash stateRoot artifact files with kept | added
      · exact .inl (kept ▸ here)
      · rw [added] at here
        rcases List.mem_append.mp here with earlier | last
        · exact .inl earlier
        · rw [List.mem_singleton.mp last]
          exact .inr ⟨⟨artifact, List.mem_cons_self, rfl⟩, _, rfl⟩
    · exact .inr ⟨⟨later, List.mem_cons_of_mem _ among, same⟩, name⟩

theorem digest_ext {left right : String} (first : Text.digest left = true)
    (second : Text.digest right = true) (hex : digestHex left = digestHex right) :
    left = right := by
  simp only [Text.digest, Bool.and_eq_true, beq_iff_eq] at first second
  have tails : left.toList.drop 7 = right.toList.drop 7 := String.ofList_inj.mp hex
  rw [← String.toList_inj, ← List.take_append_drop 7 left.toList,
    ← List.take_append_drop 7 right.toList, first.1.1, second.1.1, tails]

/-- Two names that end in digests of the same length share the digest. -/
theorem named_digest {before : String} {artifact : ArtifactWrite} {bytes : List UInt8}
    (same : before ++ digestHex (hash.digestBytes bytes) = artifactId hash artifact) :
    hash.digestBytes bytes = hash.digestBytes artifact.bytes := by
  have texts := congrArg String.toList same
  have whole : (artifactId hash artifact).toList = (artifact.nodeId ++ "-" ++
      toString artifact.attempt ++ "-" ++ artifact.type ++ "-").toList ++
        (digestHex (hash.digestBytes artifact.bytes)).toList := by
    rw [artifactId, String.toList_append]
  rw [whole, String.toList_append] at texts
  have left := (Text.digest_hex (hash.wellFormed bytes)).1
  have right := (Text.digest_hex (hash.wellFormed artifact.bytes)).1
  rw [← digestHex_toList] at left right
  have tails := (List.append_inj' texts (left.trans right.symm)).2
  exact digest_ext (hash.wellFormed _) (hash.wellFormed _) (String.toList_inj.mp tails)

/-- Identical content is accepted where the name already exists. -/
theorem write_accepted (stateRoot : List String) {artifact : ArtifactWrite} {files : ArtifactFiles}
    (accepted : Accepted hash artifact)
    (identical : ∀ existing, Keyed.find files (artifact.runId, artifactId hash artifact) =
      some existing → existing.bytes = artifact.bytes) :
    ∃ next, write hash stateRoot artifact files =
        (.ok (artifactRef hash stateRoot artifact), next) ∧
      ∃ file, Keyed.find next (artifact.runId, artifactId hash artifact) = some file ∧
        file.bytes = artifact.bytes := by
  have segmented := accepted.segments_valid
  have identities : [artifact.runId, artifact.nodeId, artifact.type].all Text.pathIdentity =
      true := by
    simp [accepted.run, accepted.node, accepted.type]
  simp only [write, writeFileExclusive, Action.bind_bind, Action.lift_bind, Action.get_bind,
    require, accepted.attempt, identities, segmented, accepted.size, accepted.name, decide_true,
    if_true]
  cases known : Keyed.find files (artifact.runId, artifactId hash artifact) with
  | none =>
    refine ⟨_, rfl, ⟨artifact.runId, artifactId hash artifact, artifact.bytes⟩, ?_, rfl⟩
    rw [Keyed.find_append, known]
    simp [Keyed.find, Keyed.key]
  | some existing =>
    have same := identical existing known
    simp only [Action.bind_bind, Action.lift_bind, same, Nat.le_refl, decide_true, beq_self_eq_true,
      if_true]
    exact ⟨_, rfl, existing, known, same⟩

/-- A reference reads back the bytes of its file. -/
theorem read_ok {artifact : ArtifactWrite} {files : ArtifactFiles} {file : ArtifactFile}
    (accepted : Accepted hash artifact) (root : ∀ name ∈ stateRoot, PosixPath.Plain name)
    (found : Keyed.find files (artifact.runId, artifactId hash artifact) = some file)
    (same : file.bytes = artifact.bytes) :
    read hash stateRoot cwd (artifactRef hash stateRoot artifact) files =
      (.ok artifact.bytes, files) := by
  have runPlain := Text.pathName_plain (Text.pathIdentity_iff.mp accepted.run).1
  have idPlain := Text.pathName_plain accepted.id_pathName
  have runsPlain : PosixPath.Plain "runs" := Text.pathName_plain (by decide)
  have artifactsPlain : PosixPath.Plain "artifacts" := Text.pathName_plain (by decide)
  have directory : ["runs", artifact.runId, "artifacts"].foldl PosixPath.resolve stateRoot =
      stateRoot ++ ["runs", artifact.runId, "artifacts"] := by
    simp only [List.foldl_cons, List.foldl_nil, PosixPath.resolve_name runsPlain,
      PosixPath.resolve_name runPlain, PosixPath.resolve_name artifactsPlain, List.append_assoc,
      List.cons_append, List.nil_append]
  have file_path : PosixPath.resolve (stateRoot ++ ["runs", artifact.runId, "artifacts"])
      (artifactId hash artifact) = stateRoot ++ segments artifact.runId (artifactId hash artifact) := by
    rw [PosixPath.resolve_name idPlain, List.append_assoc]
    rfl
  have uri : PosixPath.resolve cwd (artifactRef hash stateRoot artifact).uri =
      stateRoot ++ segments artifact.runId (artifactId hash artifact) := by
    refine PosixPath.resolve_render ?_ cwd
    intro name member
    rcases List.mem_append.mp member with above | below
    · exact root name above
    · simp only [segments, List.mem_cons, List.not_mem_nil, or_false] at below
      rcases below with rfl | rfl | rfl | rfl
      · exact runsPlain
      · exact runPlain
      · exact artifactsPlain
      · exact idPlain
  have confined : (stateRoot.isPrefixOf (stateRoot ++ ["runs", artifact.runId, "artifacts"]) &&
      decide (stateRoot ++ ["runs", artifact.runId, "artifacts"] ≠ stateRoot)) = true := by
    simp
  have identities : (Text.pathIdentity artifact.runId &&
      Text.pathName (artifactId hash artifact)) = true := by
    rw [accepted.run, accepted.id_pathName, Bool.and_true]
  have runId : (artifactRef hash stateRoot artifact).producer.runId = artifact.runId := rfl
  have id : (artifactRef hash stateRoot artifact).id = artifactId hash artifact := rfl
  have digest : (artifactRef hash stateRoot artifact).digest = hash.digestBytes artifact.bytes := rfl
  simp only [read, Action.lift_bind, Action.get_bind, require, identities, if_true, runId, id,
    directory, confined, file_path, uri, beq_self_eq_true, found, requireSome, digest, same]
  rfl

end FileArtifactStore

/-- The artifact types of the engine and the coordinator. -/
def artifactTypes : List String :=
  ["context", "diff", "logs", "worker-report", "stdout", "stderr", "command-result"]

/-- `{ ...checkpoint, diffArtifactId: artifact.id }` -/
def WorkspaceCheckpoint.withDiff (checkpoint : WorkspaceCheckpoint) (artifact : ArtifactRef) :
    WorkspaceCheckpoint :=
  { checkpoint with diffArtifactId := some artifact.id }

/-- The payloads in which the coordinator puts the node id of an artifact, and those
that carry its reference; only a diff is named by a checkpoint. What else they hold
is valid on its own. -/
inductive Carries (artifact : ArtifactWrite) (ref : ArtifactRef) : RunEventPayload → Prop where
  | produced : Carries artifact ref
      (.artifactProduced artifact.nodeId artifact.attempt ref)
  | prepared {execution : ExecutionPlanRef} {checkpoint : WorkspaceCheckpoint} :
      artifact.type = "diff" → execution.valid = true → checkpoint.valid = true →
      Carries artifact ref
        (.attemptPrepared artifact.nodeId artifact.attempt execution (checkpoint.withDiff ref))
  | orphaned {record : OrphanRecord} : artifact.type = "diff" →
      EventValidation.orphanRecord record = true →
      Carries artifact ref (.attemptOrphaned artifact.nodeId artifact.attempt
        { record with workspaceObservation := record.workspaceObservation.withDiff ref })
  | observed {headCommit : String} {changedFiles : List String} : artifact.type = "diff" →
      Carries artifact ref
        (.workspaceObserved artifact.nodeId artifact.attempt headCommit changedFiles ref.id)
  | nodePaused : Carries artifact ref
      (.nodePaused artifact.nodeId (some (.attemptBudgetExhausted artifact.nodeId artifact.attempt)))
  | runPaused : Carries artifact ref
      (.runPaused (some (.attemptBudgetExhausted artifact.nodeId artifact.attempt)))

/-- The store accepts the artifact and gives its bytes back whatever is written later, and
every event that carries its identity is valid. -/
def IdentityAgrees (hash : ByteHash) (stateRoot cwd : List String) (files : ArtifactFiles)
    (artifact : ArtifactWrite) : Prop :=
  ∃ ref next, FileArtifactStore.write hash stateRoot artifact files = (.ok ref, next) ∧
    (∀ later, (FileArtifactStore.read hash stateRoot cwd ref
      (FileArtifactStore.written hash stateRoot next later)).1 = .ok artifact.bytes) ∧
    ∀ event : RunEvent, positive event.sequence = true → Carries artifact ref event.payload →
      assertRunEvent event = .ok ()

/-- No dot, at most 128 characters, and for a diff room for the rest of its file's name. -/
def IdentityFits (artifact : ArtifactWrite) : Prop :=
  '.' ∉ artifact.nodeId.toList ∧ artifact.nodeId.toList.length ≤ 128 ∧
    (artifact.type = "diff" → artifact.nodeId.toList.length +
      FileArtifactStore.attemptDigits artifact.attempt ≤ 57)

instance (artifact : ArtifactWrite) : Decidable (IdentityFits artifact) := by
  unfold IdentityFits
  exact inferInstance

theorem artifactTypes_named : ∀ type ∈ artifactTypes,
    Text.pathIdentity type = true ∧ type.toList.length ≤ 14 := by decide

theorem attemptDigits_le {attempt : Nat} (valid : positive attempt = true) :
    FileArtifactStore.attemptDigits attempt ≤ 16 := by
  rw [FileArtifactStore.attemptDigits, Nat.length_toDigits_le_iff (by decide) (by decide)]
  obtain ⟨_, bound⟩ := positive_iff.mp valid
  exact Nat.lt_of_le_of_lt bound (by decide)

theorem authored_nodeName {reader : DocumentReader} {source path nodeId : String}
    {files : SchemaFiles} {ajv : Ajv} {document : WorkflowDocument} {workflow : WorkflowDefinition}
    (parsed : parseWorkflowYaml reader source = .ok document)
    (normalized : normalizeWorkflow files ajv document path = .ok workflow)
    (node : nodeId ∈ workflow.nodeOrder) : Text.nodeName nodeId = true := by
  have valid := (parseWorkflowYaml_valid parsed).schema
  unfold normalizeWorkflow at normalized
  obtain ⟨fallback, _, rest⟩ := bind_ok.mp normalized
  obtain ⟨inputs, _, rest⟩ := bind_ok.mp rest
  obtain ⟨nodes, _, same⟩ := bind_ok.mp rest
  obtain rfl := Except.ok.inj same
  obtain ⟨entry, member, rfl⟩ := List.mem_map.mp node
  simp only [WorkflowDocument.validateWorkflowDocument, Bool.and_eq_true, List.all_eq_true] at valid
  have here := valid.2 entry member
  simp only [WorkflowDocument.validNode, Bool.and_eq_true] at here
  exact here.1.1.1.1.1

section Identity
variable {hash : ByteHash} {stateRoot cwd : List String} {artifact : ArtifactWrite}

theorem IdentityFits.accepted (hash : ByteHash) (fits : IdentityFits artifact)
    (node : Text.nodeName artifact.nodeId = true) (attempt : positive artifact.attempt = true)
    (type : artifact.type ∈ artifactTypes) (run : assertRunId artifact.runId = .ok ())
    (size : artifact.bytes.length < maxSafeInteger) :
    FileArtifactStore.Accepted hash artifact := by
  obtain ⟨dotless, short, _⟩ := fits
  obtain ⟨typeValid, typeShort⟩ := artifactTypes_named _ type
  have nodePath : Text.pathName artifact.nodeId = true := Text.pathName_iff.mpr ⟨node, dotless⟩
  have typePath := (Text.pathIdentity_iff.mp typeValid).1
  refine ⟨attempt, require_ok.mp run, Text.pathIdentity_iff.mpr ⟨nodePath, short⟩, typeValid,
    size, ?_⟩
  have ascii : ∀ c ∈ (FileArtifactStore.artifactId hash artifact).toList, c.val ≤ 127 :=
    fun c member => Text.pathTail_ascii (Text.pathName_chars
      (FileArtifactStore.artifactId_pathName nodePath typePath) c member)
  rw [ByteSize.size_ascii ascii, FileArtifactStore.artifactId_length]
  have digits := attemptDigits_le attempt
  omega

theorem withDiff_valid {checkpoint : WorkspaceCheckpoint} {ref : ArtifactRef}
    (valid : checkpoint.valid = true) :
    (checkpoint.withDiff ref).valid = true ↔ Text.identifier ref.id = true := by
  simp only [WorkspaceCheckpoint.valid, WorkspaceCheckpoint.withDiff, Bool.and_eq_true,
    Option.all_some] at valid ⊢
  exact ⟨fun both => both.2, fun named => ⟨valid.1, named⟩⟩

/-- A diff's name is an identifier exactly when it leaves room for its digest. -/
theorem diff_identifier (hash : ByteHash) (node : Text.pathName artifact.nodeId = true)
    (type : artifact.type = "diff") :
    Text.identifier (FileArtifactStore.artifactId hash artifact) = true ↔
      artifact.nodeId.toList.length + FileArtifactStore.attemptDigits artifact.attempt ≤ 57 := by
  have named : Text.pathName artifact.type = true := by
    rw [type]
    decide
  have name : Text.nodeName (FileArtifactStore.artifactId hash artifact) = true :=
    (Text.pathName_iff.mp (FileArtifactStore.artifactId_pathName node named)).1
  have short : artifact.type.toList.length = 4 := by
    rw [type]
    decide
  rw [Text.identifier_iff, FileArtifactStore.artifactId_length, short]
  constructor
  · rintro ⟨_, bound⟩
    omega
  · intro bound
    exact ⟨name, by omega⟩

theorem Carries.valid {payload : RunEventPayload}
    (carries : Carries artifact (FileArtifactStore.artifactRef hash stateRoot artifact) payload)
    (fits : IdentityFits artifact) (node : Text.nodeName artifact.nodeId = true)
    (attempt : positive artifact.attempt = true) : EventValidation.payload payload = true := by
  have dotless : Text.pathName artifact.nodeId = true := Text.pathName_iff.mpr ⟨node, fits.1⟩
  have named : Text.identifier artifact.nodeId = true := Text.identifier_iff.mpr ⟨node, fits.2.1⟩
  have digested := hash.wellFormed artifact.bytes
  cases carries with
  | produced =>
    simp [EventValidation.payload, ArtifactRef.valid, FileArtifactStore.artifactRef, digested,
      attempt]
  | prepared type execution checkpoint =>
    have diff := (diff_identifier hash dotless type).mpr (fits.2.2 type)
    simp only [EventValidation.payload, Bool.and_eq_true]
    exact ⟨⟨attempt, execution⟩, (withDiff_valid checkpoint).mpr diff⟩
  | orphaned type record =>
    have diff := (diff_identifier hash dotless type).mpr (fits.2.2 type)
    simp only [EventValidation.payload, EventValidation.orphanRecord, Bool.and_eq_true] at record ⊢
    obtain ⟨⟨⟨execution, observation⟩, differences⟩, terminal⟩ := record
    exact ⟨attempt, ⟨⟨execution, (withDiff_valid observation).mpr diff⟩, differences⟩, terminal⟩
  | observed => simp [EventValidation.payload, attempt]
  | nodePaused | runPaused =>
    simp [EventValidation.payload, EventValidation.pauseReason, named, attempt]

/-- A checkpoint and a plan as the coordinator makes them, under some digest. -/
def capturedCheckpoint (digest : String) : WorkspaceCheckpoint :=
  { workspaceId := "r", baseCommit := "", headCommit := "", diffDigest := digest
    changedFiles := [], ignoredDigest := digest, ignoredEntryCount := 0, ignoredByteCount := 0
    ownership := { repositoryRoot := "", repositoryCommonDirectory := "", workspacePath := "",
                   workspaceGitDirectory := "", branch := "", manifestDigest := digest,
                   registrationDigest := digest }
    diffArtifactId := none }

def plannedExecution (digest : String) : ExecutionPlanRef :=
  { runId := "r", executionId := "e", kind := .command, generation := 1, planDigest := digest }

theorem capturedCheckpoint_valid (hash : ByteHash) :
    (capturedCheckpoint (hash.digestBytes [])).valid = true := by
  have digested := hash.wellFormed []
  have workspace : Text.identifier "r" = true := by decide
  have none : nonnegative 0 = true := by decide
  simp [WorkspaceCheckpoint.valid, capturedCheckpoint, digested, workspace, none]

theorem plannedExecution_valid (hash : ByteHash) :
    (plannedExecution (hash.digestBytes [])).valid = true := by
  have digested := hash.wellFormed []
  have run : Text.identifier "r" = true := by decide
  have execution : Text.identifier "e" = true := by decide
  have one : positive 1 = true := by decide
  simp [ExecutionPlanRef.valid, plannedExecution, digested, run, execution, one]

/-- Identifiers agree across the schema, the artifact store and the events exactly for
the node ids that fit. -/
theorem identityAgrees_iff {reader : DocumentReader} {source path : String} {files : SchemaFiles}
    {ajv : Ajv} {document : WorkflowDocument} {workflow : WorkflowDefinition}
    {earlier : List ArtifactWrite} (parsed : parseWorkflowYaml reader source = .ok document)
    (normalized : normalizeWorkflow files ajv document path = .ok workflow)
    (node : artifact.nodeId ∈ workflow.nodeOrder) (attempt : positive artifact.attempt = true)
    (type : artifact.type ∈ artifactTypes) (run : assertRunId artifact.runId = .ok ())
    (size : artifact.bytes.length < maxSafeInteger)
    (root : ∀ name ∈ stateRoot, PosixPath.Plain name)
    (separates : ∀ other ∈ earlier,
      hash.digestBytes other.bytes = hash.digestBytes artifact.bytes →
        other.bytes = artifact.bytes) :
    IdentityAgrees hash stateRoot cwd (FileArtifactStore.written hash stateRoot [] earlier)
      artifact ↔ IdentityFits artifact := by
  have named : Text.nodeName artifact.nodeId = true :=
    authored_nodeName parsed normalized node
  constructor
  · rintro ⟨ref, next, written, _, events⟩
    obtain ⟨accepted, rfl, _⟩ := FileArtifactStore.write_ok written
    obtain ⟨path, short⟩ := Text.pathIdentity_iff.mp accepted.node
    refine ⟨(Text.pathName_iff.mp path).2, short, fun diff => ?_⟩
    -- The checkpoint of some attempt carries the diff, and its event is accepted.
    have checkpoint := capturedCheckpoint_valid hash
    have first : positive 1 = true := by decide
    have prepared := events ⟨_, "r", 1⟩ first
      (.prepared diff (plannedExecution_valid hash) checkpoint)
    have payload := (Bool.and_eq_true_iff.mp (require_ok.mp prepared)).2
    simp only [EventValidation.payload, Bool.and_eq_true] at payload
    have named := (withDiff_valid checkpoint).mp payload.2
    exact (diff_identifier hash path diff).mp named
  · intro fits
    have accepted := fits.accepted hash named attempt type run size
    have identical : ∀ existing,
        Keyed.find (FileArtifactStore.written hash stateRoot [] earlier)
          (artifact.runId, FileArtifactStore.artifactId hash artifact) = some existing →
        existing.bytes = artifact.bytes := by
      intro existing present
      have key : existing.id = FileArtifactStore.artifactId hash artifact :=
        (Prod.mk.inj (Keyed.find_key present)).2
      rcases FileArtifactStore.written_named earlier existing (Keyed.find_mem present) with none |
        ⟨⟨other, among, bytes⟩, before, name⟩
      · cases none
      · rw [← bytes]
        refine separates other among ?_
        rw [bytes]
        exact FileArtifactStore.named_digest (name.symm.trans key)
    obtain ⟨next, written, file, found, same⟩ :=
      FileArtifactStore.write_accepted stateRoot accepted identical
    refine ⟨_, next, written, ?_, ?_⟩
    · intro later
      exact congrArg Prod.fst (FileArtifactStore.read_ok accepted root
        (FileArtifactStore.written_find later found) same)
    · intro event sequence carries
      refine require_ok.mpr ?_
      rw [validRunEvent, sequence, carries.valid fits named attempt, Bool.and_true]

end Identity

/-- A workflow of one gate. -/
def oneGate (nodeId : String) : WorkflowDocument :=
  { metadata := { id := "w", version := "1.0.0" }, inputs := [], defaultAttemptBudget := none
    nodes := [(nodeId, {
      kind := .gate, needs := none, role := none, output := "o", mutation := none
      command := none, attemptPolicy := none })] }

def oneGateReader (nodeId : String) : DocumentReader := ⟨fun _ => .ok (oneGate nodeId), fun _ => []⟩

def nullSchemas : SchemaFiles := ⟨fun _ => "/w", fun _ ref => ref, fun _ => .ok .null, fun _ => ""⟩

def acceptingSchema : Ajv := { compiles := fun _ => true, errors := fun _ _ => [] }

def oneGateWorkflow (nodeId : String) : WorkflowDefinition :=
  { metadata := { id := "w", version := "1.0.0" }, sourcePath := "/w", inputs := []
    defaultAttemptBudget := { maxAttempts := 1, maxDurationMs := none }, nodeOrder := [nodeId]
    nodes := [(nodeId, {
      id := nodeId, kind := .gate, needs := [], role := none
      output := { ref := "o", schema := .null }
      attemptBudget := { maxAttempts := 1, maxDurationMs := none }, mutation := none
      command := none })]
    task := none }

/-- The SHA-256 of no bytes, for artifacts without content. -/
def emptyHash : ByteHash where
  digestBytes _ := "sha256:e3b0c44298fc1c149afbf4c8996fb92427ae41e4649b934ca495991b7852b855"
  wellFormed _ := by decide +kernel

def emptyArtifact (nodeId : String) : ArtifactWrite :=
  { runId := "r", nodeId, attempt := 1, type := "diff", mediaType := "text/x-diff", bytes := [] }

/-- The SHA-256 of "a" and "b", and of no bytes for the rest. -/
def sampleByteHash : ByteHash where
  digestBytes bytes :=
    if bytes = [97] then "sha256:ca978112ca1bbdcafac231b39a23dc4da786eff8147c4e72b9807785afee48bb"
    else if bytes = [98] then
      "sha256:3e23e8160039594a33894f6564e1b1348bbd7a0088d42c4acb73eeaed59c009d"
    else "sha256:e3b0c44298fc1c149afbf4c8996fb92427ae41e4649b934ca495991b7852b855"
  wellFormed bytes := by
    split
    · decide +kernel
    · split <;> decide +kernel

def compiledDiff (content : UInt8) : ArtifactWrite :=
  { emptyArtifact "compile" with bytes := [content] }

/-- The diff agrees after another one of its node and a first write of itself. -/
theorem identityAgrees_compile : IdentityAgrees sampleByteHash ["state"] []
    (FileArtifactStore.written sampleByteHash ["state"] [] [compiledDiff 98, compiledDiff 97])
    (compiledDiff 97) := by
  have parsed : parseWorkflowYaml (oneGateReader "compile") "" = .ok (oneGate "compile") := rfl
  have normalized : normalizeWorkflow nullSchemas acceptingSchema (oneGate "compile") "" =
    .ok (oneGateWorkflow "compile") := rfl
  have root : ∀ name ∈ ["state"], PosixPath.Plain name := by
    intro name member
    rw [List.mem_singleton.mp member]
    exact Text.pathName_plain (by decide)
  have separates : ∀ other ∈ [compiledDiff 98, compiledDiff 97],
      sampleByteHash.digestBytes other.bytes = sampleByteHash.digestBytes (compiledDiff 97).bytes →
      other.bytes = (compiledDiff 97).bytes := by decide
  exact (identityAgrees_iff parsed normalized (by decide) (by decide) (by decide) rfl (by decide)
    root separates).mpr (by decide)

/-- A dotted node name is authored, and its artifacts are refused. -/
theorem dottedNode_refused : parseWorkflowYaml (oneGateReader "lint.types") "" =
      .ok (oneGate "lint.types") ∧
    normalizeWorkflow nullSchemas acceptingSchema (oneGate "lint.types") "" =
      .ok (oneGateWorkflow "lint.types") ∧
    "lint.types" ∈ (oneGateWorkflow "lint.types").nodeOrder ∧ assertRunId "r" = .ok () ∧
    ¬ IdentityAgrees emptyHash ["state"] [] [] (emptyArtifact "lint.types") := by
  refine ⟨rfl, rfl, by decide, rfl, ?_⟩
  rintro ⟨ref, next, written, _⟩
  have node := (FileArtifactStore.write_ok written).1.node
  exact absurd node (by decide)

end Anastom
