import Anastom.PathPolicy.Runs
import Mathlib.Data.List.Induction

/-! Reads and replacements of one leaf. What the leaf holds was written by one call and
whole, and a read that finds nothing changed answers as if it had read the leaf at once, at
one moment while it was going on. -/
namespace Anastom.PrivatePath
variable {ι : Type}

/-- The bytes under the name of the leaf. -/
def leaf (v : Volume (Name ι)) : Option (List UInt8) := (v.entry .target).map v.content

/-- A bounded read in one step. -/
def readAtOnce (maxBytes : Nat) : Option (List UInt8) → ReadResult
  | none => .missing
  | some bytes => if bytes.length > maxBytes then .limit else .content bytes

theorem readAtOnce_content {maxBytes : Nat} {held : Option (List UInt8)} {bytes : List UInt8}
    (answer : readAtOnce maxBytes held = .content bytes) : held = some bytes := by
  cases held with
  | none => cases answer
  | some content =>
    rw [readAtOnce] at answer
    split at answer <;> cases answer
    rfl

/-- A write that does not ask for more than its limit. -/
def Call.Fits (call : Call) : Prop := call.writes = true ∧ call.bytes.length ≤ call.maxBytes

/-- What the file of a call's temporary name contains. -/
def Phase.Holds (call : Call) (v : Volume (Name ι)) : Phase → Prop
  | .created n => call.Fits ∧ v.content n = []
  | .filled n | .ready n | .linked n _ => call.Fits ∧ v.content n = call.bytes
  | _ => True

theorem Phase.Holds.transport {call : Call} {v w : Volume (Name ι)} {phase : Phase}
    (holds : phase.Holds call v)
    (same : ∀ n, phase.temporary = some n → w.content n = v.content n) :
    phase.Holds call w := by
  cases phase with
  | created n => exact ⟨holds.1, (same n rfl).trans holds.2⟩
  | filled n => exact ⟨holds.1, (same n rfl).trans holds.2⟩
  | ready n => exact ⟨holds.1, (same n rfl).trans holds.2⟩
  | linked n created => exact ⟨holds.1, (same n rfl).trans holds.2⟩
  | _ => trivial

variable [DecidableEq ι]

theorem Move.holds {call : Call} {i : ι} {v w : Volume (Name ι)} {granted : Nat}
    {phase after : Phase} (move : Move call i v granted phase w after)
    (holds : phase.Holds call v) : after.Holds call w := by
  cases move with
  | create writes short => exact ⟨⟨writes, short⟩, Volume.create_content⟩
  | fill n =>
    refine ⟨holds.1, ?_⟩
    rw [Volume.append_content, holds.2, List.nil_append]
  | chmod n => exact ⟨holds.1, Volume.change_content.trans holds.2⟩
  | publish n => exact ⟨holds.1, Volume.link_content.trans holds.2⟩
  | taken n => exact holds
  | _ => trivial

/-- Files hold what their calls write, and so does the leaf. -/
structure Written (calls : ι → Call) (s : System ι) : Prop where
  named : Named calls s
  holds : ∀ i, (s.phase i).Holds (calls i) s.volume
  whole : ∀ bytes, leaf s.volume = some bytes → ∃ i, (calls i).Fits ∧ bytes = (calls i).bytes

variable {calls : ι → Call} {s : System ι}

theorem Written.step (written : Written calls s) (action : Action ι) :
    Written calls (s.step calls action) := by
  cases action with
  | tick elapsed => exact ⟨written.named.step (.tick elapsed), written.holds, written.whole⟩
  | run i granted =>
    have named := written.named
    have effect := named.effect i granted
    refine ⟨named.step _, fun j => ?_, fun bytes found => ?_⟩
    · by_cases same : j = i
      · subst same
        exact (named.move j granted).holds (written.holds j)
      · rw [step_other granted same]
        refine (written.holds j).transport fun n temporary => ?_
        refine effect.content n (named.begun temporary) fun works => same ?_
        exact named.apart j i n temporary (works_temporary works)
    · rcases effect.target with kept | ⟨n, ready, _, moved, content⟩
      · rw [leaf, kept, Option.map_eq_some_iff] at found
        obtain ⟨t, found, rfl⟩ := found
        refine written.whole _ ?_
        rw [leaf, found, Option.map_some, (named.frozen (.run i granted)
          (named.target t found)).2]
      · rw [leaf, moved, Option.map_some, Option.some.injEq] at found
        have holds := written.holds i
        rw [ready] at holds
        refine ⟨i, holds.1, ?_⟩
        rw [← found, content, holds.2]

theorem written_run (actions : List (Action ι)) : Written calls (System.run calls actions) :=
  run_keeps ⟨named_initial, fun _ => trivial, fun _ found => by cases found⟩
    (fun _ action written => written.step action) actions

/-- A file that was the leaf when a read looked at it, and was not longer than the limit. -/
structure Seen (s : System ι) (maxBytes : Nat) (stat : Stat) : Prop where
  frozen : Frozen s stat.ino
  size : stat.size = (s.volume.content stat.ino).length
  short : stat.size ≤ maxBytes

/-- What a read has got is from the file that it opened. -/
def Reading.Sound (s : System ι) (maxBytes : Nat) : Reading → Prop
  | .opening initial | .stat initial _ => Seen s maxBytes initial
  | .chunks opened handle read =>
    Seen s maxBytes opened ∧ opened.ino = handle ∧ read <+: s.volume.content handle
  | .final opened handle read =>
    Seen s maxBytes opened ∧ opened.ino = handle ∧ read = s.volume.content handle
  | .current opened _ read => Seen s maxBytes opened ∧ read = s.volume.content opened.ino
  | .start | .done _ => True

theorem Seen.keep {maxBytes : Nat} {stat : Stat} (seen : Seen s maxBytes stat)
    (named : Named calls s) (action : Action ι) :
    Seen (s.step calls action) maxBytes stat := by
  have kept := named.frozen action seen.frozen
  exact ⟨kept.1, by rw [kept.2, seen.size], seen.short⟩

theorem Reading.Sound.keep {maxBytes : Nat} {reading : Reading}
    (sound : reading.Sound s maxBytes) (named : Named calls s) (action : Action ι) :
    reading.Sound (s.step calls action) maxBytes := by
  cases reading with
  | opening initial => exact Seen.keep sound named action
  | stat initial handle => exact Seen.keep sound named action
  | chunks opened handle read =>
    obtain ⟨seen, rfl, starts⟩ := sound
    exact ⟨seen.keep named action, rfl, by rwa [(named.frozen action seen.frozen).2]⟩
  | final opened handle read =>
    obtain ⟨seen, rfl, all⟩ := sound
    exact ⟨seen.keep named action, rfl, by rwa [(named.frozen action seen.frozen).2]⟩
  | current opened final read =>
    obtain ⟨seen, all⟩ := sound
    exact ⟨seen.keep named action, by rwa [(named.frozen action seen.frozen).2]⟩
  | _ => trivial

theorem sameIdentity_iff {left right : Stat} : sameIdentity left right = true ↔ left = right := by
  cases left
  cases right
  simp only [sameIdentity, Bool.and_eq_true, beq_iff_eq, Stat.mk.injEq, and_assoc]

/-- A chunk continues what was read, and is empty only where nothing is left. -/
theorem chunk_extends {content read : List UInt8} {count : Nat} (starts : read <+: content)
    (some : 0 < count) :
    let chunk := (content.drop read.length).take count
    (chunk.isEmpty = true → read = content) ∧ read ++ chunk <+: content := by
  obtain ⟨rest, rfl⟩ := starts
  rw [List.drop_left]
  refine ⟨fun empty => ?_, ?_⟩
  · rw [List.isEmpty_iff, List.take_eq_nil_iff] at empty
    rcases empty with none | none
    · omega
    · rw [none, List.append_nil]
  · rw [List.prefix_append_right_inj]
    exact List.take_prefix _ _

omit [DecidableEq ι] in
theorem seen_stat {maxBytes n : Nat} (frozen : Frozen s n)
    (short : (s.volume.content n).length ≤ maxBytes) : Seen s maxBytes (s.volume.stat n) :=
  ⟨frozen, rfl, short⟩

omit [DecidableEq ι] in
theorem Reading.Sound.step {maxBytes : Nat} {reading : Reading}
    (sound : reading.Sound s maxBytes) (named : Named calls s) (granted : Nat) :
    (boundedDescriptorRead maxBytes s.volume granted reading).Sound s maxBytes := by
  cases reading with
  | start =>
    rw [boundedDescriptorRead]
    split
    · trivial
    case _ n found =>
      dsimp only
      split
      · trivial
      case isFalse short => exact seen_stat (named.target n found) (Nat.not_lt.mp short)
  | opening initial =>
    rw [boundedDescriptorRead]
    split
    · trivial
    · exact sound
  | stat initial handle =>
    rw [boundedDescriptorRead]
    split
    case isTrue same =>
      rw [sameIdentity_iff] at same
      subst same
      exact ⟨sound, rfl, List.nil_prefix⟩
    · trivial
  | chunks opened handle read =>
    obtain ⟨seen, same, starts⟩ := sound
    rw [boundedDescriptorRead]
    dsimp only
    split
    case isTrue short =>
      have some : 0 < min (max granted 1) (min readChunkBytes (maxBytes + 1 - read.length)) := by
        unfold readChunkBytes
        omega
      have extends_ := chunk_extends starts some
      split
      case isTrue empty => exact ⟨seen, same, extends_.1 empty⟩
      · exact ⟨seen, same, extends_.2⟩
    · trivial
  | final opened handle read =>
    obtain ⟨seen, rfl, all⟩ := sound
    exact ⟨seen, all⟩
  | current opened final read =>
    rw [boundedDescriptorRead]
    split
    · trivial
    · split <;> trivial
  | done result => trivial

omit [DecidableEq ι] in
/-- The answer of a read is that of a read of the leaf at once. -/
theorem Reading.Sound.answer {maxBytes : Nat} {reading : Reading} {result : ReadResult}
    (sound : reading.Sound s maxBytes) (running : ∀ result, reading ≠ .done result)
    (granted : Nat)
    (answers : boundedDescriptorRead maxBytes s.volume granted reading = .done result) :
    result = .changed ∨ result = readAtOnce maxBytes (leaf s.volume) := by
  have missing (absent : s.volume.entry .target = none) :
      ReadResult.missing = readAtOnce maxBytes (leaf s.volume) := by
    rw [leaf, absent]
    rfl
  cases reading with
  | start =>
    rw [boundedDescriptorRead] at answers
    split at answers
    case _ absent =>
      cases answers
      exact .inr (missing absent)
    case _ n found =>
      dsimp only at answers
      split at answers
      case isTrue long =>
        cases answers
        refine .inr ?_
        rw [leaf, found]
        exact (if_pos long).symm
      · cases answers
  | opening initial =>
    rw [boundedDescriptorRead] at answers
    split at answers
    case _ absent =>
      cases answers
      exact .inr (missing absent)
    · cases answers
  | stat initial handle =>
    rw [boundedDescriptorRead] at answers
    split at answers
    · cases answers
    · cases answers
      exact .inl rfl
  | chunks opened handle read =>
    -- The file was looked at before it was opened, and is not longer than the limit.
    obtain ⟨seen, rfl, starts⟩ := sound
    have short : read.length ≤ maxBytes :=
      Nat.le_trans starts.length_le (seen.size ▸ seen.short)
    rw [boundedDescriptorRead] at answers
    rw [if_pos short] at answers
    dsimp only at answers
    split at answers <;> cases answers
  | final opened handle read => cases answers
  | current opened final read =>
    obtain ⟨seen, all⟩ := sound
    rw [boundedDescriptorRead] at answers
    split at answers
    case _ absent =>
      cases answers
      exact .inr (missing absent)
    case _ n found =>
      split at answers
      case isTrue same =>
        cases answers
        rw [Bool.and_eq_true, sameIdentity_iff, sameIdentity_iff] at same
        obtain ⟨rfl, same⟩ := same
        have here : opened.ino = n := congrArg Stat.ino same
        subst here
        have short : ¬ (s.volume.content opened.ino).length > maxBytes :=
          Nat.not_lt.mpr (seen.size ▸ seen.short)
        refine .inr ?_
        rw [all, leaf, found]
        exact (if_neg short).symm
      · cases answers
        exact .inl rfl
  | done result => exact absurd rfl (running result)

/-- A call is at its bounded read and has no answer yet. -/
def Phase.Reads (phase : Phase) : Prop :=
  ∃ reading, phase = .reading reading ∧ ∀ result, reading ≠ .done result

/-- At a moment of the run at which the call was reading, the leaf was so that a read of it
at once gives the answer. -/
def Observes (calls : ι → Call) (actions : List (Action ι)) (i : ι) (result : ReadResult) :
    Prop :=
  ∃ before, before <+: actions ∧ ((System.run calls before).phase i).Reads ∧
    result = readAtOnce (calls i).maxBytes (leaf (System.run calls before).volume)

omit [DecidableEq ι] in
theorem run_append [DecidableEq ι] (actions : List (Action ι)) (action : Action ι) :
    System.run calls (actions ++ [action]) = (System.run calls actions).step calls action := by
  rw [System.run, List.foldl_append]
  rfl

theorem Observes.later {actions : List (Action ι)} {i : ι} {result : ReadResult}
    (observes : Observes calls actions i result) (action : Action ι) :
    Observes calls (actions ++ [action]) i result := by
  obtain ⟨before, early, reads, same⟩ := observes
  exact ⟨before, early.trans (List.prefix_append _ _), reads, same⟩

/-- What a call has found out by its bounded read. A write compares it with its bytes. -/
def Phase.Explained (call : Call) (answers : ReadResult → Prop) : Phase → Prop
  | .reading stage => (call.writes = true → call.Fits) ∧
      ∀ result, stage = .done result → result = .changed ∨ answers result
  | .done (.read result) => call.writes = false ∧ (result = .changed ∨ answers result)
  | .done .refused => call.writes = true ∧ call.maxBytes < call.bytes.length
  | .done .published => call.Fits ∧ answers (.content call.bytes)
  | .done .differs => call.Fits ∧ ∃ bytes, bytes ≠ call.bytes ∧ answers (.content bytes)
  | .done (.unread result) => call.Fits ∧ (∀ bytes, result ≠ .content bytes) ∧
      (result = .changed ∨ answers result)
  | _ => True

theorem explained_mono {call : Call} {answers later : ReadResult → Prop} {phase : Phase}
    (explained : phase.Explained call answers) (grow : ∀ result, answers result → later result) :
    phase.Explained call later := by
  have wider {result : ReadResult} (known : result = .changed ∨ answers result) :
      result = .changed ∨ later result := known.imp_right (grow result)
  cases phase with
  | reading reading => exact ⟨explained.1, fun result same => wider (explained.2 result same)⟩
  | done result =>
    cases result with
    | read result => exact ⟨explained.1, wider explained.2⟩
    | published => exact ⟨explained.1, grow _ explained.2⟩
    | refused => exact explained
    | unread result => exact ⟨explained.1, explained.2.1, wider explained.2.2⟩
    | differs =>
      obtain ⟨fits, bytes, other, known⟩ := explained
      exact ⟨fits, bytes, other, grow _ known⟩
  | _ => trivial

theorem explained_observed {call : Call} {answers : ReadResult → Prop} {result : ReadResult}
    (fits : call.Fits) (known : result = .changed ∨ answers result) :
    (Phase.done (observed call.bytes result)).Explained call answers := by
  cases result with
  | content bytes =>
    have told : answers (.content bytes) := known.resolve_left (fun same => by cases same)
    rw [observed]
    split
    case isTrue same => exact ⟨fits, same ▸ told⟩
    case isFalse other => exact ⟨fits, bytes, other, told⟩
  | missing => exact ⟨fits, (by simp), known⟩
  | limit => exact ⟨fits, (by simp), known⟩
  | changed => exact ⟨fits, (by simp), known⟩

theorem Call.writes_atomic {call : Call} {bytes : List UInt8} {maxBytes : Nat}
    (atomic : call = .writeFileAtomic bytes maxBytes) : call.writes = true := by
  rw [atomic]
  rfl

theorem Call.writes_exclusive {call : Call} {bytes : List UInt8} {maxBytes : Nat}
    (exclusive : call = .writeFileExclusive bytes maxBytes) : call.writes = true := by
  rw [exclusive]
  rfl

omit [DecidableEq ι] in
/-- A write that publishes has checked its bytes against its limit. -/
theorem Phase.Holds.fits {call : Call} {v : Volume (Name ι)} {phase : Phase} {n : Nat}
    (holds : phase.Holds call v) (temporary : phase.temporary = some n) : call.Fits := by
  cases phase with
  | created n => exact holds.1
  | filled n => exact holds.1
  | ready n => exact holds.1
  | linked n created => exact holds.1
  | _ => cases temporary

theorem Move.explained {call : Call} {i : ι} {v w : Volume (Name ι)} {granted : Nat}
    {phase after : Phase} (move : Move call i v granted phase w after)
    {answers : ReadResult → Prop} (holds : phase.Holds call v)
    (explained : phase.Explained call answers)
    (reads : ∀ reading result, phase = .reading reading → (∀ result, reading ≠ .done result) →
      boundedDescriptorRead call.maxBytes v granted reading = .done result →
      result = .changed ∨ answers result) :
    after.Explained call answers := by
  cases move with
  | begin none =>
    exact ⟨fun writes => absurd (none.symm.trans writes) Bool.false_ne_true,
      fun result same => by cases same⟩
  | refuse writes long => exact ⟨writes, long⟩
  | replace n => exact ⟨fun _ => holds.fits rfl, fun result same => by cases same⟩
  | unlink n created => exact ⟨fun _ => holds.fits rfl, fun result same => by cases same⟩
  | read reading running =>
    exact ⟨explained.1, fun result same => reads reading result rfl running same⟩
  | answer result none => exact ⟨none, explained.2 result rfl⟩
  | confirm result atomic =>
    exact explained_observed (explained.1 (Call.writes_atomic atomic)) (explained.2 result rfl)
  | conclude result exclusive =>
    exact explained_observed (explained.1 (Call.writes_exclusive exclusive))
      (explained.2 result rfl)
  | idle => exact explained
  | _ => trivial

omit [DecidableEq ι] in
theorem Reading.Sound.begin {maxBytes : Nat} : Reading.start.Sound s maxBytes := trivial

theorem Move.sound {call : Call} {i : ι} {w : Volume (Name ι)} {granted : Nat}
    {phase after : Phase} (move : Move call i s.volume granted phase w after)
    (named : Named calls s)
    (before : ∀ reading, phase = .reading reading → reading.Sound s call.maxBytes)
    {reading : Reading} (now : after = .reading reading) : reading.Sound s call.maxBytes := by
  cases move with
  | begin =>
    cases now
    exact Reading.Sound.begin
  | replace =>
    cases now
    exact Reading.Sound.begin
  | unlink =>
    cases now
    exact Reading.Sound.begin
  | read reading running =>
    cases now
    exact (before reading rfl).step named granted
  | _ => cases now

/-- What calls have found out, at any time. -/
structure Known (calls : ι → Call) (actions : List (Action ι)) : Prop where
  sound : ∀ i reading, (System.run calls actions).phase i = .reading reading →
    reading.Sound (System.run calls actions) (calls i).maxBytes
  explained : ∀ i, ((System.run calls actions).phase i).Explained (calls i)
    (Observes calls actions i)

theorem Known.sound_step {actions : List (Action ι)} (known : Known calls actions)
    (action : Action ι) (i : ι) (reading : Reading)
    (now : ((System.run calls actions).step calls action).phase i = .reading reading) :
    reading.Sound ((System.run calls actions).step calls action) (calls i).maxBytes := by
  have named : Named calls (System.run calls actions) := named_run actions
  refine Reading.Sound.keep ?_ named action
  cases action with
  | tick elapsed => exact known.sound i reading now
  | run j granted =>
    by_cases same : i = j
    · subst same
      exact (named.move i granted).sound named (known.sound i) now
    · rw [step_other granted same] at now
      exact known.sound i reading now

theorem Known.explained_step {actions : List (Action ι)} (known : Known calls actions)
    (action : Action ι) (i : ι) :
    (((System.run calls actions).step calls action).phase i).Explained (calls i)
      (Observes calls (actions ++ [action]) i) := by
  have written : Written calls (System.run calls actions) := written_run actions
  have before := explained_mono (known.explained i) fun _ observes => observes.later action
  cases action with
  | tick elapsed => exact before
  | run j granted =>
    by_cases same : i = j
    · subst same
      refine (written.named.move i granted).explained (written.holds i) before ?_
      intro reading result here running answers
      refine ((known.sound i reading here).answer running granted answers).imp_right ?_
      exact fun told => ⟨actions, List.prefix_append _ _, ⟨reading, here, running⟩, told⟩
    · rw [step_other granted same]
      exact before

theorem known_run (actions : List (Action ι)) : Known calls actions := by
  induction actions using List.reverseRecOn with
  | nil => exact ⟨fun _ _ now => (by cases now), fun _ => trivial⟩
  | append_singleton actions action known =>
    refine ⟨?_, ?_⟩
    · rw [run_append]
      exact known.sound_step action
    · rw [run_append]
      exact known.explained_step action

/-- Calls on one leaf look like single steps: whatever the order in which they get on, the
leaf is missing or holds the bytes of one write, whole; a read that does not find a change
answers as a read of the leaf at once would have done at a moment while it was reading; and
a write that succeeds has published its bytes and seen them in the leaf. -/
theorem calls_linearizable (calls : ι → Call) (actions : List (Action ι)) :
    (∀ bytes, leaf (System.run calls actions).volume = some bytes →
      ∃ i, (calls i).Fits ∧ bytes = (calls i).bytes) ∧
    (∀ i result, (System.run calls actions).phase i = .done (.read result) →
      result = .changed ∨ Observes calls actions i result) ∧
    ∀ i, (System.run calls actions).phase i = .done .published →
      ∃ before, before <+: actions ∧ ((System.run calls before).phase i).Reads ∧
        leaf (System.run calls before).volume = some (calls i).bytes := by
  have known : Known calls actions := known_run actions
  refine ⟨(written_run actions).whole, fun i result finished => ?_, fun i finished => ?_⟩
  · have explained := known.explained i
    rw [finished] at explained
    exact explained.2
  · have explained := known.explained i
    rw [finished] at explained
    obtain ⟨_, before, early, reads, same⟩ := explained
    refine ⟨before, early, reads, ?_⟩
    exact readAtOnce_content same.symm

end Anastom.PrivatePath
