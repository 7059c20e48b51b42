import Anastom.PathPolicy.Reads
import Mathlib.Data.Fin.VecNotation
import Mathlib.Data.Fintype.Basic
import Mathlib.Tactic.FinCases

/-! Exclusive publication. Without replacement the leaf stays as it was published, but the
publishing write gives up its temporary name only afterwards, which changes the file once
more: a call that is reading at that moment takes it for another file, and fails. -/
namespace Anastom.PrivatePath
variable {ι : Type}

/-- No call replaces the leaf. -/
def Immutable (calls : ι → Call) : Prop :=
  ∀ i bytes maxBytes, calls i ≠ .writeFileAtomic bytes maxBytes

/-- A read has looked at the leaf and will look at it again. -/
def Reading.underway : Reading → Bool
  | .start | .done _ => false
  | _ => true

def Phase.underway : Phase → Bool
  | .reading stage => stage.underway
  | _ => false

/-- The step is not the one by which the published file loses its temporary name, or it is
too early to be noticed, or no call is reading. -/
def Quiet (s : System ι) : Action ι → Prop
  | .tick _ => True
  | .run i _ =>
    match s.phase i with
    | .linked n true =>
      (s.volume.inode n).ctime = s.volume.clock ∨ ∀ j, (s.phase j).underway = false
    | _ => True

instance [Fintype ι] (s : System ι) (action : Action ι) : Decidable (Quiet s action) := by
  unfold Quiet
  split
  · exact inferInstance
  · split <;> exact inferInstance

/-- Every step is quiet. -/
def Calm [DecidableEq ι] (calls : ι → Call) : System ι → List (Action ι) → Prop
  | _, [] => True
  | s, action :: rest => Quiet s action ∧ Calm calls (s.step calls action) rest

def decideCalm [DecidableEq ι] [Fintype ι] (calls : ι → Call) :
    (s : System ι) → (actions : List (Action ι)) → Decidable (Calm calls s actions)
  | _, [] => .isTrue trivial
  | s, action :: rest =>
    have := decideCalm calls (s.step calls action) rest
    inferInstanceAs (Decidable (Quiet s action ∧ Calm calls (s.step calls action) rest))

instance [DecidableEq ι] [Fintype ι] (calls : ι → Call) (s : System ι)
    (actions : List (Action ι)) : Decidable (Calm calls s actions) := decideCalm calls s actions

variable [DecidableEq ι] {calls : ι → Call} {s : System ι}

omit [DecidableEq ι] in
theorem quiet_linked {i : ι} {granted n : Nat} (quiet : Quiet s (.run i granted))
    (linked : s.phase i = .linked n true) :
    (s.volume.inode n).ctime = s.volume.clock ∨ ∀ j, (s.phase j).underway = false := by
  simpa only [Quiet, linked] using quiet

theorem Move.keeps_target {call : Call} {i : ι} {v w : Volume (Name ι)} {granted t : Nat}
    {phase after : Phase} (move : Move call i v granted phase w after)
    (immutable : ∀ bytes maxBytes, call ≠ .writeFileAtomic bytes maxBytes)
    (named : v.entry (.temporary i) = phase.temporary) (found : v.entry .target = some t) :
    w.entry .target = some t := by
  rcases (move.effect named).target with kept | ⟨n, ready, _, moved, _⟩
  · rw [kept, found]
  · cases move with
    | replace n atomic => exact absurd atomic (immutable _ _)
    | publish n exclusive free =>
      rw [free] at found
      cases found
    | taken => exact found
    | begin reads early =>
      rw [ready] at early
      cases early
    | _ => cases ready

theorem Named.keeps_target (named : Named calls s) (immutable : Immutable calls)
    (action : Action ι) {t : Nat} (found : s.volume.entry .target = some t) :
    (s.step calls action).volume.entry .target = some t := by
  cases action with
  | tick elapsed => exact found
  | run i granted =>
    exact (named.move i granted).keeps_target (immutable i) (named.temporary i) found

/-- What is published stays. -/
theorem leaf_step (named : Named calls s) (immutable : Immutable calls) (action : Action ι)
    {bytes : List UInt8} (published : leaf s.volume = some bytes) :
    leaf (s.step calls action).volume = some bytes := by
  rw [leaf, Option.map_eq_some_iff] at published ⊢
  obtain ⟨t, found, same⟩ := published
  refine ⟨t, named.keeps_target immutable action found, ?_⟩
  rw [(named.frozen action (named.target t found)).2, same]

theorem leaf_run (immutable : Immutable calls) {before actions : List (Action ι)}
    (early : before <+: actions) {bytes : List UInt8}
    (published : leaf (System.run calls before).volume = some bytes) :
    leaf (System.run calls actions).volume = some bytes := by
  obtain ⟨after, rfl⟩ := early
  induction after using List.reverseRecOn with
  | nil => rwa [List.append_nil]
  | append_singleton after action ih =>
    rw [← List.append_assoc, run_append]
    exact leaf_step (named_run _) immutable action ih

/-- A write finds the leaf once it has tried to link its file, and has made it itself just
when it has linked it. -/
def Phase.Settled (call : Call) (v : Volume (Name ι)) : Phase → Prop
  | .linked n made => ∃ t, v.entry .target = some t ∧ (made = true ↔ t = n)
  | .reading _ => call.writes = true → ∃ t, v.entry .target = some t
  | _ => True

omit [DecidableEq ι] in
theorem Phase.Settled.keep {call : Call} {v w : Volume (Name ι)} {phase : Phase}
    (settled : phase.Settled call v)
    (keeps : ∀ t, v.entry .target = some t → w.entry .target = some t) :
    phase.Settled call w := by
  cases phase with
  | linked n created =>
    obtain ⟨t, found, own⟩ := settled
    exact ⟨t, keeps t found, own⟩
  | reading reading =>
    intro writes
    obtain ⟨t, found⟩ := settled writes
    exact ⟨t, keeps t found⟩
  | _ => trivial

theorem Move.settled {call : Call} {i : ι} {v w : Volume (Name ι)} {granted : Nat}
    {phase after : Phase} (move : Move call i v granted phase w after)
    (immutable : ∀ bytes maxBytes, call ≠ .writeFileAtomic bytes maxBytes)
    (frozen : ∀ t, v.entry .target = some t → phase.works ≠ some t)
    (settled : phase.Settled call v) : after.Settled call w := by
  cases move with
  | begin reads => exact fun writes => absurd (reads.symm.trans writes) Bool.false_ne_true
  | replace n atomic => exact absurd atomic (immutable _ _)
  | publish n exclusive free =>
    refine ⟨n, ?_, by simp⟩
    rw [Volume.link_entry, Function.update_self]
  | taken n t exclusive found =>
    have apart : t ≠ n := fun same => frozen t found (by rw [same]; rfl)
    exact ⟨t, found, by simp [apart]⟩
  | unlink n created =>
    have apart : (Name.target : Name ι) ≠ .temporary i := fun same => by cases same
    obtain ⟨t, found, _⟩ := settled
    refine fun _ => ⟨t, ?_⟩
    rw [Volume.unlink_entry, Function.update_of_ne apart, found]
  | read reading => exact settled
  | _ => trivial

theorem settled_run (immutable : Immutable calls) (actions : List (Action ι)) :
    ∀ i, ((System.run calls actions).phase i).Settled (calls i)
      (System.run calls actions).volume := by
  induction actions using List.reverseRecOn with
  | nil => exact fun _ => trivial
  | append_singleton actions action settled =>
    have named : Named calls (System.run calls actions) := named_run actions
    intro i
    rw [run_append]
    have before := (settled i).keep fun t => named.keeps_target immutable action
    cases action with
    | tick elapsed => exact before
    | run j granted =>
      by_cases same : i = j
      · subst same
        exact (named.move i granted).settled (immutable i)
          (fun t found => (named.target t found).2 i) (settled i)
      · rw [step_other granted same]
        exact before

/-- What a read has noted about the leaf is still so. -/
def Reading.Current (v : Volume (Name ι)) : Reading → Prop
  | .start => True
  | .opening initial => ∃ t, v.entry .target = some t ∧ initial = v.stat t
  | .stat initial handle => v.entry .target = some handle ∧ initial = v.stat handle
  | .chunks opened handle _ | .final opened handle _ =>
    v.entry .target = some handle ∧ opened = v.stat handle
  | .current opened last _ =>
    last = opened ∧ ∃ t, v.entry .target = some t ∧ opened = v.stat t
  | .done result => result ≠ .changed

omit [DecidableEq ι] in
theorem Reading.Current.keep {v w : Volume (Name ι)} {reading : Reading}
    (current : reading.Current v)
    (keeps : ∀ t, v.entry .target = some t → w.entry .target = some t)
    (same : reading.underway = true → ∀ t, v.entry .target = some t → w.inode t = v.inode t) :
    reading.Current w := by
  have stat {t : Nat} (going : reading.underway = true) (found : v.entry .target = some t) :
      w.stat t = v.stat t := Volume.stat_eq (same going t found)
  cases reading with
  | start => trivial
  | opening initial =>
    obtain ⟨t, found, noted⟩ := current
    exact ⟨t, keeps t found, noted.trans (stat rfl found).symm⟩
  | stat initial handle =>
    exact ⟨keeps _ current.1, current.2.trans (stat rfl current.1).symm⟩
  | chunks opened handle read =>
    exact ⟨keeps _ current.1, current.2.trans (stat rfl current.1).symm⟩
  | final opened handle read =>
    exact ⟨keeps _ current.1, current.2.trans (stat rfl current.1).symm⟩
  | current opened final read =>
    obtain ⟨once, t, found, noted⟩ := current
    exact ⟨once, t, keeps t found, noted.trans (stat rfl found).symm⟩
  | done result => exact current

omit [DecidableEq ι] in
theorem Reading.Current.step {v : Volume (Name ι)} {reading : Reading}
    (current : reading.Current v) (maxBytes granted : Nat) :
    (boundedDescriptorRead maxBytes v granted reading).Current v := by
  cases reading with
  | start =>
    rw [boundedDescriptorRead]
    split
    · exact fun same => by cases same
    case _ n found =>
      dsimp only
      split
      · exact fun same => by cases same
      · exact ⟨n, found, rfl⟩
  | opening initial =>
    obtain ⟨t, found, noted⟩ := current
    rw [boundedDescriptorRead, found]
    exact ⟨found, noted⟩
  | stat initial handle =>
    rw [boundedDescriptorRead, if_pos (sameIdentity_iff.mpr current.2)]
    exact ⟨current.1, rfl⟩
  | chunks opened handle read =>
    rw [boundedDescriptorRead]
    split
    · dsimp only
      split <;> exact current
    · exact fun same => by cases same
  | final opened handle read => exact ⟨current.2.symm, handle, current⟩
  | current opened final read =>
    obtain ⟨rfl, t, found, rfl⟩ := current
    have same : sameIdentity (v.stat t) (v.stat t) = true := sameIdentity_iff.mpr rfl
    rw [boundedDescriptorRead, found]
    dsimp only
    rw [same]
    exact fun same => by cases same
  | done result => exact current

/-- A step changes nothing about the leaf, unless it takes away the other name of its file. -/
theorem Move.keeps_leaf {call : Call} {i : ι} {v w : Volume (Name ι)} {granted t : Nat}
    {phase after : Phase} (move : Move call i v granted phase w after)
    (immutable : ∀ bytes maxBytes, call ≠ .writeFileAtomic bytes maxBytes)
    (named : v.entry (.temporary i) = phase.temporary) (settled : phase.Settled call v)
    (found : v.entry .target = some t) (old : t < v.next) (frozen : phase.works ≠ some t)
    (now : ∀ n, phase = .linked n true → (v.inode n).ctime = v.clock) :
    w.inode t = v.inode t := by
  cases move with
  | create => exact Volume.create_inode (Nat.ne_of_lt old)
  | fill n => exact Volume.append_inode fun same => frozen (by rw [same]; rfl)
  | chmod n => exact Volume.change_inode fun same => frozen (by rw [same]; rfl)
  | replace n atomic => exact absurd atomic (immutable _ _)
  | publish n exclusive free =>
    rw [free] at found
    cases found
  | unlink n created =>
    obtain ⟨u, leaf, own⟩ := settled
    rw [found, Option.some.injEq] at leaf
    subst leaf
    cases created with
    | true => rw [Volume.unlink_now named (now n rfl)]
    | false =>
      refine Volume.unlink_inode fun same => Bool.false_ne_true (own.mpr ?_)
      rw [named] at same
      exact (Option.some.inj same).symm
  | conclude =>
    have absent : v.entry (.temporary i) = none := named
    rw [Volume.unlink_absent absent]
  | _ => rfl

/-- A read is up to date, and no call has failed because the leaf seemed to change. -/
def Phase.Undisturbed (v : Volume (Name ι)) : Phase → Prop
  | .reading stage => stage.Current v
  | .done (.read result) | .done (.unread result) => result ≠ .changed
  | _ => True

theorem Move.undisturbed {call : Call} {i : ι} {v w : Volume (Name ι)} {granted : Nat}
    {phase after : Phase} (move : Move call i v granted phase w after)
    (undisturbed : phase.Undisturbed v) : after.Undisturbed w := by
  have conclude {result : ReadResult} (same : result ≠ .changed) (v : Volume (Name ι)) :
      (Phase.done (observed call.bytes result)).Undisturbed v := by
    cases result with
    | content bytes =>
      rw [observed]
      split <;> trivial
    | missing => exact same
    | limit => exact same
    | changed => exact same
  cases move with
  | begin => exact trivial
  | replace => exact trivial
  | unlink => exact trivial
  | read reading => exact Reading.Current.step undisturbed call.maxBytes granted
  | answer => exact undisturbed
  | confirm => exact conclude undisturbed _
  | conclude => exact conclude undisturbed _
  | idle => exact undisturbed
  | _ => trivial

theorem calm_append {before after : List (Action ι)} :
    Calm calls s (before ++ after) ↔
      Calm calls s before ∧ Calm calls (before.foldl (System.step calls) s) after := by
  induction before generalizing s with
  | nil => exact (and_iff_right trivial).symm
  | cons action before ih =>
    rw [List.cons_append, Calm, Calm, ih, and_assoc]
    rfl

theorem undisturbed_run (immutable : Immutable calls) (actions : List (Action ι))
    (calm : Calm calls System.initial actions) : ∀ i,
    ((System.run calls actions).phase i).Undisturbed (System.run calls actions).volume := by
  induction actions using List.reverseRecOn with
  | nil => exact fun _ => trivial
  | append_singleton actions action ih =>
    obtain ⟨before, now, _⟩ := calm_append.mp calm
    have quiet : Quiet (System.run calls actions) action := now
    have undisturbed := ih before
    have named : Named calls (System.run calls actions) := named_run actions
    intro i
    rw [run_append]
    cases action with
    | tick elapsed => exact undisturbed i
    | run j granted =>
      by_cases same : i = j
      · subst same
        exact (named.move i granted).undisturbed (undisturbed i)
      · have before := undisturbed i
        rw [step_other granted same]
        generalize here : (System.run calls actions).phase i = phase at before ⊢
        cases phase with
        | reading reading =>
          refine Reading.Current.keep before (fun t => named.keeps_target immutable _) ?_
          intro going t found
          have frozen := named.target t found
          refine (named.move j granted).keeps_leaf (immutable j) (named.temporary j)
            (settled_run immutable actions j) found frozen.1 (frozen.2 j) fun n linked => ?_
          refine (quiet_linked quiet linked).resolve_right fun none => ?_
          have idle := none i
          rw [here] at idle
          exact Bool.false_ne_true (idle.symm.trans going)
        | done result => cases result <;> exact before
        | _ => trivial

/-- What calls on a leaf that none of them replaces are for: the leaf holds the bytes of one
write and keeps them; reads find it missing or read it; writes succeed if and only if their
bytes are in it. A call that sets itself too small a limit fails for that. -/
structure Publication (calls : ι → Call) (actions : List (Action ι)) : Prop where
  whole : ∀ bytes, leaf (System.run calls actions).volume = some bytes →
    ∃ i, (calls i).Fits ∧ bytes = (calls i).bytes
  stays : ∀ before bytes, before <+: actions →
    leaf (System.run calls before).volume = some bytes →
    leaf (System.run calls actions).volume = some bytes
  reads : ∀ i result, (System.run calls actions).phase i = .done (.read result) →
    result = .missing ∨ ∃ bytes, leaf (System.run calls actions).volume = some bytes ∧
      result = if bytes.length > (calls i).maxBytes then .limit else .content bytes
  writes : ∀ i result, (calls i).writes = true →
    (System.run calls actions).phase i = .done result →
    result = .refused ∧ (calls i).maxBytes < (calls i).bytes.length ∨
      ∃ bytes, leaf (System.run calls actions).volume = some bytes ∧
        (result = .published ↔ (calls i).bytes = bytes)

/-- What a call has observed is still so, unless it found the leaf missing. -/
theorem Observes.now {actions : List (Action ι)} {i : ι} {result : ReadResult}
    (observes : Observes calls actions i result) (immutable : Immutable calls) :
    result = .missing ∨ ∃ bytes, leaf (System.run calls actions).volume = some bytes ∧
      result = if bytes.length > (calls i).maxBytes then .limit else .content bytes := by
  obtain ⟨before, early, _, same⟩ := observes
  cases held : leaf (System.run calls before).volume with
  | none =>
    rw [held] at same
    exact .inl same
  | some bytes =>
    rw [held] at same
    exact .inr ⟨bytes, leaf_run immutable early held, same⟩

/-- A write does not find the leaf missing. -/
theorem not_missing {actions : List (Action ι)} {i : ι} (writes : (calls i).writes = true)
    (immutable : Immutable calls) : ¬ Observes calls actions i .missing := by
  rintro ⟨before, _, ⟨reading, here, _⟩, same⟩
  have settled := settled_run immutable before i
  rw [here] at settled
  obtain ⟨t, found⟩ := settled writes
  rw [leaf, found, Option.map_some, readAtOnce] at same
  split at same <;> cases same

omit [DecidableEq ι] in
theorem content_of_limit {bytes content : List UInt8} {maxBytes : Nat}
    (same : ReadResult.content content =
      if bytes.length > maxBytes then .limit else .content bytes) : content = bytes := by
  split at same <;> cases same
  rfl

theorem exclusive_publication (calls : ι → Call) (actions : List (Action ι))
    (immutable : Immutable calls) (calm : Calm calls System.initial actions) :
    Publication calls actions := by
  have known : Known calls actions := known_run actions
  refine ⟨(written_run actions).whole, fun before bytes early => leaf_run immutable early,
    fun i result finished => ?_, fun i result writes finished => ?_⟩
  · have explained := known.explained i
    have undisturbed := undisturbed_run immutable actions calm i
    rw [finished] at explained undisturbed
    exact (explained.2.resolve_left undisturbed).now immutable
  · have explained := known.explained i
    have undisturbed := undisturbed_run immutable actions calm i
    rw [finished] at explained undisturbed
    cases result with
    | read result => exact absurd (explained.1.symm.trans writes) Bool.false_ne_true
    | refused => exact .inl ⟨rfl, explained.2⟩
    | published =>
      obtain none | ⟨bytes, held, same⟩ := explained.2.now immutable
      · cases none
      · exact .inr ⟨bytes, held, iff_of_true rfl (content_of_limit same)⟩
    | differs =>
      obtain ⟨_, content, other, observes⟩ := explained
      obtain none | ⟨bytes, held, same⟩ := observes.now immutable
      · cases none
      · refine .inr ⟨bytes, held, iff_of_false (by simp) fun own => other ?_⟩
        rw [content_of_limit same, own]
    | unread result =>
      obtain ⟨fits, unlike, observes⟩ := explained
      have observes := observes.resolve_left undisturbed
      obtain none | ⟨bytes, held, same⟩ := observes.now immutable
      · exact absurd (none ▸ observes) (not_missing writes immutable)
      · refine .inr ⟨bytes, held, iff_of_false (by simp) fun own => ?_⟩
        by_cases long : bytes.length > (calls i).maxBytes
        · exact Nat.not_lt.mpr fits.2 (own ▸ long)
        · exact unlike bytes (same.trans (if_neg long))

/-- Two writes of the same byte, and a read. -/
def twoWrites : Fin 3 → Call :=
  ![.writeFileExclusive [1] 8, .readFile 8, .writeFileExclusive [1] 8]

theorem twoWrites_immutable : Immutable twoWrites := by
  intro i bytes maxBytes
  fin_cases i <;> exact fun same => by cases same

def steps (call : Fin 3) (count : Nat) : List (Action (Fin 3)) :=
  List.replicate count (.run call 1)

/-- The second write and the read are going on, but have not looked at the leaf, when the first
write gives up its temporary name. -/
def calmSteps : List (Action (Fin 3)) :=
  steps 0 4 ++ steps 2 5 ++ [.tick 1] ++ steps 0 1 ++ steps 1 9 ++ steps 2 8 ++ steps 0 8

theorem exclusive_publication_calm :
    ((System.run twoWrites calmSteps).phase 0 = .done .published ∧
      (System.run twoWrites calmSteps).phase 1 = .done (.read (.content [1])) ∧
      (System.run twoWrites calmSteps).phase 2 = .done .published) ∧
    Publication twoWrites calmSteps :=
  ⟨by decide +kernel,
    exclusive_publication twoWrites calmSteps twoWrites_immutable (by decide +kernel)⟩

/-- They have looked at the leaf before the first write gives up its temporary name, and look
at it again after that. -/
def disturbedSteps : List (Action (Fin 3)) :=
  steps 0 4 ++ steps 2 6 ++ steps 1 2 ++ [.tick 1] ++ steps 0 1 ++ steps 1 3 ++ steps 2 3

theorem publication_disturbed :
    Immutable twoWrites ∧
    (System.run twoWrites disturbedSteps).phase 1 = .done (.read .changed) ∧
    (System.run twoWrites disturbedSteps).phase 2 = .done (.unread .changed) ∧
    leaf (System.run twoWrites disturbedSteps).volume = some [1] ∧
    ¬ Publication twoWrites disturbedSteps := by
  have read : (System.run twoWrites disturbedSteps).phase 1 = .done (.read .changed) := by
    decide +kernel
  refine ⟨twoWrites_immutable, read, by decide +kernel, by decide +kernel, fun publication => ?_⟩
  obtain missing | ⟨bytes, _, same⟩ := publication.reads 1 .changed read
  · cases missing
  · split at same <;> cases same

end Anastom.PrivatePath
