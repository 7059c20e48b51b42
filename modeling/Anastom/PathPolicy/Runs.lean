import Anastom.PathPolicy.PrivateFiles

/-! What every run of calls on one leaf keeps, whatever the order of their steps. A file is
worked on by the call that made it and by no other; once the leaf has had it, its content
stays. A read returns the whole content of one file that the leaf had. -/
namespace Anastom.PrivatePath

/-- The file a call still writes. -/
def Phase.works : Phase → Option Nat
  | .created n | .filled n | .ready n => some n
  | _ => none

/-- The file of the temporary name of a call. -/
def Phase.temporary : Phase → Option Nat
  | .created n | .filled n | .ready n | .linked n _ => some n
  | _ => none

variable {ι : Type} [DecidableEq ι]

/-- What a step of a call can do. -/
inductive Move (call : Call) (i : ι) (v : Volume (Name ι)) (granted : Nat) :
    Phase → Volume (Name ι) → Phase → Prop where
  | begin {phase : Phase} (reads : call.writes = false) (early : phase.temporary = none) :
      Move call i v granted phase v (.reading .start)
  | refuse (writes : call.writes = true) (long : call.maxBytes < call.bytes.length) :
      Move call i v granted .start v (.done .refused)
  | create (writes : call.writes = true) (short : call.bytes.length ≤ call.maxBytes) :
      Move call i v granted .start (v.create (.temporary i)) (.created v.next)
  | fill (n : Nat) : Move call i v granted (.created n) (v.append n call.bytes) (.filled n)
  | chmod (n : Nat) : Move call i v granted (.filled n) (v.change n) (.ready n)
  | replace (n : Nat) (atomic : call = .writeFileAtomic call.bytes call.maxBytes) :
      Move call i v granted (.ready n) (v.rename (.temporary i) .target) (.reading .start)
  | publish (n : Nat) (exclusive : call = .writeFileExclusive call.bytes call.maxBytes)
      (free : v.entry .target = none) :
      Move call i v granted (.ready n) (v.link .target n) (.linked n true)
  | taken (n t : Nat) (exclusive : call = .writeFileExclusive call.bytes call.maxBytes)
      (found : v.entry .target = some t) : Move call i v granted (.ready n) v (.linked n false)
  | unlink (n : Nat) (created : Bool) :
      Move call i v granted (.linked n created) (v.unlink (.temporary i)) (.reading .start)
  | read (reading : Reading) (running : ∀ result, reading ≠ .done result) :
      Move call i v granted (.reading reading) v
        (.reading (boundedDescriptorRead call.maxBytes v granted reading))
  | answer (result : ReadResult) (reads : call.writes = false) :
      Move call i v granted (.reading (.done result)) v (.done (.read result))
  | confirm (result : ReadResult) (atomic : call = .writeFileAtomic call.bytes call.maxBytes) :
      Move call i v granted (.reading (.done result)) v (.done (observed call.bytes result))
  | conclude (result : ReadResult)
      (exclusive : call = .writeFileExclusive call.bytes call.maxBytes) :
      Move call i v granted (.reading (.done result)) (v.unlink (.temporary i))
        (.done (observed call.bytes result))
  | idle (result : Result) : Move call i v granted (.done result) v (.done result)

theorem write_moves {call : Call} (i : ι) (v : Volume (Name ι)) (granted : Nat)
    {publish : Nat → Volume (Name ι) × Phase} {phase : Phase} (writes : call.writes = true)
    (early : ∀ reading, phase ≠ .reading reading) (running : ∀ result, phase ≠ .done result)
    (publishes : ∀ n, phase = .ready n →
      Move call i v granted phase (publish n).1 (publish n).2) :
    Move call i v granted phase (call.write i v publish phase).1
      (call.write i v publish phase).2 := by
  cases phase with
  | start =>
    rw [Call.write]
    by_cases long : call.bytes.length > call.maxBytes
    · rw [if_pos long]
      exact .refuse writes long
    · rw [if_neg long]
      exact .create writes (Nat.not_lt.mp long)
  | created n => exact .fill n
  | filled n => exact .chmod n
  | ready n => exact publishes n rfl
  | linked n created => exact .unlink n created
  | reading reading => exact absurd rfl (early reading)
  | done result => exact absurd rfl (running result)

/-- A step of a call is one of the moves. -/
theorem step_moves (call : Call) (i : ι) (v : Volume (Name ι)) (granted : Nat) (phase : Phase)
    (reads : call.writes = false → phase.temporary = none) :
    Move call i v granted phase (call.step i granted v phase).1
      (call.step i granted v phase).2 := by
  cases phase with
  | reading reading =>
    cases reading with
    | done result =>
      cases call with
      | readFile maxBytes => exact .answer result rfl
      | writeFileAtomic bytes maxBytes => exact .confirm result rfl
      | writeFileExclusive bytes maxBytes => exact .conclude result rfl
    | _ => exact .read _ (by simp)
  | done result => exact .idle result
  | _ =>
    cases call with
    | readFile maxBytes => exact .begin rfl (reads rfl)
    | writeFileAtomic bytes maxBytes =>
      exact @write_moves _ _ _ i v granted
        (fun _ => (v.rename (.temporary i) .target, .reading .start)) _ rfl (by simp) (by simp)
        fun n same => by cases same <;> exact .replace _ rfl
    | writeFileExclusive bytes maxBytes =>
      have writes : (Call.writeFileExclusive bytes maxBytes).writes = true := rfl
      refine @write_moves _ _ _ i v granted
        (fun n => (Call.writeFileExclusive bytes maxBytes).step i granted v (.ready n)) _ writes
        (by simp) (by simp) fun n same => ?_
      cases same <;>
        cases taken : v.entry .target with
        | none =>
          simp only [Call.step, Call.write, taken]
          exact .publish _ rfl taken
        | some t =>
          simp only [Call.step, Call.write, taken]
          exact .taken _ t rfl taken

/-- A read makes no file. -/
theorem Move.reads {call : Call} {i : ι} {v w : Volume (Name ι)} {granted : Nat}
    {phase after : Phase} (move : Move call i v granted phase w after)
    (reads : call.writes = false) (before : phase.temporary = none) :
    after.temporary = none := by
  cases move with
  | create writes =>
    rw [reads] at writes
    cases writes
  | fill => cases before
  | chmod => cases before
  | publish => cases before
  | taken => cases before
  | _ => rfl

/-- What a move does to names and contents. -/
structure Effect (i : ι) (v : Volume (Name ι)) (phase : Phase) (w : Volume (Name ι))
    (after : Phase) : Prop where
  others : ∀ j, j ≠ i → w.entry (.temporary j) = v.entry (.temporary j)
  own : w.entry (.temporary i) = after.temporary
  target : w.entry .target = v.entry .target ∨
    ∃ n, phase = .ready n ∧ after.works = none ∧ w.entry .target = some n ∧
      w.content n = v.content n
  grows : v.next ≤ w.next
  temporary : ∀ n, after.temporary = some n →
    phase.temporary = some n ∨ n = v.next ∧ w.next = v.next + 1
  works : ∀ n, after.works = some n → phase.works = some n ∨ n = v.next
  content : ∀ m, m < v.next → phase.works ≠ some m → w.content m = v.content m

theorem Move.effect {call : Call} {i : ι} {v w : Volume (Name ι)} {granted : Nat}
    {phase after : Phase} (move : Move call i v granted phase w after)
    (named : v.entry (.temporary i) = phase.temporary) : Effect i v phase w after := by
  have other {j : ι} (apart : j ≠ i) : (Name.temporary j : Name ι) ≠ .temporary i :=
    fun same => apart (Name.temporary.inj same)
  have leaf : (Name.target : Name ι) ≠ .temporary i := fun same => by cases same
  have named' (j : ι) : (Name.temporary j : Name ι) ≠ .target := fun same => by cases same
  have nothing (later : Nat) : ∀ n, (none : Option Nat) = some n →
      phase.temporary = some n ∨ n = v.next ∧ later = v.next + 1 := fun n found => by cases found
  have idle : ∀ n, (none : Option Nat) = some n → phase.works = some n ∨ n = v.next :=
    fun n found => by cases found
  have kept : ∀ m, m < v.next → phase.works ≠ some m → v.content m = v.content m :=
    fun _ _ _ => rfl
  cases move with
  | begin reads early =>
    exact ⟨fun _ _ => rfl, by rw [named, early]; rfl, .inl rfl, Nat.le_refl _, nothing _, idle, kept⟩
  | refuse => exact ⟨fun _ _ => rfl, named, .inl rfl, Nat.le_refl _, nothing _, idle, kept⟩
  | create =>
    refine ⟨fun j apart => ?_, ?_, .inl ?_, Nat.le_succ _, ?_, ?_, ?_⟩
    · rw [Volume.create_entry, Function.update_of_ne (other apart)]
    · rw [Volume.create_entry, Function.update_self]
      rfl
    · rw [Volume.create_entry, Function.update_of_ne leaf]
    · rintro n ⟨⟩
      exact .inr ⟨rfl, rfl⟩
    · rintro n ⟨⟩
      exact .inr rfl
    · intro m old _
      rw [Volume.content, Volume.create_inode (Nat.ne_of_lt old), ← Volume.content]
  | fill n =>
    refine ⟨fun _ _ => rfl, named, .inl rfl, Nat.le_refl _, fun _ => .inl, fun _ => .inl, ?_⟩
    intro m _ apart
    have different : m ≠ n := fun same => apart (by rw [same]; rfl)
    rw [Volume.content, Volume.append_inode different, ← Volume.content]
  | chmod n =>
    exact ⟨fun _ _ => rfl, named, .inl rfl, Nat.le_refl _, fun _ => .inl, fun _ => .inl,
      fun _ _ _ => Volume.change_content⟩
  | replace n atomic =>
    have found : v.entry (.temporary i) = some n := named
    refine ⟨fun j apart => ?_, ?_, .inr ⟨n, rfl, rfl, ?_, Volume.rename_content⟩,
      Nat.le_of_eq Volume.rename_next.symm, nothing _, idle, fun _ _ _ => Volume.rename_content⟩
    · rw [Volume.rename_entry found, Function.update_of_ne (other apart),
        Function.update_of_ne (named' _)]
    · rw [Volume.rename_entry found, Function.update_self]
      rfl
    · rw [Volume.rename_entry found, Function.update_of_ne leaf, Function.update_self]
  | publish n exclusive free =>
    refine ⟨fun j _ => ?_, ?_, .inr ⟨n, rfl, rfl, ?_, Volume.link_content⟩, Nat.le_refl _,
      fun _ => .inl, idle,
      fun _ _ _ => Volume.link_content⟩
    · rw [Volume.link_entry, Function.update_of_ne (named' _)]
    · rw [Volume.link_entry, Function.update_of_ne (named' _)]
      exact named
    · rw [Volume.link_entry, Function.update_self]
  | taken n t exclusive found =>
    exact ⟨fun _ _ => rfl, named, .inl rfl, Nat.le_refl _, fun _ => .inl, idle, kept⟩
  | unlink n created =>
    refine ⟨fun j apart => ?_, ?_, .inl ?_, Nat.le_of_eq Volume.unlink_next.symm, nothing _, idle,
      fun _ _ _ => Volume.unlink_content⟩
    · rw [Volume.unlink_entry, Function.update_of_ne (other apart)]
    · rw [Volume.unlink_entry, Function.update_self]
      rfl
    · rw [Volume.unlink_entry, Function.update_of_ne leaf]
  | read reading => exact ⟨fun _ _ => rfl, named, .inl rfl, Nat.le_refl _, nothing _, idle, kept⟩
  | answer => exact ⟨fun _ _ => rfl, named, .inl rfl, Nat.le_refl _, nothing _, idle, kept⟩
  | confirm => exact ⟨fun _ _ => rfl, named, .inl rfl, Nat.le_refl _, nothing _, idle, kept⟩
  | conclude =>
    have absent : v.entry (.temporary i) = none := named
    rw [Volume.unlink_absent absent]
    exact ⟨fun _ _ => rfl, named, .inl rfl, Nat.le_refl _, nothing _, idle, kept⟩
  | idle => exact ⟨fun _ _ => rfl, named, .inl rfl, Nat.le_refl _, nothing _, idle, kept⟩

/-- No call writes the file any more. -/
def Frozen (s : System ι) (n : Nat) : Prop :=
  n < s.volume.next ∧ ∀ i, (s.phase i).works ≠ some n

omit [DecidableEq ι] in
theorem works_temporary {phase : Phase} {n : Nat} (works : phase.works = some n) :
    phase.temporary = some n := by
  cases phase <;> first | exact works | cases works

/-- Temporary names stand for the files of their calls, and the leaf for one that no call
writes any more. -/
structure Named (calls : ι → Call) (s : System ι) : Prop where
  bound : ∀ name n, s.volume.entry name = some n → n < s.volume.next
  temporary : ∀ i, s.volume.entry (.temporary i) = (s.phase i).temporary
  apart : ∀ i j n, (s.phase i).temporary = some n → (s.phase j).temporary = some n → i = j
  target : ∀ t, s.volume.entry .target = some t → Frozen s t
  reads : ∀ i, (calls i).writes = false → (s.phase i).temporary = none

variable {calls : ι → Call} {s : System ι}

theorem step_other {i j : ι} (granted : Nat) (apart : j ≠ i) :
    (s.step calls (.run i granted)).phase j = s.phase j :=
  Function.update_of_ne apart _ _

theorem step_own (i : ι) (granted : Nat) : (s.step calls (.run i granted)).phase i =
    ((calls i).step i granted s.volume (s.phase i)).2 :=
  Function.update_self _ _ _

theorem Named.move (named : Named calls s) (i : ι) (granted : Nat) :
    Move (calls i) i s.volume granted (s.phase i) (s.step calls (.run i granted)).volume
      ((s.step calls (.run i granted)).phase i) := by
  rw [step_own]
  exact step_moves _ _ _ _ _ (named.reads i)

theorem Named.effect (named : Named calls s) (i : ι) (granted : Nat) :
    Effect i s.volume (s.phase i) (s.step calls (.run i granted)).volume
      ((s.step calls (.run i granted)).phase i) :=
  (named.move i granted).effect (named.temporary i)

/-- A file that no call writes stays so, and keeps its content. -/
theorem Named.frozen (named : Named calls s) (action : Action ι) {n : Nat} (frozen : Frozen s n) :
    Frozen (s.step calls action) n ∧
      (s.step calls action).volume.content n = s.volume.content n := by
  cases action with
  | tick elapsed => exact ⟨frozen, rfl⟩
  | run i granted =>
    have effect := named.effect i granted
    refine ⟨⟨Nat.lt_of_lt_of_le frozen.1 effect.grows, fun j works => ?_⟩,
      effect.content n frozen.1 (frozen.2 i)⟩
    by_cases same : j = i
    · subst same
      rcases effect.works n works with before | fresh
      · exact frozen.2 j before
      · exact Nat.lt_irrefl n (fresh ▸ frozen.1)
    · rw [step_other granted same] at works
      exact frozen.2 j works

omit [DecidableEq ι] in
theorem Named.begun (named : Named calls s) {i : ι} {n : Nat}
    (temporary : (s.phase i).temporary = some n) : n < s.volume.next :=
  named.bound _ _ ((named.temporary i).trans temporary)

theorem Named.step (named : Named calls s) (action : Action ι) :
    Named calls (s.step calls action) := by
  cases action with
  | tick elapsed => exact ⟨named.bound, named.temporary, named.apart, named.target, named.reads⟩
  | run i granted =>
    have effect := named.effect i granted
    have move := named.move i granted
    generalize after : s.step calls (.run i granted) = s' at effect move
    have other {j : ι} (apart : j ≠ i) : s'.phase j = s.phase j := by
      rw [← after, step_other granted apart]
    -- A name that the step gives was a name of the call's own file or of a new one.
    have given {n : Nat} (temporary : (s'.phase i).temporary = some n) : n < s'.volume.next := by
      rcases effect.temporary n temporary with before | ⟨rfl, later⟩
      · exact Nat.lt_of_lt_of_le (named.begun before) effect.grows
      · rw [later]
        exact Nat.lt_succ_self _
    have temporary (j : ι) : s'.volume.entry (.temporary j) = (s'.phase j).temporary := by
      by_cases same : j = i
      · subst same
        exact effect.own
      · rw [other same, effect.others j same, named.temporary j]
    have target {t : Nat} (found : s'.volume.entry .target = some t) : Frozen s' t := by
      rcases effect.target with kept | ⟨n, ready, finished, moved, _⟩
      · rw [kept] at found
        rw [← after]
        exact (named.frozen (.run i granted) (named.target t found)).1
      · rw [moved, Option.some.injEq] at found
        subst found
        have working : (s.phase i).works = some n := congrArg Phase.works ready
        have own := named.begun (works_temporary working)
        refine ⟨Nat.lt_of_lt_of_le own effect.grows, fun j works => ?_⟩
        by_cases same : j = i
        · subst same
          rw [finished] at works
          cases works
        · rw [other same] at works
          exact same (named.apart j i n (works_temporary works) (works_temporary working))
    refine ⟨fun name n found => ?_, temporary, fun j k n first second => ?_, fun t => target,
      fun j reads => ?_⟩
    · cases name with
      | target => exact (target found).1
      | temporary j =>
        by_cases same : j = i
        · subst same
          rw [temporary] at found
          exact given found
        · rw [effect.others j same] at found
          exact Nat.lt_of_lt_of_le (named.bound _ _ found) effect.grows
    · have alone {j : ι} (apart : j ≠ i) (own : (s'.phase i).temporary = some n)
          (foreign : (s'.phase j).temporary = some n) : False := by
        rw [other apart] at foreign
        rcases effect.temporary n own with before | ⟨rfl, _⟩
        · exact apart (named.apart j i n foreign before)
        · exact Nat.lt_irrefl _ (named.begun foreign)
      by_cases here : j = i
      · subst here
        by_cases there : k = j
        · exact there.symm
        · exact absurd second (alone there first)
      · by_cases there : k = i
        · subst there
          exact absurd first (alone here second)
        · rw [other here] at first
          rw [other there] at second
          exact named.apart j k n first second
    · by_cases same : j = i
      · subst same
        exact move.reads reads (named.reads j reads)
      · rw [other same]
        exact named.reads j reads

omit [DecidableEq ι] in
theorem named_initial : Named calls (System.initial : System ι) where
  bound name n found := by cases found
  temporary i := rfl
  apart i j n temporary := by cases temporary
  target t found := by cases found
  reads i _ := rfl

/-- What holds at the beginning and is kept by every step holds after every run. -/
theorem run_keeps {P : System ι → Prop} (initial : P System.initial)
    (step : ∀ s action, P s → P (s.step calls action)) (actions : List (Action ι)) :
    P (System.run calls actions) :=
  List.foldlRecOn actions _ initial fun s kept action _ => step s action kept

theorem named_run (actions : List (Action ι)) : Named calls (System.run calls actions) :=
  run_keeps named_initial (fun _ action named => named.step action) actions

end Anastom.PrivatePath
