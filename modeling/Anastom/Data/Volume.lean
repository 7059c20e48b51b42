import Mathlib.Logic.Function.Basic

/-! The names of one directory and the files behind them. A file is changed under its
number, whatever names it has; what changes a file or the number of its names sets its
change time to the present time of the file system. -/
namespace Anastom

structure Inode where
  content : List UInt8
  mtime : Nat
  ctime : Nat

/-- What `stat` tells about a file. -/
structure Stat where
  ino : Nat
  size : Nat
  mtime : Nat
  ctime : Nat
  deriving DecidableEq, Repr

/-- Numbers are given out in order and not given out again. -/
structure Volume (Name : Type) where
  entry : Name → Option Nat
  inode : Nat → Inode
  next : Nat
  clock : Nat

namespace Volume
variable {Name : Type} (v : Volume Name) (name other : Name) (n : Nat)

def content : List UInt8 := (v.inode n).content

def stat : Stat where
  ino := n
  size := (v.content n).length
  mtime := (v.inode n).mtime
  ctime := (v.inode n).ctime

/-- Time passes. -/
def tick (elapsed : Nat) : Volume Name := { v with clock := v.clock + elapsed }

/-- Bytes are appended. -/
def append (bytes : List UInt8) : Volume Name :=
  { v with inode := Function.update v.inode n ⟨v.content n ++ bytes, v.clock, v.clock⟩ }

/-- Something about a file other than its content is changed. -/
def change : Volume Name :=
  { v with inode := Function.update v.inode n { v.inode n with ctime := v.clock } }

/-- The file behind a name loses it, and so is changed. -/
def displace : Volume Name :=
  match v.entry name with
  | none => v
  | some n => v.change n

section
variable [DecidableEq Name]

/-- A file without content, under a name that was free. -/
def create : Volume Name where
  entry := Function.update v.entry name (some v.next)
  inode := Function.update v.inode v.next ⟨[], v.clock, v.clock⟩
  next := v.next + 1
  clock := v.clock

/-- A file gets a second name, which was free. -/
def link : Volume Name :=
  { v.change n with entry := Function.update v.entry name (some n) }

/-- A name is given up. -/
def unlink : Volume Name :=
  match v.entry name with
  | none => v
  | some n => { v.change n with entry := Function.update v.entry name none }

/-- A file gives up its name for another one, whose file, if it has one, is another file. -/
def rename : Volume Name :=
  match v.entry name with
  | none => v
  | some n =>
    { (v.displace other).change n with
      entry := Function.update (Function.update v.entry other (some n)) name none }

end

variable {v name other n} {m : Nat}

theorem stat_eq {w : Volume Name} (same : w.inode n = v.inode n) : w.stat n = v.stat n := by
  rw [stat, stat, content, content, same]

@[simp] theorem tick_stat (elapsed : Nat) : (v.tick elapsed).stat = v.stat := rfl

@[simp] theorem tick_content (elapsed : Nat) : (v.tick elapsed).content = v.content := rfl

@[simp] theorem tick_entry (elapsed : Nat) : (v.tick elapsed).entry = v.entry := rfl

@[simp] theorem tick_next (elapsed : Nat) : (v.tick elapsed).next = v.next := rfl

@[simp] theorem change_entry : (v.change n).entry = v.entry := rfl

@[simp] theorem change_next : (v.change n).next = v.next := rfl

@[simp] theorem append_entry (bytes : List UInt8) : (v.append n bytes).entry = v.entry := rfl

@[simp] theorem append_next (bytes : List UInt8) : (v.append n bytes).next = v.next := rfl

theorem append_inode {bytes : List UInt8} (apart : m ≠ n) :
    (v.append n bytes).inode m = v.inode m :=
  Function.update_of_ne apart _ _

theorem append_content (bytes : List UInt8) :
    (v.append n bytes).content n = v.content n ++ bytes := by
  unfold append content
  dsimp only
  rw [Function.update_self]

theorem change_inode (apart : m ≠ n) : (v.change n).inode m = v.inode m :=
  Function.update_of_ne apart _ _

@[simp] theorem change_content : (v.change n).content m = v.content m := by
  unfold content change
  dsimp only
  by_cases same : m = n
  · rw [same, Function.update_self]
  · rw [Function.update_of_ne same]

/-- At the present time nothing shows that a file is changed again. -/
theorem change_now (now : (v.inode n).ctime = v.clock) : v.change n = v := by
  unfold change
  have same : { v.inode n with ctime := v.clock } = v.inode n := by rw [← now]
  rw [same, Function.update_eq_self]

@[simp] theorem displace_next : (v.displace name).next = v.next := by
  unfold displace
  split <;> rfl

@[simp] theorem displace_content : (v.displace name).content m = v.content m := by
  unfold displace
  split
  · rfl
  · exact change_content

section
variable [DecidableEq Name]

@[simp] theorem create_next : (v.create name).next = v.next + 1 := rfl

@[simp] theorem link_next : (v.link name n).next = v.next := rfl

@[simp] theorem unlink_next : (v.unlink name).next = v.next := by
  unfold unlink
  split <;> rfl

theorem create_inode (old : m ≠ v.next) : (v.create name).inode m = v.inode m :=
  Function.update_of_ne old _ _

theorem create_content : (v.create name).content v.next = [] := by
  unfold create content
  dsimp only
  rw [Function.update_self]

theorem create_entry : (v.create name).entry = Function.update v.entry name (some v.next) := rfl

@[simp] theorem link_content : (v.link name n).content m = v.content m := change_content

theorem link_entry : (v.link name n).entry = Function.update v.entry name (some n) := rfl

theorem unlink_inode (apart : v.entry name ≠ some m) :
    (v.unlink name).inode m = v.inode m := by
  unfold unlink
  split
  · rfl
  case _ n found =>
    refine change_inode fun same => apart ?_
    rw [found, same]

@[simp] theorem unlink_content : (v.unlink name).content m = v.content m := by
  unfold unlink
  split
  · rfl
  · exact change_content

theorem unlink_entry : (v.unlink name).entry = Function.update v.entry name none := by
  unfold unlink
  split
  case _ absent => rw [← absent, Function.update_eq_self]
  · rfl

/-- A name that is free can be given up again. -/
theorem unlink_absent (absent : v.entry name = none) : v.unlink name = v := by
  unfold unlink
  rw [absent]

theorem unlink_now (found : v.entry name = some n) (now : (v.inode n).ctime = v.clock) :
    (v.unlink name).inode = v.inode := by
  have same := congrArg Volume.inode (change_now now)
  unfold unlink
  rw [found]
  exact same

@[simp] theorem rename_next : (v.rename name other).next = v.next := by
  unfold rename
  split
  · rfl
  · exact displace_next

theorem rename_entry (found : v.entry name = some n) : (v.rename name other).entry =
    Function.update (Function.update v.entry other (some n)) name none := by
  unfold rename
  rw [found]

@[simp] theorem rename_content : (v.rename name other).content m = v.content m := by
  unfold rename
  split
  · rfl
  · exact change_content.trans displace_content

end
end Volume
end Anastom
