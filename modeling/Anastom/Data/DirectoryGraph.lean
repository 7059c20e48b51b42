import Anastom.Data.LossyUtf8
import Anastom.Data.Outcomes
import Anastom.Data.PosixPath

/-! Directories, files and symbolic links, and the canonical path that the links on a path
lead to. A name is any bytes; a program that reads names as text sees U+FFFD for what is not
UTF-8. Links may lead anywhere: to each other, to a directory that they stand in, to a
directory that other links lead to, or nowhere. -/
namespace Anastom

/-- The names on an absolute path. -/
abbrev BytePath := List Bytes

/-- A node of a file system. A link holds the names on its target, from the root or from the
directory of the link. -/
inductive FileNode where
  | file
  | directory (entries : List (Bytes × FileNode))
  | link (absolute : Bool) (target : BytePath)
  deriving Repr

inductive Errno where
  | noEntry
  | notDirectory
  | loop
  deriving DecidableEq, Repr

/-- `.` -/
def currentName : Bytes := [46]

/-- `..` -/
def parentName : Bytes := [46, 46]

namespace FileNode

def entries : FileNode → List (Bytes × FileNode)
  | .directory entries => entries
  | _ => []

def isDirectory : FileNode → Bool
  | .directory _ => true
  | _ => false

def isSymbolicLink : FileNode → Bool
  | .link .. => true
  | _ => false

/-- The node at a path, with no link followed. -/
def lookup : FileNode → BytePath → Option FileNode
  | node, [] => some node
  | node, name :: rest => (node.entries.lookup name).bind fun child => child.lookup rest

end FileNode

/-- A name that an entry of a directory can have. -/
def plainName (name : Bytes) : Bool :=
  name != [] && name != currentName && name != parentName && !name.contains 47 && !name.contains 0

mutual
/-- Every name of an entry, at any depth, is of a kind. -/
def FileNode.named (kind : Bytes → Bool) : FileNode → Bool
  | .directory entries => namedEntries kind entries
  | _ => true
def namedEntries (kind : Bytes → Bool) : List (Bytes × FileNode) → Bool
  | [] => true
  | (name, node) :: rest => kind name && node.named kind && namedEntries kind rest
end

/-- The file system under a root directory; a path that leads through more links than
`maxLinks` has no canonical path. -/
structure DirectoryGraph where
  entries : List (Bytes × FileNode)
  maxLinks : Nat
  plain : namedEntries plainName entries = true

namespace DirectoryGraph

/-- Walk along names from a directory, with `follow` for the rest of a path behind a link. -/
def resolve (root : FileNode) (follow : BytePath → BytePath → Except Errno BytePath) :
    BytePath → BytePath → Except Errno BytePath
  | directory, [] => .ok directory
  | directory, name :: rest =>
    if name = [] ∨ name = currentName then resolve root follow directory rest
    else if name = parentName then resolve root follow directory.dropLast rest
    else match root.lookup (directory ++ [name]) with
      | none => .error .noEntry
      | some (.directory _) => resolve root follow (directory ++ [name]) rest
      | some (.link absolute target) => follow (if absolute then [] else directory) (target ++ rest)
      | some .file => if rest = [] then .ok (directory ++ [name]) else .error .notDirectory

def resolveWithin (root : FileNode) : Nat → BytePath → BytePath → Except Errno BytePath
  | 0 => resolve root fun _ _ => .error .loop
  | links + 1 => resolve root (resolveWithin root links)

variable (graph : DirectoryGraph)

def root : FileNode := .directory graph.entries

def IsDirectory (path : BytePath) : Prop :=
  ∃ node, graph.root.lookup path = some node ∧ node.isDirectory = true

/-- The canonical path of an absolute path. -/
def realpath (path : BytePath) : Except Errno BytePath :=
  resolveWithin graph.root graph.maxLinks [] path

/-- The entry that a path ends in, with no link followed there. -/
def lstat (path : BytePath) : Except Errno FileNode :=
  match path.getLast? with
  | none => .ok graph.root
  | some name => do
    let parent ← graph.realpath path.dropLast
    match graph.root.lookup parent with
    | some (.directory entries) =>
      match entries.lookup name with
      | none => .error .noEntry
      | some node => .ok node
    | _ => .error .notDirectory

/-- The names of the entries of a directory. -/
def readdir (path : BytePath) : Except Errno (List Bytes) := do
  match graph.root.lookup (← graph.realpath path) with
  | some (.directory entries) => .ok (entries.map Prod.fst)
  | _ => .error .notDirectory

end DirectoryGraph

theorem FileNode.lookup_append {root : FileNode} (path rest : BytePath) :
    root.lookup (path ++ rest) = (root.lookup path).bind fun node => node.lookup rest := by
  induction path generalizing root with
  | nil => rfl
  | cons name path ih =>
    rw [List.cons_append, lookup, lookup]
    cases root.entries.lookup name with
    | none => rfl
    | some child => exact ih

namespace DirectoryGraph
variable {graph : DirectoryGraph} {path : BytePath} {node : FileNode}

theorem isDirectory_iff :
    graph.IsDirectory path ↔ ∃ entries, graph.root.lookup path = some (.directory entries) := by
  constructor
  · rintro ⟨node, found, isDirectory⟩
    cases node with
    | directory entries => exact ⟨entries, found⟩
    | _ => cases isDirectory
  · rintro ⟨entries, found⟩
    exact ⟨_, found, rfl⟩

/-- What a path leads to is there, and is no link. -/
def Canonical (graph : DirectoryGraph) (path : BytePath) : Prop :=
  ∃ node, graph.root.lookup path = some node ∧ node.isSymbolicLink = false

theorem IsDirectory.canonical (isDirectory : graph.IsDirectory path) : graph.Canonical path := by
  obtain ⟨entries, found⟩ := isDirectory_iff.mp isDirectory
  exact ⟨_, found, rfl⟩

end DirectoryGraph
end Anastom
