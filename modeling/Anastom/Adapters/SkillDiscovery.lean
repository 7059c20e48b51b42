import Anastom.Core.KeyOrder
import Anastom.Data.DirectoryGraph
import Anastom.Data.Exploration
import Anastom.Engine.EventValidation

/-! The discovery of the skills that a bounded worker must not use. The search follows
directories and links to directories, enters each directory once by its canonical path, and
gives up rather than skip anything. It reads names as text: what is not UTF-8 it looks up
under another name. -/
namespace Anastom

/-- The names of a path as Node decodes them; a separator ends what is no character. -/
def decodePath (path : BytePath) : List String := path.map Utf8.decodeLossy

def encodePath (path : List String) : BytePath := path.map Utf8.encode

namespace DirectoryGraph
variable (graph : DirectoryGraph)

/-- `realpath(path)` -/
def realpathText (path : List String) : Except Errno (List String) :=
  (graph.realpath (encodePath path)).map decodePath

/-- `lstat(path)` -/
def lstatText (path : List String) : Except Errno FileNode := graph.lstat (encodePath path)

/-- The names of the entries that `readdir(path)` yields. -/
def readdirText (path : List String) : Except Errno (List String) :=
  (graph.readdir (encodePath path)).map decodePath

end DirectoryGraph

def Errno.failure : Errno → Failure
  | .noEntry => .error "ENOENT: no such file or directory"
  | .notDirectory => .error "ENOTDIR: not a directory"
  | .loop => .error "ELOOP: too many symbolic links encountered"

/-- A rejected file system call. -/
def awaited {α : Type} : Except Errno α → Except Failure α
  | .ok a => .ok a
  | .error errno => .error errno.failure

/-- The selectors and the visited directories of a scan, and what it has used of its budget. -/
structure Inventory where
  paths : List String := []
  visited : List (List String) := []
  entries : Nat := 0
  bytes : Nat := 0
  deriving Repr

/-- `set.add(value)` -/
def addTo (value : String) (set : List String) : List String :=
  if value ∈ set then set else set ++ [value]

/-- An entry that is no directory. -/
def addSelector (graph : DirectoryGraph) (directory : List String) (name : String)
    (inventory : Inventory) : Except Failure Inventory :=
  if name = "SKILL.md" then do
    let target ← awaited (graph.realpathText (directory ++ [name]))
    let paths := addTo (PosixPath.render target) inventory.paths
    let bytes := inventory.bytes + (PosixPath.render target).utf8ByteSize
    require (decide (paths.length ≤ 512 ∧ bytes ≤ 65536))
      (.error "Discovery selector inventory exceeded")
    pure { inventory with paths, bytes }
  else pure inventory

/-- One entry of a directory, with `scan` for the directories that it leads to. -/
def scanEntry (graph : DirectoryGraph)
    (scan : List String → Inventory → Except Failure Inventory) (directory : List String)
    (inventory : Inventory) (name : String) : Except Failure Inventory := do
  require (decide (inventory.entries + 1 ≤ 4096)) (.error "Discovery inventory exceeded")
  let inventory := { inventory with entries := inventory.entries + 1 }
  let metadata ← awaited (graph.lstatText (directory ++ [name]))
  if metadata.isDirectory || metadata.isSymbolicLink then do
    let target ← awaited (graph.realpathText (directory ++ [name]))
    let node ← awaited (graph.lstatText target)
    if node.isDirectory then scan target inventory
    else addSelector graph directory name inventory
  else addSelector graph directory name inventory

/-- A scan may go on for as many levels as its depth is from 65; at depth 0 a path that does
not exist is no root. -/
def scanRoot (graph : DirectoryGraph) : Nat → List String → Inventory → Except Failure Inventory
  | 0, _, _ => .error (.error "Discovery scan depth exceeded")
  | levels + 1, path, inventory =>
    match graph.realpathText path with
    | .error errno =>
      if errno = .noEntry ∧ levels = 64 then .ok inventory else .error errno.failure
    | .ok canonical =>
      if canonical ∈ inventory.visited then .ok inventory
      else do
        let names ← awaited (graph.readdirText canonical)
        names.foldlM (scanEntry graph (scanRoot graph levels) canonical)
          { inventory with visited := inventory.visited ++ [canonical] }

/-- The two namespaces of a directory. -/
def scanNamespaces (graph : DirectoryGraph) (ancestor : List String) (inventory : Inventory) :
    Except Failure Inventory :=
  [".agents", ".codex"].foldlM
    (fun inventory namespace_ => scanRoot graph 65 (ancestor ++ [namespace_, "skills"]) inventory)
    inventory

/-- The ancestors that the loop may still see, from one of them up. -/
def scanAncestors (graph : DirectoryGraph) : Nat → List String → Inventory →
    Except Failure Inventory
  | 0, _, _ => .error (.error "Ancestor inventory exceeded")
  | left + 1, ancestor, inventory => do
    let inventory ← scanNamespaces graph ancestor inventory
    if ancestor.dropLast = ancestor then pure inventory
    else scanAncestors graph left ancestor.dropLast inventory

def inventorySkills (graph : DirectoryGraph) (workspace : List String) :
    Except Failure Inventory := do
  let ancestor ← awaited (graph.realpathText workspace)
  let inventory ← scanAncestors graph 64 ancestor {}
  scanRoot graph 65 ["etc", "codex", "skills"] inventory

def discoveryFailure : Failure :=
  .preflight .policyViolation "Codex skill discovery inventory is incomplete or exceeds the bounded profile; remove or isolate unsupported discovery roots"

/-- Inventory canonical skill selectors without reading bodies; incomplete or oversized scans
fail closed. -/
def disabledSkillPaths (graph : DirectoryGraph) (workspace : List String) :
    Except Failure (List String) :=
  match inventorySkills graph workspace with
  | .ok inventory => .ok (inventory.paths.insertionSort fun a b => Json.keyLe a b)
  | .error _ => .error discoveryFailure

/-- The bytes of the text of a path. -/
def renderBytes (path : BytePath) : Bytes := 47 :: [47].intercalate path

def skillName : Bytes := Utf8.encode "SKILL.md"

namespace DirectoryGraph
variable (graph : DirectoryGraph) (workspace : List String)

/-- One entry, or link, from a directory to another. -/
def Leads (directory target : BytePath) : Prop :=
  ∃ names, graph.readdir directory = .ok names ∧ ∃ name ∈ names,
    graph.realpath (directory ++ [name]) = .ok target ∧ graph.IsDirectory target

/-- The bytes of the canonical path of an entry that is named as a skill and is no directory. -/
def Selects (directory : BytePath) (path : Bytes) : Prop :=
  ∃ names, graph.readdir directory = .ok names ∧ skillName ∈ names ∧
    ∃ target, graph.realpath (directory ++ [skillName]) = .ok target ∧
      ¬graph.IsDirectory target ∧ path = renderBytes target

def agentsRoot : BytePath := encodePath [".agents", "skills"]

def codexRoot : BytePath := encodePath [".codex", "skills"]

/-- The discovery roots of a workspace: those of its directory and of each directory above
it, and the root of the machine. -/
def DiscoveryRoot (path : BytePath) : Prop :=
  (∃ canonical, graph.realpath (encodePath workspace) = .ok canonical ∧
    ∃ ancestor, ancestor <+: canonical ∧
      (path = ancestor ++ agentsRoot ∨ path = ancestor ++ codexRoot)) ∨
  path = encodePath ["etc", "codex", "skills"]

/-- The directory that a discovery root leads to. -/
def Root (directory : BytePath) : Prop :=
  ∃ path, graph.DiscoveryRoot workspace path ∧ graph.realpath path = .ok directory ∧
    graph.IsDirectory directory

/-- A directory that a discovery has to search. -/
def Searched (directory : BytePath) : Prop :=
  ∃ root, graph.Root workspace root ∧ Relation.ReflTransGen graph.Leads root directory

/-- The discovery fails, or it lists in order and once each the canonical path of every skill in
every directory that it has to search, and nothing else. -/
def Complete : Prop :=
  disabledSkillPaths graph workspace = .error discoveryFailure ∨
  ∃ paths, disabledSkillPaths graph workspace = .ok paths ∧
    paths.Pairwise (fun a b => Json.keyLe a b = true) ∧ paths.Nodup ∧
    ∀ path, path ∈ paths.map Utf8.encode ↔ ∃ root directory, graph.Root workspace root ∧
      Relation.ReflTransGen graph.Leads root directory ∧ graph.Selects directory path

end DirectoryGraph

def Inventory.exploration (inventory : Inventory) : Exploration BytePath Bytes where
  visited := inventory.visited.map encodePath
  found := inventory.paths.map Utf8.encode

section Scan
variable {graph : DirectoryGraph} {workspace : List String} {inventory middle after : Inventory}
  {directory path target : BytePath} {name : String} {α : Type}

/-- The scan has gone from one inventory to another. -/
abbrev Scanned (graph : DirectoryGraph) (before after : Inventory) : Prop :=
  Exploration.Explores graph.Leads graph.Selects before.exploration after.exploration

/-- Each path is listed once, and only what the search may list. -/
structure Valid (graph : DirectoryGraph) (workspace : List String) (inventory : Inventory) :
    Prop where
  distinct : inventory.paths.Nodup
  sound : Exploration.Sound graph.Leads graph.Selects (graph.Root workspace) inventory.exploration

/-- The entry is there, and all that it stands for is in the inventory. -/
structure Handled (graph : DirectoryGraph) (directory : BytePath) (inventory : Inventory)
    (name : Bytes) : Prop where
  present : ∃ node, graph.lstat (directory ++ [name]) = .ok node
  entered : ∀ target, graph.realpath (directory ++ [name]) = .ok target →
    graph.IsDirectory target → target ∈ inventory.exploration.visited
  selected : name = skillName → ∀ target, graph.realpath (directory ++ [name]) = .ok target →
    ¬graph.IsDirectory target → renderBytes target ∈ inventory.exploration.found

/-- A root, once it was scanned, has been entered if it is there. -/
def Entered (graph : DirectoryGraph) (inventory : Inventory) (path : BytePath) : Prop :=
  ∀ canonical, graph.realpath path = .ok canonical → graph.IsDirectory canonical →
    canonical ∈ inventory.exploration.visited

theorem map_ok {β : Type} {call : Except Errno α} {f : α → β} {b : β} :
    call.map f = .ok b ↔ ∃ a, call = .ok a ∧ f a = b := by
  cases call <;> simp [Except.map]

theorem DirectoryGraph.Searched.isDirectory (searched : graph.Searched workspace directory) :
    graph.IsDirectory directory := by
  obtain ⟨root, ⟨_, _, _, isDirectory⟩, leads⟩ := searched
  cases leads with
  | refl => exact isDirectory
  | tail _ leads =>
    obtain ⟨_, _, _, _, _, isDirectory⟩ := leads
    exact isDirectory

theorem DirectoryGraph.Searched.leads (searched : graph.Searched workspace directory)
    (leads : graph.Leads directory target) : graph.Searched workspace target := by
  obtain ⟨root, isRoot, path⟩ := searched
  exact ⟨root, isRoot, path.tail leads⟩

theorem Handled.later {name : Bytes} (handled : Handled graph directory inventory name)
    (scanned : Scanned graph inventory after) : Handled graph directory after name where
  present := handled.present
  entered target leads isDirectory :=
    scanned.visited (handled.entered target leads isDirectory)
  selected named target leads notDirectory :=
    scanned.found (handled.selected named target leads notDirectory)

theorem Entered.later (entered : Entered graph inventory path)
    (scanned : Scanned graph inventory after) : Entered graph after path :=
  fun canonical leads isDirectory => scanned.visited (entered canonical leads isDirectory)

theorem Valid.searched (valid : Valid graph workspace inventory)
    (entered : directory ∈ inventory.exploration.visited) : graph.Searched workspace directory := by
  obtain ⟨first, isRoot, path⟩ := valid.sound.visited directory entered
  exact ⟨first, isRoot, path⟩

theorem Valid.counted (valid : Valid graph workspace inventory) (entries : Nat) :
    Valid graph workspace { inventory with entries } := ⟨valid.distinct, valid.sound⟩

variable {scan : List String → Inventory → Except Failure Inventory}

end Scan

end Anastom
