import TenantSync.Machine.OsFault
import TenantSync.Machine.Path
import TenantSync.Store.Basic
import TenantSync.Text.Utf8

/-! # Files

A `FileTree` says what stands at which place; a place is the list of the names that lead
to it from the root, which is always a directory.  `FileTree.locate` finds the place of a
path, `FileTree.readText` reads a file and `FileTree.makeDirectories` creates a directory
together with those above it. -/

namespace TenantSync

/-- What stands at a place. -/
inductive FileNode where
  | directory
  | file (bytes : List UInt8)
  /-- A file that the database machinery wrote. -/
  | database (tables : Store.Tables)

/-- The names that lead from the root to a place. -/
abbrev Place := List String

/-- What stands where.  Of two entries for one place the first counts. -/
structure FileTree where
  entries : List (Place × FileNode) := []
  deriving Inhabited

namespace FileTree

/-- What stands at a place. -/
def node? (t : FileTree) (p : Place) : Option FileNode :=
  if p.isEmpty then some .directory else (t.entries.find? (·.1 == p)).map (·.2)

/-- The tree with something put at a place. -/
def put (t : FileTree) (p : Place) (n : FileNode) : FileTree :=
  ⟨(p, n) :: t.entries.filter (·.1 ≠ p)⟩

/-- The tree with something put at a place and directories above it. -/
def plant (t : FileTree) (p : Place) (n : FileNode) : FileTree :=
  ((List.range p.length).foldl (fun t k => t.put (p.take k) .directory) t).put p n

/-- Whether a directory stands at a place. -/
def isDirectory (t : FileTree) (p : Place) : Bool := t.node? p matches some .directory

/-- The longest name, in bytes. -/
def longestName : Nat := 255

/-- The longest path, in bytes. -/
def longestPath : Nat := 4095

/-- Passes only through directories. -/
def passThrough (t : FileTree) (p : Place) : Except OsFault Unit :=
  match t.node? p with
  | some .directory => .ok ()
  | some _ => .error .notDirectory
  | none => .error .notFound

/-- Follows names from a place; nothing needs to stand at the last one. -/
def walk (t : FileTree) : Place → List String → Except OsFault Place
  | here, [] => .ok here
  | here, name :: rest => do
    t.passThrough here
    if name.utf8ByteSize > longestName then throw .nameTooLong
    walk t (Path.follow here name) rest

/-- The place of a path that is followed from a directory. -/
def locate (t : FileTree) (cwd : Place) (path : String) : Except OsFault Place :=
  if path.toList.contains '\x00' then .error .nulByte
  else if path.utf8ByteSize > longestPath then .error .nameTooLong
  else if path.isEmpty then .error .notFound
  else t.walk (if Path.isAbsolute path then [] else cwd) (Path.names path)

/-- The text in a file. -/
def readText (t : FileTree) (cwd : Place) (path : String) : Except OsFault String := do
  match t.node? (← t.locate cwd path) with
  | none => throw .notFound
  | some .directory => throw .isDirectory
  | some (.database _) => throw .notText
  | some (.file bytes) =>
    match Utf8.decode bytes with
    | .ok text => return text
    | .error _ => throw .notText

/-- Whether a path leads to a directory. -/
def leadsToDirectory (t : FileTree) (cwd : Place) (path : String) : Bool :=
  match t.locate cwd path with
  | .ok p => t.isDirectory p
  | .error _ => false

/-- Creates one directory, in a directory that is there. -/
def makeDirectory (t : FileTree) (cwd : Place) (path : String) : Except OsFault FileTree := do
  let p ← t.locate cwd path
  match t.node? p with
  | some _ => throw .alreadyExists
  | none => return t.put p .directory

/-- Creates one directory unless it is there. -/
def ensureDirectory (t : FileTree) (cwd : Place) (path : String) : Except OsFault FileTree :=
  match t.makeDirectory cwd path with
  | .ok t => .ok t
  | .error f => if t.leadsToDirectory cwd path then .ok t else .error f

/-- Creates a directory and those above it.  `fuel` bounds how many are missing. -/
def makeDirectoriesUpTo (t : FileTree) (cwd : Place) :
    Nat → String → Except OsFault FileTree
  | 0, _ => .ok t
  | fuel + 1, path =>
    if path.isEmpty then .ok t
    else
      match t.ensureDirectory cwd path with
      | .error .notFound => do
        match Path.parent? path with
        | none => throw .notFound
        | some above => (← t.makeDirectoriesUpTo cwd fuel above).ensureDirectory cwd path
      | result => result

/-- Creates a directory and those above it, as far as they are missing. -/
def makeDirectories (t : FileTree) (cwd : Place) (path : String) : Except OsFault FileTree :=
  t.makeDirectoriesUpTo cwd (path.length + 1) path

end FileTree

end TenantSync
