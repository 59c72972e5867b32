import TenantSync.Machine.Basic
import TenantSync.Store.Contexts
import TenantSync.Store.Target

/-! # Opening the store

The store is a database in a file, or in memory.  Opening it creates the file, the
directories above it and the tables, as far as they are missing.  A `Handle` is a store
that was opened, and `Handle.run` runs a program on it. -/

namespace TenantSync.Store

/-- Where the store is when nothing else is said. -/
def defaultPath (m : Machine) : Outcome String :=
  match m.configDirectory? with
  | some directory => .ok (Path.join (Path.join directory "authz-sync") "config.db")
  | none => .error (Failure.of .noConfigDirectory)

/-- What opening the store at a path writes to the log. -/
def openingNotice (path : String) : LogLine :=
  ⟨.debug, .store, s!"Opening config database at {path}"⟩

/-- Creates the directories above a path. -/
def makeParents (m : Machine) (path : String) : Outcome Machine :=
  match Path.parent? path with
  | none => .ok m
  | some above =>
    match m.files.makeDirectories m.directory above with
    | .ok files => .ok { m with files }
    | .error f => Failure.during (.creatingDirectory above) (.error (Failure.of (.file f)))

/-! ## A store that was opened -/

/-- The database in the file at a place. -/
def databaseAt (files : FileTree) (p : Place) : Except DatabaseFault Tables :=
  match files.node? p with
  | some (.database tables) => .ok tables
  | some (.file []) => .ok Tables.empty
  | some (.file _) => .error .notDatabase
  | some .directory => .error .cannotOpen
  | none => .ok Tables.empty

/-- A store that was opened. -/
structure Handle where
  /-- The place of its file; a store in memory has none. -/
  place? : Option Place
  readOnly : Bool := false

namespace Handle

/-- The tables of a store. -/
def tables (h : Handle) (m : Machine) : Except DatabaseFault Tables :=
  match h.place? with
  | some p => databaseAt m.files p
  | none => .ok m.memory

/-- The machine with other tables in a store. -/
def put (h : Handle) (t : Tables) (m : Machine) : Machine :=
  match h.place? with
  | some p => { m with files := m.files.put p (.database t) }
  | none => { m with memory := t }

/-- Runs a program on a store. -/
def run {α : Type} (h : Handle) (p : Program α) (m : Machine) : Outcome α × Machine :=
  match h.tables m with
  | .error f => (p.refused f, m)
  | .ok t => if h.readOnly then (p.read t, m) else ((p.run t).1, h.put (p.run t).2 m)

end Handle

/-! ## Finding the file -/

/-- The longest path of a database, in bytes. -/
def longestPath : Nat := 504

/-- The longest path on the way to one. -/
def longestWay : Nat := 511

/-- The length of the path to a place, in bytes. -/
def pathSize (p : Place) : Nat := p.foldl (fun n name => n + 1 + name.utf8ByteSize) 0

/-- Follows one name.  The way may lead through what is missing, but not through a file. -/
def follow (files : FileTree) (here : Place) (name : String) : Except DatabaseFault Place :=
  let there := Path.follow here name
  if there.length ≤ here.length then .ok there
  else if longestWay < pathSize there then .error .cannotOpen
  else
    match files.node? here with
    | none => .ok there
    | some .directory =>
      if name.utf8ByteSize ≤ FileTree.longestName then .ok there else .error .cannotOpen
    | some _ => .error .cannotOpen

/-- The place that a path leads to. -/
def placeOf (m : Machine) (path : String) : Except DatabaseFault Place := do
  let start := if Path.isAbsolute path then [] else m.directory
  let p ← (start ++ Path.names path).foldlM (follow m.files) []
  if p.isEmpty || longestPath < pathSize p || path.toList.contains '\x00' then throw .cannotOpen
  return p

/-- Finds the file of a store, or creates it. -/
def reach (m : Machine) (t : Target) : Except DatabaseFault (Handle × Machine) := do
  if t.isTransient then return (⟨none, t.isReadOnly⟩, { m with memory := Tables.empty })
  let p ← placeOf m t.path
  match m.files.node? p with
  | some .directory => throw (if t.access = .reading then .unreadable else .cannotOpen)
  | some _ => return (⟨some p, t.isReadOnly⟩, m)
  | none =>
    if t.access = .creating && m.files.isDirectory p.dropLast then
      return (⟨some p, t.isReadOnly⟩, { m with files := m.files.put p (.file []) })
    throw .cannotOpen

/-- Opens the store of a name, whose parents are there. -/
def openNamed (m : Machine) (name : String) : Outcome Handle × Machine :=
  match Target.ofText name >>= reach m with
  | .error f => (Failure.during (.openingStore name) (.error (Failure.of (.database f))), m)
  | .ok (h, m) => ((h.run applySchema m).1.map fun () => h, (h.run applySchema m).2)

end TenantSync.Store
