import TenantSync.CommandLine.Program
import TenantSync.Store.Document

/-! # The command line

`main` shows the program the machine it runs on: the environment, the working directory,
the time, and the files that a run may read.  Afterwards it writes the store back, prints
the lines of the run and ends with its exit code.  No way leads from here to a host, so a
request fails as on a machine without a network. -/

namespace TenantSync.CommandLine.Process

/-- What stands at a path, if it can be told. -/
def nodeAt (path : String) : IO (Option FileNode) := do
  try
    let bytes := (← IO.FS.readBinFile path).toList
    let text? := (Utf8.decode bytes).toOption
    match text?.bind Store.Document.tables? with
    | some tables => return some (.database tables)
    | none => return some (.file bytes)
  catch _ => return none

/-- The places above a place, from the root on. -/
def placesAbove (p : Place) : List Place := (List.range p.length).map p.take

/-- A place as a path. -/
def pathOf (p : Place) : String := "/" ++ "/".intercalate p

/-- Puts what stands at a path, and the directories above it, into a tree. -/
def withPath (cwd : String) (t : FileTree) (path : String) : IO FileTree := do
  let place := Path.normalize (Path.join cwd path)
  let mut t := t
  for p in placesAbove place ++ [place] do
    if ← ((← IO.currentDir) / pathOf p).isDir then t := t.put p .directory
    else if let some node ← nodeAt (pathOf p) then t := t.put p node
  return t

/-- The names in a directory. -/
def namesIn (path : String) : IO (List String) := do
  try
    return (← ((← IO.currentDir) / path).readDir).toList.map (·.fileName)
  catch _ => return []

/-- The paths that a run may read: environment files, the store and mounted secrets. -/
def pathsToRead (m : Machine) (words : List String) : IO (List String) := do
  let environmentFiles :=
    (placesAbove m.directory ++ [m.directory]).map fun p => pathOf (p ++ [EnvironmentFile.fileName])
  let name? := (Invocation.ofWords words).toOption.bind (·.storePath?)
  let target? := name?.map Store.Target.ofText
  let store := (target?.bind (·.toOption.map (·.path))).or (Store.defaultPath m).toOption
  let mount := Secret.mount m
  let secrets := (← namesIn mount).map fun name => Path.join (Path.join mount name) "value"
  return environmentFiles ++ store.toList ++ secrets

/-- The time, in nanoseconds since 1970. -/
def timeNow : IO Int := do
  let modified := (← ((← IO.currentDir) / "/proc/self/stat").metadata).modified
  return modified.sec * second + modified.nsec.toNat

/-- The machine this process runs on, with the files that a run may read. -/
def thisMachine (words : List String) : IO Machine := do
  let cwd := (← IO.currentDir).toString
  let start : Machine :=
    { environment := Machine.variablesOfBytes (← IO.FS.readBinFile "/proc/self/environ").toList
      directory := Path.normalize cwd
      clock := .frozen (← timeNow) }
  let plain ← (← pathsToRead start words).foldlM (withPath cwd) start.files
  let loaded := EnvironmentFile.load { start with files := plain }
  let files ← (← pathsToRead loaded words).foldlM (withPath cwd) plain
  return { start with files }

/-- Writes the stores of a machine to its files. -/
def writeStores (files : FileTree) : IO Unit :=
  files.entries.forM fun (place, node) => do
    match node with
    | .database tables =>
      IO.FS.createDirAll (pathOf place.dropLast)
      IO.FS.writeFile (pathOf place) (Store.Document.ofTables tables).text
    | _ => return ()

/-- Runs the program on this machine and returns its exit code. -/
def run (words : List String) : IO UInt32 := do
  let m ← thisMachine words
  let terminal ← (← IO.getStdout).isTty
  let result := Program.run m { up := false, hosts := [] } terminal words
  writeStores result.machine.files
  result.printed.forM IO.println
  result.errors.forM IO.eprintln
  return UInt32.ofNat result.exitCode

end TenantSync.CommandLine.Process

/-- The entry point. -/
def main (words : List String) : IO UInt32 := TenantSync.CommandLine.Process.run words
