import TenantSync.Machine.FileTree
import TenantSync.Session.Clock

/-! # The machine

A `Machine` is what the program finds around itself: the environment variables, the
working directory, the files and the clock. -/

namespace TenantSync

/-- The surroundings of the program. -/
structure Machine where
  /-- The environment variables by name. -/
  environment : List (String × String) := []
  /-- The working directory. -/
  directory : Place := []
  files : FileTree := {}
  /-- The tables of a store that is in no file. -/
  memory : Store.Tables := .empty
  clock : Clock := default
  /-- The home directory of the user's account. -/
  home? : Option String := none
  deriving Inhabited

namespace Machine

/-- The value of an environment variable.  The environment holds lines that consist of a name,
    an equals sign and a value; a variable is found by the beginning of its line. -/
def lookup? (m : Machine) (name : String) : Option String :=
  if name.isEmpty then none
  else
    let start := name.toList ++ ['=']
    m.environment.findSome? fun (n, v) =>
      let line := n.toList ++ '=' :: v.toList
      if start.isPrefixOf line then some (String.ofList (line.drop start.length)) else none

/-- A line of the environment as a name and a value. -/
def variableOfLine (line : List Char) : String × String :=
  let name := line.takeWhile (· ≠ '=')
  (String.ofList name, String.ofList (line.drop (name.length + 1)))

/-- The environment variables of a process, each of which ends in a zero byte. -/
def variablesOfBytes (bytes : List UInt8) : List (String × String) :=
  let lines := (bytes.splitOn 0).filter (!·.isEmpty)
  lines.filterMap fun line =>
    (Utf8.decode line).toOption.map fun text => variableOfLine text.toList

/-- The machine with another environment variable. -/
def withVariable (m : Machine) (name value : String) : Machine :=
  { m with environment := m.environment ++ [(name, value)] }

/-- The value of an environment variable, unless it is empty. -/
def nonEmpty? (m : Machine) (name : String) : Option String :=
  (m.lookup? name).filter (!·.isEmpty)

/-- The text in a file. -/
def readText (m : Machine) (path : String) : Except OsFault String :=
  m.files.readText m.directory path

/-- The directory for the user's settings: the one that is named for them, if it is absolute, or
    else one in the home directory. -/
def configDirectory? (m : Machine) : Option String :=
  match (m.lookup? "XDG_CONFIG_HOME").filter Path.isAbsolute with
  | some directory => some directory
  | none => ((m.nonEmpty? "HOME").or m.home?).map fun home => Path.join home ".config"

end Machine

end TenantSync
