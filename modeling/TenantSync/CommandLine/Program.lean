import TenantSync.CommandLine.Contexts
import TenantSync.CommandLine.Synchronize
import TenantSync.Machine.EnvironmentFile
import TenantSync.Session.LogFilter

/-! # The program

`Program.run` is one run of the program: it loads the environment file, reads the command
line, carries the command out and says what standard output, standard error and the exit
code are. -/

namespace TenantSync.CommandLine

/-- Carries a command out. -/
def Invocation.perform (i : Invocation) : ShellM Unit :=
  match i.command with
  | .sync arguments => synchronizeTenants i.storePath? arguments
  | .context c => manageContexts i.storePath? c

namespace Program

/-- The name of the program. -/
def name : String := "authz-sync"

/-- The version of the program. -/
def version : String := "0.1.0"

/-- The variable that says which lines of the log are shown. -/
def filterVariable : String := "RUST_LOG"

/-- Which lines of the log are shown when nothing else is said: warnings, and the program's own
    lines down to a level that depends on whether more output was asked for. -/
def defaultFilter (verbose : Bool) : String :=
  if verbose then "warn,authz_sync=debug" else "warn,authz_sync=info"

/-- What a run leaves behind. -/
structure Result where
  exitCode : Nat
  /-- The lines on standard output. -/
  printed : List String
  /-- The lines on standard error. -/
  errors : List String
  machine : Machine
  network : Http.Network

/-- What is said about a command line that is not carried out. -/
def usageText : UsageFault → String
  | .helpWanted | .versionWanted _ => ""
  | .nothingGiven | .noCommand => "error: a command is missing"
  | .unknownCommand => "error: unknown command"
  | .unknownArgument => "error: unexpected argument"
  | .missingValue => "error: an option has no value"
  | .unneededValue => "error: a switch takes no value"
  | .repeated => "error: an argument is given twice"
  | .badValue => "error: an option has an invalid value"
  | .missingArgument => "error: a required argument is missing"

/-- The end of a run whose command line is not carried out.  Asking for help or for the version
    is no mistake. -/
def refuse (m : Machine) (n : Http.Network) : UsageFault → Result
  | .helpWanted => ⟨0, [s!"Usage: {name} [--config-db <PATH>] <COMMAND>"], [], m, n⟩
  | .versionWanted path => ⟨0, ["-".intercalate (name :: path) ++ s!" {version}"], [], m, n⟩
  | f => ⟨2, [], [usageText f], m, n⟩

/-- The failure of a command as standard error shows it. -/
def failureLine (colours : Bool) (f : Failure Fault) : String :=
  s!"{paint colours [.bold, .red] label} {f.text}"
where
  label := "Error:"

/-- Carries a command out and shows what it logged. -/
def carryOut (m : Machine) (n : Http.Network) (terminal : Bool) (i : Invocation) : Result :=
  let (outcome, s) := i.perform.run { machine := m, network := n, terminal, colours := terminal }
  let (filter, warnings) :=
    LogFilter.parse ((m.lookup? filterVariable).getD (defaultFilter i.command.verbose))
  let painted := LogStyle.isPainted m.lookup? terminal
  let shown := warnings ++ (s.logged.filter filter.shows).map (LogLine.shown painted)
  match outcome with
  | .ok () => ⟨0, s.printed, shown, s.machine, s.network⟩
  | .error f => ⟨1, s.printed, shown ++ [failureLine s.colours f], s.machine, s.network⟩

/-- One run of the program. -/
def run (m : Machine) (n : Http.Network) (terminal : Bool) (words : List String) : Result :=
  let m := EnvironmentFile.load m
  match Invocation.ofWords words with
  | .error f => refuse m n f
  | .ok i => carryOut m n terminal i

end Program

end TenantSync.CommandLine
