import TenantSync.Session.Log
import TenantSync.Text.Plain

/-! # How the log is shown

A line of the log is shown with its level and the name of its component.  Where standard
error takes colours, level and brackets are painted; elsewhere nothing is shown that would
control a terminal.  `LogStyle.isPainted` says which of both is wanted. -/

namespace TenantSync

/-- The name of a component in the log. -/
def Component.target : Component → String
  | engine => "authz_sync::sync::engine"
  | fetch => "authz_sync::sync::fetch"
  | apply => "authz_sync::sync::apply"
  | progress => "authz_sync::sync::progress"
  | http => "authz_sync::api::http"
  | token => "authz_sync::api::auth"
  | store => "authz_sync::config"
  | secret => "authz_sync::secret::providers"
  | command => "authz_sync::cli::commands::sync::handler"

/-- The control sequences that paint the name of a level. -/
def Level.paint : Level → String
  | error => "\x1b[1m\x1b[31m"
  | warn => "\x1b[33m"
  | info => "\x1b[32m"
  | debug => "\x1b[34m"
  | trace => "\x1b[36m"

/-- A line as standard error shows it.  Further lines of its text are indented. -/
def LogLine.shown (painted : Bool) (l : LogLine) : String :=
  let level := l.level.text ++ String.ofList (List.replicate (5 - l.level.text.length) ' ')
  let text := l.text.replace "\n" "\n    "
  if painted then
    let reset := "\x1b[0m"
    let faint (s : String) := "\x1b[90m" ++ s ++ reset
    faint "[" ++ l.level.paint ++ level ++ reset ++ " " ++ l.component.target ++ faint "]" ++ " " ++
      text
  else Plain.strip s!"[{level} {l.component.target}] {text}"

namespace LogStyle

/-- The variable that says whether the log is painted. -/
def variableName : String := "RUST_LOG_STYLE"

/-- Whether colours are wanted when nothing is said about the log: what the variables for all
    programs say, or else whether there is a terminal that shows them. -/
def byDefault (lookup : String → Option String) (terminal : Bool) : Bool :=
  let isSet (name : String) : Bool := (lookup name).any (!·.isEmpty)
  if isSet "NO_COLOR" then false
  else if isSet "CLICOLOR_FORCE" then true
  else
    match lookup "CLICOLOR" with
    | some "0" => false
    | some _ => terminal
    | none => terminal && ((lookup "TERM").any (· ≠ "dumb") || (lookup "CI").isSome)

/-- Whether the log is painted; `lookup` gives the values of variables. -/
def isPainted (lookup : String → Option String) (terminal : Bool) : Bool :=
  match lookup variableName with
  | some "always" => true
  | some "never" => false
  | _ => byDefault lookup terminal

end LogStyle

end TenantSync
