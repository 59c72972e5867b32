import TenantSync.CommandLine.Reading
import TenantSync.Endpoint
import TenantSync.Sync.Outcome

/-! # Commands

What a user can ask the program to do, and the grammar of its command line. -/

namespace TenantSync.CommandLine

/-- The arguments of a synchronisation. -/
structure SyncArguments where
  source : EndpointFlags
  destination : EndpointFlags
  options : Options
  pageSize : Nat
  maxAttempts : Nat
  /-- How long to wait for an answer, in seconds. -/
  timeout : Nat
  verbose : Bool
  noColor : Bool
  deriving DecidableEq, Repr

/-- What is said explicitly about a side. -/
def SyncArguments.flags (a : SyncArguments) : Side → EndpointFlags
  | .source => a.source
  | .destination => a.destination

/-- A command on the saved contexts. -/
inductive ContextCommand where
  | list
  | showOne (name? : Option String)
  | set (name url clientId : String) (clientSecret? : Option String)
  | use (name : String)
  | delete (name : String)
  deriving DecidableEq, Repr

/-- A command. -/
inductive Command where
  | sync (arguments : SyncArguments)
  | context (c : ContextCommand)
  deriving DecidableEq, Repr

/-- Whether a command asks for more output. -/
def Command.verbose : Command → Bool
  | sync arguments => arguments.verbose
  | context _ => false

/-- A command and where the store is, unless it is at its usual place. -/
structure Invocation where
  command : Command
  storePath? : Option String
  deriving DecidableEq, Repr

/-! ## The grammar -/

/-- The option that says where the store is.  It may stand at every level. -/
def storeOption : ValueOption := ⟨"config-db", .path, false⟩

/-- The options about one side of a synchronisation. -/
def sideOptions (side : Side) : List ValueOption :=
  [⟨side.text, .text, false⟩, ⟨s!"{side}-url", .text, false⟩,
    ⟨s!"{side}-client-id", .text, false⟩, ⟨s!"{side}-client-secret-var", .text, false⟩]

/-- The largest page size and number of attempts. -/
def max32 : Nat := 0xFFFFFFFF

/-- An option with a number: what it may be and what it is when it is not given. -/
structure NumberOption where
  name : String
  bound : Nat
  signed : Bool
  default : Nat

/-- The option as a part of the grammar. -/
def NumberOption.option (o : NumberOption) : ValueOption :=
  ⟨o.name, .number o.bound o.signed, false⟩

/-- The number that was given. -/
def NumberOption.value (o : NumberOption) (f : Found) : Nat :=
  ((f.value? o.name).bind (ValueRule.number? o.bound o.signed)).getD o.default

/-- How many entities a page should hold. -/
def pageSizeOption : NumberOption := ⟨"page-size", max32, true, 1000⟩

/-- How often a read is attempted. -/
def maxAttemptsOption : NumberOption := ⟨"max-attempts", max32, true, 3⟩

/-- How long to wait for an answer, in seconds. -/
def timeoutOption : NumberOption := ⟨"timeout", Numeral.max64, false, 60⟩

/-- What was found about one side. -/
def EndpointFlags.ofFound (side : Side) (f : Found) : EndpointFlags :=
  let standard : EndpointFlags := {}
  { context? := f.value? side.text
    url? := f.value? s!"{side}-url"
    clientId? := f.value? s!"{side}-client-id"
    secretVariable := (f.value? s!"{side}-client-secret-var").getD standard.secretVariable }

/-- The arguments of a synchronisation that were found. -/
def SyncArguments.ofFound (f : Found) : SyncArguments where
  source := EndpointFlags.ofFound .source f
  destination := EndpointFlags.ofFound .destination f
  options :=
    { dryRun := f.has "dry-run"
      insertOnly := f.has "insert-only"
      mode := if f.has "continue-on-error" then .collectErrors else .failFast }
  pageSize := pageSizeOption.value f
  maxAttempts := maxAttemptsOption.value f
  timeout := timeoutOption.value f
  verbose := f.has "verbose"
  noColor := f.has "no-color"

/-- The command lines of a synchronisation. -/
def syncGrammar : Grammar Command :=
  .command
    (storeOption :: sideOptions .source ++ sideOptions .destination ++
      [pageSizeOption.option, maxAttemptsOption.option, timeoutOption.option])
    [⟨"dry-run", none, .flag⟩, ⟨"insert-only", none, .flag⟩, ⟨"continue-on-error", none, .flag⟩,
      ⟨"verbose", some 'v', .flag⟩, ⟨"no-color", none, .flag⟩]
    []
    fun f => .sync (SyncArguments.ofFound f)

/-- The positional argument that names a context. -/
def nameArgument : String := "NAME"

/-- The command lines of a command on contexts that needs no more than a name. -/
def namedGrammar (required : Bool) (build : Option String → ContextCommand) : Grammar Command :=
  .command [storeOption] [] [⟨nameArgument, required⟩] fun f =>
    .context (build (f.value? nameArgument))

/-- The command lines that save a context. -/
def setGrammar : Grammar Command :=
  .command
    [storeOption, ⟨"url", .text, true⟩, ⟨"client-id", .text, true⟩, ⟨"client-secret", .text, false⟩]
    [] [⟨nameArgument, true⟩]
    fun f =>
      let given (name : String) := (f.value? name).getD ""
      .context
        (.set (given nameArgument) (given "url") (given "client-id") (f.value? "client-secret"))

/-- The command lines of the program. -/
def grammar : Grammar Command :=
  .group [storeOption]
    [("sync", .group [storeOption] [("tenant", syncGrammar)]),
      ("context", .group [storeOption]
        [("list", .command [storeOption] [] [] fun _ => .context .list),
          ("show", namedGrammar false .showOne),
          ("set", setGrammar),
          ("use", namedGrammar true fun name? => .use (name?.getD "")),
          ("delete", namedGrammar true fun name? => .delete (name?.getD ""))])]

/-- Reads a command line.  Of several places for the store the innermost counts. -/
def Invocation.ofWords (words : List String) : Except UsageFault Invocation := do
  let (command, levels) ← grammar.read {} words
  return ⟨command, levels.reverse.findSome? (·.value? storeOption.name)⟩

end TenantSync.CommandLine
