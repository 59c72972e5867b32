import TenantSync.CommandLine.Shell
import TenantSync.Text.Styled
import TenantSync.Text.Timestamp

/-! # Commands on contexts

What the commands on saved contexts do with the store and what they print. -/

namespace TenantSync.CommandLine

/-- The state of a command on contexts: the tables and the lines that were printed. -/
structure ContextState where
  tables : Store.Tables
  /-- Whether the tables must not change. -/
  readOnly : Bool := false
  printed : List String := []

/-- A step of a command on contexts. -/
abbrev ContextM (α : Type) := ExceptT (Failure Fault) (StateM ContextState) α

namespace ContextM

/-- Runs a program on the store. -/
def ask {α : Type} (p : Store.Program α) : ContextM α := fun s =>
  let (outcome, tables) := if s.readOnly then (p.read s.tables, s.tables) else p.run s.tables
  (outcome.mapError fun f => f.map .store, { s with tables })

/-- Prints a line. -/
def print (line : String) : ContextM Unit :=
  modify fun s => { s with printed := s.printed ++ [line] }

/-- Fails. -/
def fail {α : Type} (f : Fault) : ContextM α := throw (Failure.of f)

/-- What is shown when no context is saved. -/
def emptyList : String :=
  "No contexts saved. " ++
    "Add one with 'authz-sync context set <name> --url <url> --client-id <id>'"

section
variable (colours : Bool)

/-- The width of the column of names: that of the longest, in bytes. -/
def nameWidth (cs : List Store.SavedContext) : Nat :=
  cs.foldl (fun width c => max width c.name.utf8ByteSize) 4

/-- The headline of the list. -/
def headline (width : Nat) : String :=
  s!"  {paint colours [.bold] (padRight width name)}  {paint colours [.bold] url}"
where
  name := "NAME"
  url := "URL"

/-- A context as a line of the list. -/
def listLine (width : Nat) (current? : Option String) (c : Store.SavedContext) : String :=
  let isCurrent := current? == some c.name
  let style := if isCurrent then [Paint.bold, .green] else []
  let marker := paint colours style (if isCurrent then "*" else " ")
  s!"{marker} {paint colours style (padRight width c.name)}  {paint colours [.dimmed] c.url}"

/-- Lists the contexts. -/
def list : ContextM Unit := do
  match ← ask Store.listContexts with
  | [] => print emptyList
  | contexts =>
    let current? ← ask Store.current
    let width := nameWidth contexts
    print (headline colours width)
    contexts.forM fun c => print (listLine colours width current? c)

/-- The name of a context as a success shows it. -/
def shownName (name : String) : String := paint colours [.bold, .cyan] name

/-- Shows one context: the current one when no name is given. -/
def showOne (name? : Option String) : ContextM Unit := do
  let name ← match name? with
    | some name => pure name
    | none =>
      match ← ask Store.current with
      | some name => pure name
      | none => fail .noCurrentContext
  let c ← ask (Store.requireContext name)
  let mark := if (← ask Store.current) = some c.name then " (current)" else ""
  print s!"{shownName colours c.name}{mark}"
  print s!"  URL:           {c.url}"
  print s!"  Client ID:     {c.clientId}"
  print s!"  Client secret: {c.clientSecret.masked}"
  print s!"  Created:       {Timestamp.text c.createdAt}"
  print s!"  Updated:       {Timestamp.text c.updatedAt}"

/-- Checks what is to be saved and returns the place of the secret. -/
def checkContext (url clientId : String) (clientSecret? : Option String) :
    Except (Failure Fault) Secret.Location := do
  let _ ← (Url.ofTenant url).mapError fun f => f.map .call
  if isBlankText clientId then throw (Failure.of .blankClientId)
  match clientSecret? with
  | none => Failure.during .askingSecret (throw (Failure.of .noTerminal))
  | some secret =>
    if secret.isEmpty then throw (Failure.of .emptySecret)
    return Secret.Location.ofUserInput secret

/-- Saves a context. -/
def save (now : Int) (name url clientId : String) (clientSecret? : Option String) :
    ContextM Unit := do
  let location ← (checkContext url clientId clientSecret? : Except _ _)
  ask (Store.saveContext name url clientId location now)
  print s!"Saved context {shownName colours name}"
  if (← ask Store.current) = some name then
    print s!"  {name} is the current context"

end

end ContextM

/-- Carries a command on contexts out. -/
def ContextCommand.perform (colours : Bool) (now : Int) : ContextCommand → ContextM Unit
  | list => ContextM.list colours
  | showOne name? => ContextM.showOne colours name?
  | set name url clientId clientSecret? =>
    ContextM.save colours now name url clientId clientSecret?
  | use name => do
    ContextM.ask (Store.useContext name)
    ContextM.print s!"Switched to context {ContextM.shownName colours name}"
  | delete name => do
    ContextM.ask (Store.deleteContext name)
    ContextM.print s!"Deleted context {ContextM.shownName colours name}"

/-- Opens the store and carries a command on contexts out. -/
def manageContexts (path? : Option String) (c : ContextCommand) : ShellM Unit := do
  let store ← ShellM.openStore path?
  let s ← get
  let tables := (store.tables s.machine).toOption.getD .empty
  let (outcome, after) :=
    (c.perform s.colours s.machine.clock.now).run { tables, readOnly := store.readOnly }
  let m := if store.readOnly then s.machine else store.put after.tables s.machine
  ShellM.setMachine { m with clock := m.clock.tick }
  after.printed.forM ShellM.print
  ShellM.ofExcept id outcome

end TenantSync.CommandLine
