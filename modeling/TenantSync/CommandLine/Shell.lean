import TenantSync.CommandLine.Basic
import TenantSync.Http.Network
import TenantSync.Store.Open

/-! # What a command works on

A command runs on a machine and a network.  It prints lines, writes to the log and may
fail; what it did before it failed stays done. -/

namespace TenantSync.CommandLine

/-- Why a command fails. -/
inductive Fault where
  | store (f : Store.Fault)
  | endpoint (f : Endpoint.Fault)
  | call (c : Cause)
  | sync (c : SyncCause)
  | noCurrentContext
  | blankClientId
  | emptySecret
  /-- There is nobody who could be asked. -/
  | noTerminal
  deriving DecidableEq

instance : Explained Fault where
  reasons
    | .store f => Explained.reasons f
    | .endpoint f => Explained.reasons f
    | .call c => Explained.reasons c
    | .sync c => Explained.reasons c
    | .noCurrentContext =>
      [.plain "No current context. Pass a name or run 'authz-sync context use <name>'"]
    | .blankClientId => [.plain "Client id cannot be empty"]
    | .emptySecret => [.plain "Client secret cannot be empty"]
    | .noTerminal => [.plain OsFault.noDevice.message]

/-- What a command works on, and what it printed and logged. -/
structure Shell where
  machine : Machine
  network : Http.Network
  /-- Whether somebody looks at what is printed. -/
  terminal : Bool := false
  colours : Bool := false
  printed : List String := []
  logged : List LogLine := []

/-- A step of a command. -/
abbrev ShellM (α : Type) := ExceptT (Failure Fault) (StateM Shell) α

namespace ShellM

variable {α : Type}

/-- Prints a line. -/
def print (line : String) : ShellM Unit :=
  modify fun s => { s with printed := s.printed ++ [line] }

/-- Writes lines to the log. -/
def log (lines : List LogLine) : ShellM Unit :=
  modify fun s => { s with logged := s.logged ++ lines }

/-- Fails when a part of the command does. -/
def ofExcept {ε : Type} (fault : ε → Fault) : Except (Failure ε) α → ShellM α
  | .ok a => pure a
  | .error f => throw (f.map fault)

/-- Replaces the machine. -/
def setMachine (m : Machine) : ShellM Unit := modify fun s => { s with machine := m }

/-- Opens the store. -/
def openStore (name? : Option String) : ShellM Store.Handle := do
  let name ← match name? with
    | some name => pure name
    | none => ofExcept .store (Store.defaultPath (← get).machine)
  setMachine (← ofExcept .store (Store.makeParents (← get).machine name))
  log [Store.openingNotice name]
  let (outcome, m) := Store.openNamed (← get).machine name
  setMachine m
  ofExcept .store outcome

/-- Runs a program on a store. -/
def onStore (h : Store.Handle) (p : Store.Program α) : ShellM α := do
  let (outcome, m) := h.run p (← get).machine
  setMachine m
  ofExcept .store outcome

end ShellM

end TenantSync.CommandLine
