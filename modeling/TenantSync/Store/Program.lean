import TenantSync.Failure.Basic
import TenantSync.Secret.Resolve
import TenantSync.Store.Basic
import TenantSync.Text.Blank

/-! # Work on the store

A `Program` asks the store one statement after the other and goes on with the answers; it
ends in a value or in a failure.  Each statement takes effect at once, and nothing is
taken back.  `Program.run` runs a program alone and `Program.read` runs it on tables that
must not change; `Interleaving` runs two programs on one store, and a list of `Turn`s says
which of them asks each statement. -/

namespace TenantSync.Store

/-- Why work on the store fails. -/
inductive Fault where
  | blankName
  | unknownContext (name : String)
  /-- A context that must be there is not. -/
  | missingContext (name : String)
  | secret (f : Secret.Fault)
  | database (f : DatabaseFault)
  | file (f : OsFault)
  | noConfigDirectory
  deriving DecidableEq

/-- The explanation of a fault. -/
def Fault.explain : Fault → Reason
  | blankName => .plain "Context name cannot be empty"
  | unknownContext name => .plain s!"Context '{name}' not found"
  | missingContext name =>
    .plain s!"Context '{name}' not found. Use 'authz-sync context list' to see saved contexts"
  | secret f => .plain f.message
  | database f => .foreign .database [f.message]
  | file f => .plain f.message
  | noConfigDirectory => .plain "Could not determine the user config directory"

instance : Explained Fault := ⟨fun f => [f.explain]⟩

/-- The outcome of work on the store. -/
abbrev Outcome (α : Type) := Except (Failure Fault) α

/-- Work on the store. -/
inductive Program (α : Type) where
  | done (r : Outcome α)
  | step (s : Statement) (next : Except DatabaseFault s.Answer → Program α)

namespace Program

variable {α β : Type}

/-- One program after another, unless the first fails. -/
def andThen : Program α → (α → Program β) → Program β
  | done (.ok a), k => k a
  | done (.error f), _ => done (.error f)
  | step s next, k => step s fun r => (next r).andThen k

instance : Monad Program where
  pure a := done (.ok a)
  bind := andThen

/-- Ends in a failure. -/
def fail (f : Fault) : Program α := done (.error (Failure.of f))

/-- Asks one statement as a part of an activity. -/
def ask (a : Activity) (s : Statement) : Program s.Answer :=
  step s fun
    | .ok answer => done (.ok answer)
    | .error f => done (Failure.during a (.error (Failure.of (.database f))))

/-- Runs a program. -/
def run : Program α → Tables → Outcome α × Tables
  | done r, t => (r, t)
  | step s next, t => (next (execute s t).1).run (execute s t).2

/-- Runs a program on tables that may only be read. -/
def read (t : Tables) : Program α → Outcome α
  | done r => r
  | step s next => (next (if s.changes t then .error .readOnly else (execute s t).1)).read t

/-- Runs a program on a database that answers every statement with one fault. -/
def refused (f : DatabaseFault) : Program α → Outcome α
  | done r => r
  | step _ next => (next (.error f)).refused f

end Program

/-- Which of two programs asks its next statement. -/
inductive Turn where
  | first
  | second
  deriving DecidableEq

/-- The turn of the other program. -/
def Turn.other : Turn → Turn
  | first => second
  | second => first

/-- Two programs on one store come to an end: `Interleaving t p q turns u` says that their
    statements, asked in the order of the turns, take the tables from `t` to `u`. -/
inductive Interleaving {α β : Type} :
    Tables → Program α → Program β → List Turn → Tables → Prop where
  | done (t : Tables) (r : Outcome α) (r' : Outcome β) : Interleaving t (.done r) (.done r') [] t
  | left {t u : Tables} {s : Statement} {next : Except DatabaseFault s.Answer → Program α}
      {q : Program β} {turns : List Turn} :
      Interleaving (execute s t).2 (next (execute s t).1) q turns u →
      Interleaving t (.step s next) q (.first :: turns) u
  | right {t u : Tables} {s : Statement} {next : Except DatabaseFault s.Answer → Program β}
      {p : Program α} {turns : List Turn} :
      Interleaving (execute s t).2 p (next (execute s t).1) turns u →
      Interleaving t p (.step s next) (.second :: turns) u

end TenantSync.Store
