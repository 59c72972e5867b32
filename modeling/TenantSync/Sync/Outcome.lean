import TenantSync.Failure.Cause
import TenantSync.Graph.Basic

/-! # How a run ends

A run ends in a `Report` or in a failure.  A failed mutation is a `ChangeFailure`; when
failures are collected, the phase ends in all of them together. -/

namespace TenantSync

/-- How a phase reacts to a failed mutation. -/
inductive FailureMode where
  /-- Ends the phase at the first failure. -/
  | failFast
  /-- Attempts every entity and then fails with all failures together. -/
  | collectErrors
  deriving DecidableEq, Repr

/-- The mode as messages show it. -/
def FailureMode.text : FailureMode → String
  | failFast => "FailFast"
  | collectErrors => "CollectErrors"

/-- The switches of a run. -/
structure Options where
  /-- Compute and report, but change nothing. -/
  dryRun : Bool := false
  /-- Leave out the deletion phase. -/
  insertOnly : Bool := false
  mode : FailureMode := .failFast
  deriving DecidableEq, Repr

/-- A mutation that failed. -/
structure ChangeFailure where
  operation : Operation
  kind : Kind
  id : Uuid
  label : String
  endpoint : String
  fault : Fault
  deriving DecidableEq

/-- The headline of a failed mutation. -/
def ChangeFailure.message (f : ChangeFailure) : String :=
  s!"Failed to {f.operation} {f.kind.singular} {f.label} ({f.id}) on {f.endpoint}"

/-- Why a run fails. -/
inductive SyncCause where
  /-- A listing failed. -/
  | call (c : Cause)
  /-- A mutation failed. -/
  | change (f : ChangeFailure)
  /-- Mutations of a phase failed; all of the phase were attempted. -/
  | changes (op : Operation) (attempted : Nat) (failures : List ChangeFailure)
  /-- The run was told to stop while a kind was being applied. -/
  | interrupted (phase : Phase) (applied : Nat) (k : Kind)
  deriving DecidableEq

/-- The headline of a phase with collected failures, with a line for each of them. -/
def changesMessage (op : Operation) (attempted : Nat) (failures : List ChangeFailure) : String :=
  let lines := failures.map fun f => s!"\n  - {f.message}: {f.fault.text}"
  s!"{failures.length} of {attempted} {op} operations failed{String.join lines}"

instance : Explained SyncCause where
  reasons
    | .call c => [c.explain]
    | .change f => .plain f.message :: f.fault.reasons
    | .changes op attempted failures => [.plain (changesMessage op attempted failures)]
    | .interrupted phase applied k =>
      [.plain s!"{phase.title} interrupted: cancelled after {applied} {k.plural}"]

/-- The failure of a run. -/
abbrev SyncFailure := Failure SyncCause

/-- What a successful run did. -/
structure Report where
  sourceEndpoint : String
  destinationEndpoint : String
  source : Counts
  destination : Counts
  /-- The planned deletions, unless the run only inserts. -/
  deletions? : Option Counts
  insertions : Counts
  deleted : Counts
  inserted : Counts
  dryRun : Bool
  insertOnly : Bool
  /-- How long the run took, in nanoseconds. -/
  elapsed : Nat
  deriving DecidableEq, Repr

end TenantSync
