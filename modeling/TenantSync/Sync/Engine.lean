import TenantSync.Graph.Diff
import TenantSync.Sync.Apply
import TenantSync.Sync.Fetch
import TenantSync.Text.Fixed

/-! # The engine

A run reads the source and the destination, deletes what the source does not have and
creates what the destination lacks.  Both sets of changes are computed from the snapshots
taken at the start.  A dry run computes them and applies neither.  The first phase that
fails ends the run. -/

namespace TenantSync

section
variable {σ : Type} (source destination : Client σ) (o : Options)

/-- Computes and applies the changes of one phase.  Returns what was planned and what was
    applied. -/
def changePhase (op : Operation) (idle : String) (changes : Graph) : SyncM σ (Counts × Counts) := do
  let phase := Phase.ofOperation op
  SyncM.emit (.phaseStarted phase destination.endpoint)
  SyncM.emit (.changesComputed phase changes.counts)
  if o.dryRun then
    SyncM.emit (.phaseSkipped phase "dry run")
    return (changes.counts, {})
  else if changes.isEmpty then
    SyncM.emit (.phaseSkipped phase idle)
    return (changes.counts, {})
  else
    let applied ←
      (applyChanges destination o.mode op changes).within (.applying op destination.endpoint)
    return (changes.counts, applied)

/-- The deletion phase, which a run that only inserts leaves out. -/
def deletionPhase (s d : Graph) : SyncM σ (Option Counts × Counts) := do
  if o.insertOnly then return (none, {})
  else
    let (planned, deleted) ←
      changePhase destination o .delete "nothing to delete" (Graph.deletions s d)
    return (some planned, deleted)

/-- Goes through both phases with what was read from the two tenants. -/
def carryOut (started : Int) (s d : Graph) : SyncM σ Report := do
  let (deletions?, deleted) ← deletionPhase destination o s d
  let (insertions, inserted) ←
    changePhase destination o .create "nothing to insert" (Graph.insertions s d)
  let report :=
    { sourceEndpoint := source.endpoint
      destinationEndpoint := destination.endpoint
      source := s.counts
      destination := d.counts
      deletions?, insertions, deleted, inserted
      dryRun := o.dryRun
      insertOnly := o.insertOnly
      elapsed := ((← SyncM.now) - started).toNat }
  SyncM.emit (.finished report)
  SyncM.log .info .engine s!"Sync finished in {secondsText report.elapsed}s"
  return report

/-- Makes the destination match the source. -/
def synchronize : SyncM σ Report := do
  let started ← SyncM.now
  SyncM.log .info .engine <|
    s!"Syncing {source.endpoint} -> {destination.endpoint} (dry_run={o.dryRun}, " ++
      s!"insert_only={o.insertOnly}, mode={o.mode.text})"
  SyncM.emit (.phaseStarted .fetchSource source.endpoint)
  let s ← (fetchSnapshot source).within (.fetchingSnapshot .source)
  SyncM.emit (.phaseStarted .fetchDestination destination.endpoint)
  let d ← (fetchSnapshot destination).within (.fetchingSnapshot .destination)
  carryOut source destination o started s d

end

end TenantSync
