import TenantSync.Proofs.Sync.Course

/-!
# The stages of a run

A run first reads both tenants (`snapshots`) and then carries out what it read
(`run_synchronize`).  `Proceeds` says what can be sent and returned from there on: the deletion
phase fails, or it succeeds and the insertion phase fails, or both succeed.  `carryOut_proceeds`
says that every run, with whatever client, proceeds in one of these ways.
-/

namespace TenantSync

section
variable {σ : Type} (source destination : Client σ) (o : Options)

/-- What a run does first: it says what it is about to do, and reads both tenants. -/
def snapshots : SyncM σ (Graph × Graph) := do
  SyncM.log .info .engine <|
    s!"Syncing {source.endpoint} -> {destination.endpoint} (dry_run={o.dryRun}, " ++
      s!"insert_only={o.insertOnly}, mode={o.mode.text})"
  SyncM.emit (.phaseStarted .fetchSource source.endpoint)
  let s ← (fetchSnapshot source).within (.fetchingSnapshot .source)
  SyncM.emit (.phaseStarted .fetchDestination destination.endpoint)
  let d ← (fetchSnapshot destination).within (.fetchingSnapshot .destination)
  return (s, d)

/-- A run reads the clock and both tenants, and carries out what it has read. -/
theorem run_synchronize (r : Run σ) :
    (synchronize source destination o).run r =
      match (snapshots source destination o).run r.tick with
      | (.ok (s, d), r') => (carryOut source destination o r.clock.now s d).run r'
      | (.error f, r') => (.error f, r') := by
  simp only [synchronize, snapshots, SyncM.run_bind, SyncM.run_now, SyncM.run_log, SyncM.run_emit]
  rcases (SyncM.within (.fetchingSnapshot .source) (fetchSnapshot source)).run _ with ⟨f | s, r'⟩
  · rfl
  dsimp only
  rcases (SyncM.within (.fetchingSnapshot .destination) (fetchSnapshot destination)).run _
    with ⟨f | d, r''⟩ <;> rfl

/-- Both phases of a run.  What they report leaves open how long the run took. -/
def phases (s d : Graph) : SyncM σ Report := do
  let (deletions?, deleted) ← deletionPhase destination o s d
  let (insertions, inserted) ←
    changePhase destination o .create "nothing to insert" (Graph.insertions s d)
  return {
    sourceEndpoint := source.endpoint
    destinationEndpoint := destination.endpoint
    source := s.counts
    destination := d.counts
    deletions?, insertions, deleted, inserted
    dryRun := o.dryRun
    insertOnly := o.insertOnly
    elapsed := 0 }

/-- What a run does last: it looks at the clock again and reports. -/
def conclude (started : Int) (report : Report) : SyncM σ Report := do
  let report := { report with elapsed := ((← SyncM.now) - started).toNat }
  SyncM.emit (.finished report)
  SyncM.log .info .engine s!"Sync finished in {secondsText report.elapsed}s"
  return report

/-- What was read is carried out in both phases, and then reported. -/
theorem run_carryOut (started : Int) (s d : Graph) (r : Run σ) :
    (carryOut source destination o started s d).run r =
      match (phases source destination o s d).run r with
      | (.ok report, r') => (conclude started report).run r'
      | (.error f, r') => (.error f, r') := by
  simp only [carryOut, phases, conclude, SyncM.run_bind]
  rcases (deletionPhase destination o s d).run r with ⟨f | ⟨deletions?, deleted⟩, r'⟩
  · rfl
  dsimp only
  rcases (changePhase destination o .create "nothing to insert" (Graph.insertions s d)).run r'
    with ⟨f | ⟨insertions, inserted⟩, r''⟩ <;> rfl

/-- Reporting always succeeds. -/
theorem run_conclude (started : Int) (report : Report) (r : Run σ) :
    (conclude started report).run r =
      let report := { report with elapsed := (r.clock.now - started).toNat }
      (.ok report, (r.tick.tell (.finished report)).write
        ⟨.info, .engine, s!"Sync finished in {secondsText report.elapsed}s"⟩) := rfl

/-- All of a run but its report: both tenants are read, and what was read is carried out. -/
def carriedOut : SyncM σ Report := do
  let (s, d) ← snapshots source destination o
  phases source destination o s d

/-- A run reads the clock, does all it has to do, and reports. -/
theorem run_synchronize_eq_conclude (r : Run σ) :
    (synchronize source destination o).run r =
      match (carriedOut source destination o).run r.tick with
      | (.ok report, r') => (conclude r.clock.now report).run r'
      | (.error f, r') => (.error f, r') := by
  simp only [run_synchronize, carriedOut, SyncM.run_bind, run_carryOut]
  rcases (snapshots source destination o).run r.tick with ⟨f | ⟨s, d⟩, r'⟩ <;> rfl

/-- What the listings of both tenants read is what the snapshots hold. -/
theorem snapshots_reads {stops : Prop} {W : σ → Prop} {P Q : Kind → Prop} {s d : Graph}
    {source destination : Client σ} (hs : source.Lists stops W P s)
    (hd : destination.Lists stops W Q d) (o : Options) :
    SyncM.Reads stops W ((∀ k, P k) ∧ ∀ k, Q k) (s, d) (snapshots source destination o) := by
  have hall : True ∧ True ∧ (∀ k, P k) ∧ True ∧ (∀ k, Q k) ∧ True ↔ (∀ k, P k) ∧ ∀ k, Q k := by
    simp only [true_and, and_true]
  refine SyncM.Reads.congr hall ?_
  refine (SyncM.Reads.log _ _ _).bind ((SyncM.Reads.emit _).bind ?_)
  refine ((fetchSnapshot_reads hs).within _).bind ((SyncM.Reads.emit _).bind ?_)
  exact ((fetchSnapshot_reads hd).within _).bind SyncM.Reads.pure

end

/-- `Proceeds endpoint o cancelled deletions insertions calls out`: a run with these two plans may
    send `calls` to the destination and return `out`. -/
inductive Proceeds (endpoint : String) (o : Options) (cancelled : Prop)
    (deletions insertions : List Entity) :
    List (Mutation × Bool) → Except SyncFailure Report → Prop where
  | undeleted {outcomes : List (Entity × Bool)} {f : SyncFailure}
      (hdel : PhaseEnds (α := Option Counts × Counts) endpoint o.mode .delete cancelled deletions
        outcomes (.error f)) :
      Proceeds endpoint o cancelled deletions insertions (Operation.delete.sent outcomes) (.error f)
  | uncreated {outcomes : List (Entity × Bool)} {f : SyncFailure}
      (hins : PhaseEnds (α := Counts × Counts) endpoint o.mode .create cancelled insertions outcomes
        (.error f)) :
      Proceeds endpoint o cancelled deletions insertions
        (Operation.delete.sent (deletions.map (·, true)) ++ Operation.create.sent outcomes)
        (.error f)
  | done (report : Report) :
      Proceeds endpoint o cancelled deletions insertions
        (Operation.delete.sent (deletions.map (·, true)) ++
          Operation.create.sent (insertions.map (·, true))) (.ok report)

/-- Every run carries out its plans in one of these ways. -/
theorem carryOut_proceeds {σ : Type} (source destination : Client σ) (o : Options) (started : Int)
    (s d : Graph) (r : Run σ) :
    ∃ calls,
      ((carryOut source destination o started s d).run r).2.mutations = r.mutations ++ calls ∧
      Proceeds destination.endpoint o
        (((carryOut source destination o started s d).run r).2.token.cancelled = true)
        (o.deletionPlan s d) (o.plan .create (Graph.insertions s d)) calls
        ((carryOut source destination o started s d).run r).1 := by
  obtain ⟨outcomes, hsent, hends⟩ := deletionPhase_ends destination o s d r
  simp only [run_carryOut, phases, SyncM.run_bind]
  rcases hrun : (deletionPhase destination o s d).run r with ⟨f | ⟨planned?, deleted⟩, r'⟩ <;>
    rw [hrun] at hsent hends
  case error => exact ⟨_, hsent, .undeleted hends⟩
  case ok =>
    cases hends
    obtain ⟨outcomes', hsent', hends'⟩ :=
      changePhase_ends destination o .create "nothing to insert" (Graph.insertions s d) r'
    dsimp only
    rcases hrun' : (changePhase destination o .create "nothing to insert"
      (Graph.insertions s d)).run r' with ⟨f | ⟨planned, inserted⟩, r''⟩ <;>
      rw [hrun'] at hsent' hends' <;> rw [hsent, List.append_assoc] at hsent'
    case error => exact ⟨_, hsent', .uncreated hends'⟩
    case ok =>
      cases hends'
      -- The report and the last line are no calls.
      simp only [SyncM.run_pure, run_conclude, Run.write_mutations, Run.tell_mutations,
        Run.tick_mutations]
      exact ⟨_, hsent', .done _⟩

end TenantSync
